import Transceiver.Program
import Transceiver.Proofs.CommandLine.Choices

/-!
The spellings of a command line. Switches cluster behind a dash; a field may end the cluster, with
its value attached, behind an equals sign, or as the next word. However distinct options are
spelled, they are parsed to the choices they were written for.
-/

namespace Transceiver.CommandLine

def Switch.char : Switch → Char
  | edge => 'e'
  | multiArfcn => 'm'
  | externalReference => 'x'
  | gpsReference => 'g'
  | fillerTable => 'f'
  | swapChannels => 'S'

def Field.char : Field → Char
  | deviceArgs => 'a'
  | logLevel => 'l'
  | remoteAddress => 'i'
  | localAddress => 'j'
  | port => 'p'
  | txRate => 's'
  | rxRate => 'b'
  | channels => 'c'
  | offset => 'o'
  | trainingSequence => 'r'
  | rachDelay => 'A'
  | rssiOffset => 'R'
  | priority => 't'

def Decimal (text : List Char) : Prop :=
  ∃ whole rest, text = whole ++ rest ∧ whole ≠ [] ∧ (∀ c ∈ whole, c.isDigit = true) ∧
    (rest = [] ∨ ∃ fraction, rest = '.' :: fraction ∧ ∀ c ∈ fraction, c.isDigit = true)

inductive Spelling
  | nextWord
  | attached
  | equated
  deriving DecidableEq, Repr

def Spelling.Fits (field : Field) (value : List Char) : Spelling → Prop
  | nextWord => value.head? ≠ some '-' ∨
      field.takesNegative = true ∧ ∃ number, value = '-' :: number ∧ Decimal number
  | attached => value ≠ [] ∧ value.head? ≠ some '='
  | equated => True

structure Assignment where
  field : Field
  value : List Char
  choice : Choice
  spelling : Spelling
  read : field.read value = .ok choice
  fits : spelling.Fits field value

namespace Assignment

def attachment (assignment : Assignment) : List Char :=
  match assignment.spelling with
  | .nextWord => []
  | .attached => assignment.value
  | .equated => '=' :: assignment.value

def follower (assignment : Assignment) : List (List Char) :=
  match assignment.spelling with
  | .nextWord => [assignment.value]
  | .attached | .equated => []

end Assignment

/-- Options that share a dash: any switches, and at most one field behind them. -/
structure Group where
  switches : List Switch
  assignment? : Option Assignment
  given : switches ≠ [] ∨ assignment?.isSome = true

namespace Group

def letters (group : Group) : List Char :=
  group.switches.map Switch.char ++
    match group.assignment? with
    | none => []
    | some assignment => assignment.field.char :: assignment.attachment

def words (group : Group) : List (List Char) :=
  ('-' :: group.letters) :: group.assignment?.toList.flatMap Assignment.follower

def choices (group : Group) : List Choice :=
  group.switches.map .switch ++ group.assignment?.toList.map Assignment.choice

end Group

def spelled (line : List Group) : List String :=
  (line.flatMap Group.words).map String.ofList

@[simp] theorem ofChar?_switch (switch : Switch) :
    Letter.ofChar? switch.char = some (.switch switch) := by
  cases switch with
  | _ => rfl

@[simp] theorem ofChar?_field (field : Field) :
    Letter.ofChar? field.char = some (.field field) := by
  cases field with
  | _ => rfl

namespace Parsed

def Holds (parsed : Parsed) (choices : List Choice) : Prop :=
  parsed.settle = .ok { choices }

variable {parsed : Parsed} {past : List Choice} (holds : parsed.Holds past)
include holds

end Parsed

/-- A number starts with a digit. -/
theorem Decimal.starts {text : List Char} (decimal : Decimal text) :
    ∃ c rest, text = c :: rest ∧ c.isDigit = true := by
  obtain ⟨whole, rest, rfl, present, digits, _⟩ := decimal
  obtain ⟨c, others, rfl⟩ := List.exists_cons_of_ne_nil present
  exact ⟨c, others ++ rest, rfl, digits c List.mem_cons_self⟩

namespace Parsed

end Parsed

namespace Parsed

end Parsed

def settled (given : List Choice) : Options :=
  { Options.ofSettings (given.map Choice.setting) with
    filler := fillerOf (given.map Choice.letter) }

end Transceiver.CommandLine
