import Transceiver.CommandLine.Usage
import Transceiver.Text.Split

/-!
Parsing the words of a command line from left to right; the first problem ends the parse. Switches
cluster behind one dash, and the rest of a cluster behind a field is the field's value, without one
leading equals sign. A field at the end of a cluster takes the next word. Such a value is only read
when the next known option or the end is reached, so that an unknown word behind it is reported
first.
-/

namespace Transceiver.CommandLine

inductive Stop
  | query (query : Query)
  | error (error : UsageError)
  deriving DecidableEq, Repr

structure Parsed where
  choices : List Choice := []
  pending : Option (Field × Option (List Char)) := none
  deriving DecidableEq, Repr

def isExponentMark (c : Char) : Bool :=
  c = 'e' || c = 'E'

/-- Digits with at most one point, not at the front and not behind the exponent mark, and at most
one exponent mark, neither first nor last. -/
def looksNumeric (text : List Char) : Bool :=
  let whole := text.takeWhile Char.isDigit
  let afterPoint (rest : List Char) : List Char :=
    match rest with
    | '.' :: tail => if whole = [] then rest else tail.dropWhile Char.isDigit
    | _ => rest
  match afterPoint (text.dropWhile Char.isDigit) with
  | [] => true
  | c :: digits =>
      isExponentMark c && whole ≠ [] && !digits.isEmpty && digits.all Char.isDigit

def Field.accepts (field : Field) : List Char → Bool
  | ['-'] => true
  | '-' :: rest => field.takesNegative && looksNumeric rest
  | _ => true

namespace Parsed

def entered (parsed : Parsed) : List Letter :=
  parsed.choices.map Choice.letter

def enters (parsed : Parsed) (letter : Letter) : Bool :=
  parsed.entered.contains letter

def given (parsed : Parsed) : List Letter :=
  match parsed.pending with
  | some (field, some _) =>
      if parsed.enters (.field field) then parsed.entered.erase (.field field)
      else parsed.entered ++ [.field field]
  | _ => parsed.entered

def assign (parsed : Parsed) (field : Field) (value : List Char) : Except Stop Parsed :=
  if parsed.enters (.field field) then .error (.error (.repeatedField field))
  else
    match field.read value with
    | .ok choice => .ok { parsed with choices := parsed.choices ++ [choice] }
    | .error reason => .error (.error (.invalidValue field (String.ofList value) reason))

def settle (parsed : Parsed) : Except Stop Parsed :=
  match parsed.pending with
  | none => .ok parsed
  | some (field, none) => .error (.error (.missingValue field))
  | some (field, some value) => { parsed with pending := none }.assign field value

def turnOn (parsed : Parsed) (switch : Switch) : Except Stop Parsed :=
  if parsed.enters (.switch switch) then .error (.error (.repeatedSwitch switch))
  else .ok { parsed with choices := parsed.choices ++ [.switch switch] }

def enter (parsed : Parsed) (field : Field) (attached : List Char) : Except Stop Parsed :=
  match attached with
  | [] => .ok { parsed with pending := some (field, none) }
  | '=' :: value => parsed.assign field value
  | value => parsed.assign field value

def unknown (argument : List Char) : Except Stop Parsed :=
  .error (.error (.unknownArgument (String.ofList argument)))

def cluster (parsed : Parsed) : List Char → Except Stop Parsed
  | [] => .ok parsed
  | c :: rest =>
      match Letter.ofChar? c with
      | none => unknown ['-', c]
      | some letter =>
          match parsed.settle with
          | .error stop => .error stop
          | .ok settled =>
              match letter with
              | .query query => .error (.query query)
              | .field field => settled.enter field rest
              | .switch switch =>
                  match settled.turnOn switch with
                  | .error stop => .error stop
                  | .ok entered => entered.cluster rest

def query? (word : List Char) : Option Query :=
  [Query.help, Query.version].find? fun query => query.word.toList = word

def long (parsed : Parsed) (body : List Char) : Except Stop Parsed :=
  let (name, value) := Text.cut '=' body
  match query? name, value with
  | none, _ =>
      .error (.error (.unknownWord (String.ofList name) parsed.given (Query.meantBy? name)))
  | some query, some value =>
      .error (.error (.unexpectedValue query (String.ofList value) (!parsed.choices.isEmpty)))
  | some query, none =>
      match parsed.settle with
      | .error stop => .error stop
      | .ok _ => .error (.query query)

def taker? (parsed : Parsed) (word : List Char) : Option Field :=
  match parsed.pending with
  | some (field, none) => if field.accepts word then some field else none
  | _ => none

def word (parsed : Parsed) (word : List Char) : Except Stop Parsed :=
  match parsed.taker? word with
  | some field => .ok { parsed with pending := some (field, some word) }
  | none =>
      match word with
      | '-' :: '-' :: body => parsed.long body
      | '-' :: c :: rest => parsed.cluster (c :: rest)
      | word => unknown word

def words (parsed : Parsed) : List (List Char) → Except Stop Parsed
  | [] => parsed.settle
  | ['-', '-'] :: [] => parsed.settle
  | ['-', '-'] :: extra :: _ => unknown extra
  | next :: rest =>
      match parsed.word next with
      | .error stop => .error stop
      | .ok parsed => parsed.words rest

end Parsed

def parse (arguments : List String) : Except Stop (List Choice) :=
  (({} : Parsed).words (arguments.map String.toList)).map Parsed.choices

end Transceiver.CommandLine
