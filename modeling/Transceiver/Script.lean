import Transceiver.Fault
import Transceiver.Number.Binary64
import Transceiver.Number.Whole
import Transceiver.Text.Blank
import Transceiver.Text.Quoted
import Transceiver.Text.Split

/-!
The script of the simulated hardware: which capability the device reports and which steps fail. A
script is written as device arguments, a list of items between commas, each a key or a key with a
value behind an equals sign; items with unknown keys are left to other drivers.
-/

namespace Transceiver

structure Script where
  capability : Option Nat := none
  failOpen : Bool := false
  failInterface : Bool := false
  failCore : Bool := false
  missingFifo : Option Nat := none
  rejectedFifo : Option Nat := none
  deriving DecidableEq, Repr

inductive Directive
  | capability (code : Nat)
  | failOpen
  | failInterface
  | failCore
  | missingFifo (channel : Nat)
  | rejectFifo (channel : Nat)
  deriving DecidableEq, Repr

def Script.add (script : Script) : Directive → Script
  | .capability code => { script with capability := some code }
  | .failOpen => { script with failOpen := true }
  | .failInterface => { script with failInterface := true }
  | .failCore => { script with failCore := true }
  | .missingFifo channel => { script with missingFifo := some channel }
  | .rejectFifo channel => { script with rejectedFifo := some channel }

def Script.ofDirectives (directives : List Directive) : Script :=
  directives.foldl Script.add {}

namespace Directive

def readNumber (key : String) : Option (List Char) → Except Fault Nat
  | none => .error (.invalidParameter ("device argument " ++ key ++ " needs a value"))
  | some value =>
      match Number.readNatural (2 ^ 32 - 1) value with
      | .ok number => .ok number
      | .error _ =>
          .error (.invalidParameter ("device argument " ++ key ++ ": invalid number " ++
            String.ofList (Text.quoted value)))

def keyAndValue (item : List Char) : String × Option (List Char) :=
  let (key, value) := Text.cut '=' item
  (String.ofList (Text.trim key), value.map Text.trim)

def read (item : List Char) : Except Fault (Option Directive) :=
  let (key, value) := keyAndValue item
  match key with
  | "capability" => (readNumber key value).map fun code => some (capability code)
  | "fail-open" => .ok (some failOpen)
  | "fail-radio-init" => .ok (some failInterface)
  | "fail-trx-init" => .ok (some failCore)
  | "missing-fifo" => (readNumber key value).map fun channel => some (missingFifo channel)
  | "reject-fifo" => (readNumber key value).map fun channel => some (rejectFifo channel)
  | _ => .ok none

def readAll : List (List Char) → Except Fault (List Directive)
  | [] => .ok []
  | item :: rest =>
      match read item with
      | .error fault => .error fault
      | .ok directive => (readAll rest).map fun directives => directive.toList ++ directives

end Directive

def Script.ofArgs (args : String) : Except Fault Script :=
  (Directive.readAll (Text.splitOn ',' args.toList)).map Script.ofDirectives

end Transceiver
