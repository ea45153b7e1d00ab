/-!
Reading whole numbers in decimal. The digits are taken from left to right and the first fault is the
answer: a character that is no digit, or a digit that leaves the range.
-/

namespace Transceiver.Number

inductive WholeFault
  | empty
  | invalidDigit
  | tooLarge
  | tooSmall
  deriving DecidableEq, Repr

def WholeFault.message : WholeFault → String
  | .empty => "cannot parse integer from empty string"
  | .invalidDigit => "invalid digit found in string"
  | .tooLarge => "number too large to fit in target type"
  | .tooSmall => "number too small to fit in target type"

def digitValue (c : Char) : Nat :=
  c.toNat - '0'.toNat

def readDigits (limit : Nat) (excess : WholeFault) (value : Nat) : List Char → Except WholeFault Nat
  | [] => .ok value
  | c :: rest =>
      if c.isDigit then
        let next := value * 10 + digitValue c
        if next ≤ limit then readDigits limit excess next rest else .error excess
      else .error .invalidDigit

def readNatural (limit : Nat) : List Char → Except WholeFault Nat
  | [] => .error .empty
  | ['+'] => .error .invalidDigit
  | '+' :: digits => readDigits limit .tooLarge 0 digits
  | digits => readDigits limit .tooLarge 0 digits

def readInteger (greatest : Nat) : List Char → Except WholeFault Int
  | ['-'] => .error .invalidDigit
  | '-' :: digits => (readDigits (greatest + 1) .tooSmall 0 digits).map fun value => -(value : Int)
  | text => (readNatural greatest text).map fun value => (value : Int)

end Transceiver.Number
