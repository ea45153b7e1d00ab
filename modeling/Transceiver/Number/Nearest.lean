import Transceiver.Number.Binary64
import Transceiver.Number.Whole

/-!
Reading a decimal as the nearest double-precision number, an exact half going to the even mantissa.
The grammar is an optional sign, then `inf`, `infinity` or `nan` in any case, or digits with an
optional point and an optional exponent.
-/

namespace Transceiver.Number

inductive FloatFault
  | empty
  | invalid
  deriving DecidableEq, Repr

def FloatFault.message : FloatFault → String
  | .empty => "cannot parse float from empty string"
  | .invalid => "invalid float literal"

def roundHalfEven (top bottom : Nat) : Nat :=
  let below := top / bottom
  let excess := 2 * (top % bottom)
  if excess < bottom then below
  else if bottom < excess then below + 1
  else if below % 2 = 0 then below
  else below + 1

def binaryExponent (top bottom : Nat) : Int :=
  let estimate := (Nat.log2 top : Int) - (Nat.log2 bottom : Int)
  let reaches : Bool :=
    if 0 ≤ estimate then bottom * 2 ^ estimate.toNat ≤ top
    else bottom ≤ top * 2 ^ (-estimate).toNat
  if reaches then estimate else estimate - 1

def nearestMagnitude (top bottom : Nat) : Nat :=
  let exponent := max (binaryExponent top bottom - 52) (-1074)
  let mantissa :=
    if 0 ≤ exponent then roundHalfEven top (bottom * 2 ^ exponent.toNat)
    else roundHalfEven (top * 2 ^ (-exponent).toNat) bottom
  let magnitude :=
    if mantissa < 2 ^ 52 then mantissa
    else (exponent + 1075).toNat * 2 ^ 52 + (mantissa - 2 ^ 52)
  min magnitude Binary64.infiniteMagnitude

/-- The bits of the magnitude nearest to `digits * 10 ^ exponent`. A number of more than 310 digits
before the point is infinite and one that starts 330 places after it is zero, so that no power
outside that range is formed. -/
def magnitudeOfDecimal (digits : Nat) (exponent : Int) : Nat :=
  if digits = 0 then 0
  else
    let position := exponent + (Nat.toDigits 10 digits).length
    if 310 < position then Binary64.infiniteMagnitude
    else if position < -330 then 0
    else if 0 ≤ exponent then nearestMagnitude (digits * 10 ^ exponent.toNat) 1
    else nearestMagnitude digits (10 ^ (-exponent).toNat)

def digitsValue (digits : List Char) : Nat :=
  Nat.ofDigitChars 10 digits 0

def readExponent : List Char → Option Int
  | [] => some 0
  | mark :: rest =>
      if mark = 'e' || mark = 'E' then
        let (negative, digits) :=
          match rest with
          | '-' :: digits => (true, digits)
          | '+' :: digits => (false, digits)
          | digits => (false, digits)
        if digits.isEmpty || !digits.all Char.isDigit then none
        else some (if negative then -(digitsValue digits : Int) else digitsValue digits)
      else none

def readMagnitude (text : List Char) : Option Nat :=
  let lowered := text.map Char.toLower
  if lowered = "nan".toList then some Binary64.quietNaNMagnitude
  else if lowered = "inf".toList || lowered = "infinity".toList then
    some Binary64.infiniteMagnitude
  else
    let whole := text.takeWhile Char.isDigit
    let afterWhole := text.dropWhile Char.isDigit
    let (fraction, rest) :=
      match afterWhole with
      | '.' :: tail => (tail.takeWhile Char.isDigit, tail.dropWhile Char.isDigit)
      | tail => ([], tail)
    if whole.isEmpty && fraction.isEmpty then none
    else
      (readExponent rest).map fun exponent =>
        magnitudeOfDecimal (digitsValue (whole ++ fraction)) (exponent - fraction.length)

def readBinary64 (text : List Char) : Except FloatFault Binary64 :=
  match text with
  | [] => .error .empty
  | first :: rest =>
      let magnitude := if first = '-' || first = '+' then readMagnitude rest else readMagnitude text
      match magnitude with
      | some bits => .ok (Binary64.signed (first = '-') bits)
      | none => .error .invalid

end Transceiver.Number
