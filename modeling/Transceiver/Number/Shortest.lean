import Transceiver.Number.Binary64

/-!
The shortest decimal that reads back as a given double-precision number, and its positional text.

A finite number is `mantissa * 2 ^ exponent`. The decimals that read back as it lie between the
midpoints to its neighbours, the midpoints included when the mantissa is even. Digits are counted up
until the grid of that many digits has a point in the interval; of two such points the nearer one is
taken, and the upper one on a tie.
-/

namespace Transceiver.Number

/-- A positive number `mantissa * 2 ^ exponent`, with the gap below it half the gap above when
`narrow`. -/
structure Scaled where
  mantissa : Nat
  exponent : Int
  narrow : Bool

def Binary64.scaled (x : Binary64) : Scaled :=
  if x.exponentField = 0 then ⟨x.fractionField, -1074, false⟩
  else ⟨2 ^ 52 + x.fractionField, (x.exponentField : Int) - 1075,
    x.fractionField = 0 && x.exponentField ≠ 1⟩

structure Decimal where
  digits : Nat
  exponent : Int
  deriving DecidableEq, Repr

def onGrid (top bottom : Nat) (unit : Int) : Nat × Nat :=
  if 0 ≤ unit then (top, bottom * 10 ^ unit.toNat) else (top * 10 ^ (-unit).toNat, bottom)

namespace Scaled

/-- Four times the number, as a fraction; the midpoints are whole numbers of quarter steps. -/
def quarters (s : Scaled) (count : Nat) : Nat × Nat :=
  if 0 ≤ s.exponent - 2 then (count * 2 ^ (s.exponent - 2).toNat, 1)
  else (count, 2 ^ (2 - s.exponent).toNat)

def middle (s : Scaled) : Nat × Nat := s.quarters (4 * s.mantissa)
def lower (s : Scaled) : Nat × Nat := s.quarters (4 * s.mantissa - if s.narrow then 1 else 2)
def upper (s : Scaled) : Nat × Nat := s.quarters (4 * s.mantissa + 2)

def accepts (s : Scaled) (point : Nat) (unit : Int) : Bool :=
  let (lowTop, lowBottom) := onGrid s.lower.1 s.lower.2 unit
  let (highTop, highBottom) := onGrid s.upper.1 s.upper.2 unit
  if s.mantissa % 2 = 0 then lowTop ≤ point * lowBottom && point * highBottom ≤ highTop
  else lowTop < point * lowBottom && point * highBottom < highTop

def pointOn? (s : Scaled) (unit : Int) : Option Nat :=
  let (top, bottom) := onGrid s.middle.1 s.middle.2 unit
  let below := top / bottom
  let nearer := if 2 * (top % bottom) < bottom then [below, below + 1] else [below + 1, below]
  nearer.find? fun point => s.accepts point unit

def leadingExponent (s : Scaled) : Int :=
  let (top, bottom) := s.middle
  let estimate := ((Nat.log2 top : Int) - (Nat.log2 bottom : Int)) * 30103 / 100000
  let reaches (exponent : Int) : Bool :=
    let (gridTop, gridBottom) := onGrid top bottom exponent
    gridBottom ≤ gridTop
  if reaches (estimate + 1) then estimate + 1
  else if reaches estimate then estimate
  else estimate - 1

def shortestFrom (s : Scaled) (leading : Int) (digits : Nat) : Nat → Decimal
  | 0 => ⟨(s.pointOn? (leading + 1 - digits)).getD 0, leading + 1 - digits⟩
  | more + 1 =>
      let unit := leading + 1 - digits
      match s.pointOn? unit with
      | some point => ⟨point, unit⟩
      | none => shortestFrom s leading (digits + 1) more

def shortest (s : Scaled) : Decimal :=
  s.shortestFrom s.leadingExponent 1 17

end Scaled

def Decimal.stripped (d : Decimal) : Nat → Decimal
  | 0 => d
  | more + 1 =>
      if d.exponent < 0 && d.digits % 10 = 0 then
        Decimal.stripped ⟨d.digits / 10, d.exponent + 1⟩ more
      else d

def Decimal.positional (d : Decimal) : List Char :=
  if 0 ≤ d.exponent then Nat.toDigits 10 (d.digits * 10 ^ d.exponent.toNat)
  else
    let places := (-d.exponent).toNat
    let fraction := Nat.toDigits 10 (d.digits % 10 ^ places)
    Nat.toDigits 10 (d.digits / 10 ^ places) ++
      '.' :: (List.replicate (places - fraction.length) '0' ++ fraction)

def Binary64.text (x : Binary64) : String :=
  if x.isNaN then "NaN"
  else
    let magnitude :=
      if x.isInfinite then ['i', 'n', 'f']
      else if x.isZero then ['0']
      else (x.scaled.shortest.stripped 20).positional
    String.ofList (if x.isNegative then '-' :: magnitude else magnitude)

end Transceiver.Number
