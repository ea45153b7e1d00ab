/-!
Floating-point numbers as the bits of their interchange formats. `Binary64` and `Binary32` are equal
as data when their bits are; `agrees` is the comparison of values, in which a NaN agrees with
nothing and the two zeros agree with each other.
-/

-- A power is the built-in one, also beside an import that brings the powers of a monoid.
attribute [instance (1100), default_instance 10001] instPowNat

namespace Transceiver.Number

/-- A double-precision number: sign, 11 exponent bits, 52 fraction bits. -/
structure Binary64 where
  bits : UInt64
  deriving DecidableEq, Repr

namespace Binary64

def isNegative (x : Binary64) : Bool :=
  x.bits.toNat / 2 ^ 63 = 1

def exponentField (x : Binary64) : Nat :=
  x.bits.toNat / 2 ^ 52 % 2 ^ 11

def fractionField (x : Binary64) : Nat :=
  x.bits.toNat % 2 ^ 52

def isNaN (x : Binary64) : Bool :=
  x.exponentField = 2047 && x.fractionField ≠ 0

def isInfinite (x : Binary64) : Bool :=
  x.exponentField = 2047 && x.fractionField = 0

def isZero (x : Binary64) : Bool :=
  x.exponentField = 0 && x.fractionField = 0

def agrees (x y : Binary64) : Bool :=
  !x.isNaN && !y.isNaN && (x.bits = y.bits || (x.isZero && y.isZero))

def zero : Binary64 := ⟨0⟩

def signed (negative : Bool) (magnitude : Nat) : Binary64 :=
  ⟨UInt64.ofNat ((if negative then 2 ^ 63 else 0) + magnitude)⟩

def infiniteMagnitude : Nat := 2047 * 2 ^ 52

def quietNaNMagnitude : Nat := 2047 * 2 ^ 52 + 2 ^ 51

end Binary64

structure Binary32 where
  bits : UInt32
  deriving DecidableEq, Repr

namespace Binary32

def isNaN (x : Binary32) : Bool :=
  x.bits.toNat / 2 ^ 23 % 2 ^ 8 = 255 && x.bits.toNat % 2 ^ 23 ≠ 0

def isZero (x : Binary32) : Bool :=
  x.bits.toNat % 2 ^ 31 = 0

def agrees (x y : Binary32) : Bool :=
  !x.isNaN && !y.isNaN && (x.bits = y.bits || (x.isZero && y.isZero))

end Binary32

end Transceiver.Number
