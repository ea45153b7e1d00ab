import Transceiver.Number.Shortest

/-!
The values of double-precision numbers. Every finite one is a whole multiple of the least positive
one, and only the two zeros have a value in common. So `agrees`, which looks at the bits, compares
values: a NaN has none, and agrees with nothing.
-/

namespace Transceiver.Number

inductive Value
  | finite (units : Int)
  | infinite (negative : Bool)
  deriving DecidableEq, Repr

namespace Binary64

/-- The magnitude of a finite number, counted in units of `2 ^ -1074`. -/
def units (x : Binary64) : Nat :=
  x.scaled.mantissa * 2 ^ (x.scaled.exponent + 1074).toNat

def value? (x : Binary64) : Option Value :=
  if x.isNaN then none
  else if x.isInfinite then some (.infinite x.isNegative)
  else some (.finite (if x.isNegative then -(x.units : Int) else x.units))

def Equals (x y : Binary64) : Prop :=
  ∃ value, x.value? = some value ∧ y.value? = some value

variable {x y : Binary64}

theorem toNat_bits (x : Binary64) :
    x.bits.toNat =
      (if x.isNegative then 2 ^ 63 else 0) + x.exponentField * 2 ^ 52 + x.fractionField := by
  have bound : x.bits.toNat < 2 ^ 64 := x.bits.toNat_lt
  simp only [isNegative, exponentField, fractionField, decide_eq_true_eq]
  split <;> omega

theorem fractionField_lt (x : Binary64) : x.fractionField < 2 ^ 52 :=
  Nat.mod_lt _ (by decide)

theorem eq_of_fields (signs : x.isNegative = y.isNegative)
    (exponents : x.exponentField = y.exponentField)
    (fractions : x.fractionField = y.fractionField) : x.bits = y.bits := by
  rw [← UInt64.toNat_inj, toNat_bits, toNat_bits, signs, exponents, fractions]

theorem units_subnormal (subnormal : x.exponentField = 0) : x.units = x.fractionField := by
  simp [units, scaled, subnormal]

theorem units_normal (normal : x.exponentField ≠ 0) :
    x.units = (2 ^ 52 + x.fractionField) * 2 ^ (x.exponentField - 1) := by
  have power : ((x.exponentField : Int) - 1075 + 1074).toNat = x.exponentField - 1 := by omega
  simp only [units, scaled, if_neg normal, power]

/-- A greater exponent makes a greater magnitude, whatever the fractions are. -/
theorem units_lt (smaller : x.exponentField < y.exponentField) : x.units < y.units := by
  have normal : y.exponentField ≠ 0 := by omega
  have least : 2 ^ 52 * 2 ^ (y.exponentField - 1) ≤ y.units := by
    rw [units_normal normal]
    exact Nat.mul_le_mul_right _ (Nat.le_add_right _ _)
  refine Nat.lt_of_lt_of_le ?_ least
  have fraction := x.fractionField_lt
  by_cases subnormal : x.exponentField = 0
  · rw [units_subnormal subnormal]
    exact Nat.lt_of_lt_of_le fraction (Nat.le_mul_of_pos_right _ (Nat.two_pow_pos _))
  · rw [units_normal subnormal]
    have doubled : 2 ^ 53 * 2 ^ (x.exponentField - 1) = 2 ^ 52 * 2 ^ x.exponentField := by
      rw [← Nat.pow_add, ← Nat.pow_add]
      congr 1
      omega
    calc (2 ^ 52 + x.fractionField) * 2 ^ (x.exponentField - 1)
        < 2 ^ 53 * 2 ^ (x.exponentField - 1) :=
          Nat.mul_lt_mul_of_pos_right (by omega) (Nat.two_pow_pos _)
      _ = 2 ^ 52 * 2 ^ x.exponentField := doubled
      _ ≤ 2 ^ 52 * 2 ^ (y.exponentField - 1) :=
          Nat.mul_le_mul_left _ (Nat.pow_le_pow_right (by decide) (by omega))

theorem fields_of_units (same : x.units = y.units) :
    x.exponentField = y.exponentField ∧ x.fractionField = y.fractionField := by
  have exponents : x.exponentField = y.exponentField := by
    rcases Nat.lt_trichotomy x.exponentField y.exponentField with less | equal | more
    · exact absurd same (Nat.ne_of_lt (units_lt less))
    · exact equal
    · exact absurd same (Nat.ne_of_gt (units_lt more))
  refine ⟨exponents, ?_⟩
  by_cases subnormal : x.exponentField = 0
  · rwa [units_subnormal subnormal, units_subnormal (exponents ▸ subnormal)] at same
  · rw [units_normal subnormal, units_normal (exponents ▸ subnormal), exponents] at same
    exact Nat.add_left_cancel (Nat.eq_of_mul_eq_mul_right (Nat.two_pow_pos _) same)

theorem isZero_of_units (none : x.units = 0) : x.isZero = true := by
  by_cases subnormal : x.exponentField = 0
  · simpa [units_subnormal subnormal, isZero, subnormal] using none
  · rw [units_normal subnormal] at none
    have positive := Nat.mul_pos (Nat.add_pos_left (Nat.two_pow_pos 52) x.fractionField)
      (Nat.two_pow_pos (x.exponentField - 1))
    exact absurd none (Nat.ne_of_gt positive)

theorem value?_eq_none_iff : x.value? = none ↔ x.isNaN = true := by
  unfold value?
  split
  next nan => simp [nan]
  next known => split <;> simp [known]

theorem value?_zero (zero : x.isZero = true) : x.value? = some (.finite 0) := by
  have fields : x.exponentField = 0 ∧ x.fractionField = 0 := by simpa [isZero] using zero
  simp [value?, isNaN, isInfinite, fields, units_subnormal fields.1]

theorem value?_eq_infinite {negative : Bool} (value : x.value? = some (.infinite negative)) :
    x.isNegative = negative ∧ x.exponentField = 2047 ∧ x.fractionField = 0 := by
  unfold value? at value
  split at value
  · cases value
  · split at value
    next infinite =>
      have fields : x.exponentField = 2047 ∧ x.fractionField = 0 := by
        simpa [isInfinite] using infinite
      cases value
      exact ⟨rfl, fields⟩
    next => cases value

theorem value?_eq_finite {units : Int} (value : x.value? = some (.finite units)) :
    units = if x.isNegative then -(x.units : Int) else x.units := by
  unfold value? at value
  split at value
  · cases value
  · split at value
    · cases value
    · cases value
      rfl

/-- Numbers of one value have the same bits, or are zeros. -/
theorem bits_of_equals (same : x.Equals y) :
    x.bits = y.bits ∨ x.isZero = true ∧ y.isZero = true := by
  obtain ⟨value, first, second⟩ := same
  cases value with
  | infinite negative =>
      obtain ⟨sign, exponent, fraction⟩ := value?_eq_infinite first
      obtain ⟨signToo, exponentToo, fractionToo⟩ := value?_eq_infinite second
      exact .inl (eq_of_fields (sign.trans signToo.symm) (exponent.trans exponentToo.symm)
        (fraction.trans fractionToo.symm))
  | finite count =>
      have counts := (value?_eq_finite first).symm.trans (value?_eq_finite second)
      by_cases signs : x.isNegative = y.isNegative
      · have magnitudes : x.units = y.units := by
          rw [signs] at counts
          split at counts <;> omega
        obtain ⟨exponents, fractions⟩ := fields_of_units magnitudes
        exact .inl (eq_of_fields signs exponents fractions)
      · have none : x.units = 0 ∧ y.units = 0 := by
          rw [Bool.eq_not_of_ne signs] at counts
          cases negative : y.isNegative with
          | true | false =>
              simp only [negative, Bool.not_true, Bool.not_false, Bool.false_eq_true, if_true,
                if_false] at counts
              omega
        exact .inr ⟨isZero_of_units none.1, isZero_of_units none.2⟩

theorem Equals.known (same : x.Equals y) : x.isNaN = false ∧ y.isNaN = false := by
  obtain ⟨value, first, second⟩ := same
  have known {number : Binary64} (found : number.value? = some value) : number.isNaN = false := by
    rw [Bool.eq_false_iff]
    intro nan
    rw [value?_eq_none_iff.mpr nan] at found
    cases found
  exact ⟨known first, known second⟩

theorem equals_self (known : x.isNaN = false) : x.Equals x := by
  obtain ⟨value, found⟩ : ∃ value, x.value? = some value :=
    Option.ne_none_iff_exists'.mp fun none => by simp [value?_eq_none_iff.mp none] at known
  exact ⟨value, found, found⟩

theorem equals_of_isZero (zero : x.isZero = true) (zeroToo : y.isZero = true) : x.Equals y :=
  ⟨.finite 0, value?_zero zero, value?_zero zeroToo⟩

/-- The comparison of bits is the comparison of values. -/
theorem agrees_iff : x.agrees y = true ↔ x.Equals y := by
  simp only [agrees, Bool.and_eq_true, Bool.or_eq_true, Bool.not_eq_true', decide_eq_true_eq]
  constructor
  · rintro ⟨⟨known, _⟩, same | ⟨zero, zeroToo⟩⟩
    · obtain rfl : x = y := by
        cases x
        cases y
        exact congrArg Binary64.mk same
      exact equals_self known
    · exact equals_of_isZero zero zeroToo
  · intro same
    exact ⟨same.known, bits_of_equals same⟩

end Binary64

end Transceiver.Number
