import Transceiver.Number.Whole

/-!
The numerals of whole numbers: an optional plus sign and at least one digit. Zeros in front count
for nothing, and a number is read exactly from the numerals of the numbers within the limit.
-/

namespace Transceiver.Number

def Numeral (text : List Char) (number : Nat) : Prop :=
  ∃ digits, (text = digits ∨ text = '+' :: digits) ∧ digits ≠ [] ∧
    (∀ c ∈ digits, c.isDigit = true) ∧ Nat.ofDigitChars 10 digits 0 = number

def unsigned : List Char → List Char
  | '+' :: digits => digits
  | text => text

theorem unsigned_of_digit {c : Char} (digit : c.isDigit = true) (rest : List Char) :
    unsigned (c :: rest) = c :: rest := by
  unfold unsigned
  split
  next digits same =>
    cases same
    exact absurd digit (by decide)
  next => rfl

theorem numeral_iff {text : List Char} {number : Nat} :
    Numeral text number ↔ unsigned text ≠ [] ∧ (∀ c ∈ unsigned text, c.isDigit = true) ∧
      Nat.ofDigitChars 10 (unsigned text) 0 = number := by
  constructor
  · rintro ⟨digits, spelled, some, each, value⟩
    have bare : unsigned text = digits := by
      rcases spelled with rfl | rfl
      · cases text with
        | nil => rfl
        | cons c rest => exact unsigned_of_digit (each c List.mem_cons_self) rest
      · rfl
    rw [bare]
    exact ⟨some, each, value⟩
  · rintro ⟨some, each, value⟩
    refine ⟨unsigned text, ?_, some, each, value⟩
    unfold unsigned
    split
    · exact .inr rfl
    · exact .inl rfl

theorem Numeral.unique {text : List Char} {first second : Nat} (one : Numeral text first)
    (other : Numeral text second) : first = second := by
  rw [← (numeral_iff.mp one).2.2, ← (numeral_iff.mp other).2.2]

theorem numeral_toDigits (number : Nat) : Numeral (Nat.toDigits 10 number) number := by
  refine ⟨Nat.toDigits 10 number, .inl rfl, Nat.toDigits_ne_nil, ?_,
    Nat.ofDigitChars_ten_toDigits⟩
  intro c member
  exact Nat.isDigit_of_mem_toDigits (by omega) (by omega) member

theorem le_ofDigitChars (digits : List Char) (value : Nat) :
    value ≤ Nat.ofDigitChars 10 digits value := by
  induction digits generalizing value with
  | nil => exact Nat.le_refl value
  | cons c rest ih =>
      have later := ih (10 * value + (c.toNat - '0'.toNat))
      rw [Nat.ofDigitChars_cons]
      omega

theorem readDigits_eq_ok_iff {limit value number : Nat} {excess : WholeFault} {digits : List Char}
    (within : value ≤ limit) :
    readDigits limit excess value digits = .ok number ↔
      (∀ c ∈ digits, c.isDigit = true) ∧ Nat.ofDigitChars 10 digits value = number ∧
        number ≤ limit := by
  induction digits generalizing value with
  | nil =>
      simp only [readDigits, Except.ok.injEq, List.not_mem_nil, false_implies, implies_true,
        true_and, Nat.ofDigitChars_nil]
      omega
  | cons c rest ih =>
      have step : value * 10 + digitValue c = 10 * value + (c.toNat - '0'.toNat) := by
        rw [digitValue, Nat.mul_comm]
      simp only [readDigits, step, List.forall_mem_cons, Nat.ofDigitChars_cons]
      generalize 10 * value + (c.toNat - '0'.toNat) = next
      by_cases digit : c.isDigit = true
      · by_cases small : next ≤ limit
        · simp [digit, small, ih small]
        · simp only [digit, small, if_true, if_false, true_and, reduceCtorEq, false_iff]
          rintro ⟨_, total, bound⟩
          have grows := le_ofDigitChars rest next
          omega
      · simp [digit]

theorem readNatural_eq (limit : Nat) (text : List Char) (some : unsigned text ≠ []) :
    readNatural limit text = readDigits limit .tooLarge 0 (unsigned text) := by
  unfold readNatural unsigned at *
  split at some
  next digits =>
    cases digits with
    | nil => exact absurd rfl some
    | cons c rest => rfl
  next signless =>
    split
    · exact absurd rfl some
    · exact absurd rfl (signless [])
    · exact absurd rfl (signless _)
    · rfl

/-- A number is read exactly from its numerals. -/
theorem readNatural_eq_ok_iff {limit number : Nat} {text : List Char} :
    readNatural limit text = .ok number ↔ Numeral text number ∧ number ≤ limit := by
  rw [numeral_iff]
  by_cases some : unsigned text = []
  · have empty : ∀ value, readNatural limit text ≠ .ok value := by
      intro value
      unfold unsigned at some
      split at some
      · subst some
        simp [readNatural]
      · subst some
        simp [readNatural]
    simp [some, empty]
  · rw [readNatural_eq limit text some, readDigits_eq_ok_iff (Nat.zero_le limit)]
    simp [some, and_assoc]

end Transceiver.Number
