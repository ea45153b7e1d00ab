import Mathlib
import Transceiver.Text.Uppercase

/-!
What has a given upper-case form. A capital letter of the basic block is the form of itself and of
its small letter; beyond the block only the dotless i and the long s come to such a letter alone,
and the ligatures and some accented letters to several characters at once. So a text comes to a name
of capitals letter by letter, unless the name holds one of those longer forms.
-/

namespace Transceiver.Text

/-- The characters beyond the basic block whose upper-case form is one letter of it. -/
def strayLetters : List (Char × Char) :=
  [('ı', 'I'), ('ſ', 'S')]

theorem isUpper_iff {c : Char} : c.isUpper = true ↔ 65 ≤ c.toNat ∧ c.toNat ≤ 90 := by
  simp [Char.isUpper, UInt32.le_iff_toNat_le, ← Char.toNat_val]

/-- A run stays clear of the basic block, or it moves one of the stray letters. -/
theorem shifted_caseRuns : ∀ run ∈ caseRuns,
    0x80 ≤ (run.first : Int) + run.shift ∨
      run.first = run.last ∧
        (run.first = 'ı'.toNat ∧ run.shift = -232 ∨ run.first = 'ſ'.toNat ∧ run.shift = -300) := by
  decide +kernel

theorem length_caseExpansions : ∀ expansion ∈ caseExpansions, 2 ≤ expansion.2.length := by
  decide +kernel

theorem mem_of_lookup {point : Nat} {points : List Nat}
    (found : caseExpansions.lookup point = some points) : (point, points) ∈ caseExpansions := by
  obtain ⟨before, after, split, _⟩ := List.lookup_eq_some_iff.mp found
  simp [split]

theorem toUpper_eq_iff {c letter : Char} (capital : letter.isUpper = true) :
    c.toUpper = letter ↔ c = letter ∨ c = letter.toLower := by
  have kept : letter.toUpper = letter :=
    Char.toUpper_eq_of_not_isLower (Char.not_isLower_of_isUpper capital)
  constructor
  · intro raised
    by_cases small : c.isLower = true
    · right
      rw [← raised, Char.toLower_toUpper_eq_toLower,
        Char.toLower_eq_of_not_isUpper (Char.not_isUpper_of_isLower small)]
    · left
      rwa [Char.toUpper_eq_of_not_isLower small] at raised
  · rintro (rfl | rfl)
    · exact kept
    · rw [Char.toUpper_toLower_eq_toUpper, kept]

theorem stray_of_covered {c letter : Char} {run : CaseRun} (listed : run ∈ caseRuns)
    (covered : run.covers c.toNat = true) (capital : letter.isUpper = true)
    (moved : Char.ofNat (c.toNat + run.shift).toNat = letter) : (c, letter) ∈ strayLetters := by
  have bounds := isUpper_iff.mp capital
  simp only [CaseRun.covers, Bool.and_eq_true, decide_eq_true_eq] at covered
  rcases shifted_caseRuns run listed with clear | ⟨single, dotless | long⟩
  · -- A code point that is no character would be replaced by the null character.
    have point := congrArg Char.toNat moved
    rw [Char.toNat_ofNat] at point
    split at point
    · omega
    · omega
  · have same : c = 'ı' := Char.toNat_inj.mp (by omega)
    rw [same, dotless.2] at moved
    rw [same, ← moved]
    decide
  · have same : c = 'ſ' := Char.toNat_inj.mp (by omega)
    rw [same, long.2] at moved
    rw [same, ← moved]
    decide

/-- A capital letter is the upper-case form of itself, of its small letter, and of a stray one. -/
theorem upperChar_eq_singleton_iff {c letter : Char} (capital : letter.isUpper = true) :
    upperChar c = [letter] ↔
      c = letter ∨ c = letter.toLower ∨ (c, letter) ∈ strayLetters := by
  have bounds := isUpper_iff.mp capital
  by_cases basic : c.toNat < 0x80
  · have nobody : (c, letter) ∉ strayLetters := by
      intro stray
      simp only [strayLetters, List.mem_cons, Prod.mk.injEq, List.not_mem_nil, or_false] at stray
      rcases stray with ⟨rfl, _⟩ | ⟨rfl, _⟩
      · exact absurd basic (by decide)
      · exact absurd basic (by decide)
    simp [upperChar, basic, toUpper_eq_iff capital, nobody]
  · constructor
    · intro raised
      rw [upperChar, if_neg basic] at raised
      split at raised
      next points found =>
        have long := length_caseExpansions _ (mem_of_lookup found)
        have short := congrArg List.length raised
        rw [List.length_map, List.length_singleton] at short
        rw [short] at long
        exact absurd long (by decide)
      next =>
        split at raised
        next run found =>
          have covered := List.find?_some found
          exact .inr (.inr (stray_of_covered (List.mem_of_find?_eq_some found) covered capital
            (List.singleton_inj.mp raised)))
        next =>
          rw [List.singleton_inj] at raised
          subst raised
          omega
    · rintro (rfl | rfl | stray)
      · omega
      · have small : letter.toLower.toNat < 0x80 := by
          have table : ∀ index < 26, (Char.ofNat (65 + index)).toLower.toNat < 0x80 := by decide
          have entry := table (letter.toNat - 65) (by omega)
          rwa [show 65 + (letter.toNat - 65) = letter.toNat by omega, Char.ofNat_toNat] at entry
        omega
      · simp only [strayLetters, List.mem_cons, Prod.mk.injEq, List.not_mem_nil, or_false] at stray
        rcases stray with ⟨rfl, rfl⟩ | ⟨rfl, rfl⟩
        · decide +kernel
        · decide +kernel

/-- A character comes to several ones only by the table of expansions. -/
theorem upperChar_cases (c : Char) :
    (∃ letter, upperChar c = [letter]) ∨
      ∃ expansion ∈ caseExpansions, upperChar c = expansion.2.map Char.ofNat := by
  unfold upperChar
  split
  · exact .inl ⟨_, rfl⟩
  · split
    next points found => exact .inr ⟨_, mem_of_lookup found, rfl⟩
    next =>
      split
      · exact .inl ⟨_, rfl⟩
      · exact .inl ⟨_, rfl⟩

/-- Where a name holds no longer form, a text comes to it letter by letter. -/
theorem upper_eq_iff {name : List Char}
    (plain : ∀ expansion ∈ caseExpansions, ¬expansion.2.map Char.ofNat <:+: name)
    (text : List Char) :
    upper text = name ↔ List.Forall₂ (fun c letter => upperChar c = [letter]) text name := by
  induction text generalizing name with
  | nil => simp [upper, eq_comm]
  | cons c rest ih =>
      have head : upper (c :: rest) = upperChar c ++ upper rest := List.flatMap_cons
      rw [head]
      rcases upperChar_cases c with ⟨letter, single⟩ | ⟨expansion, listed, several⟩
      · cases name with
        | nil => simp [single]
        | cons first others =>
            have shorter := ih fun expansion listed inside =>
              plain expansion listed (inside.trans (List.suffix_cons first others).isInfix)
            rw [single, List.singleton_append, List.cons.injEq, shorter, List.forall₂_cons, single,
              List.singleton_inj]
      · rw [several]
        constructor
        · intro whole
          exact absurd ⟨[], upper rest, by simpa using whole⟩ (plain expansion listed)
        · intro each
          cases each with
          | cons alone _ =>
              have long := length_caseExpansions expansion listed
              have short := congrArg List.length (several.symm.trans alone)
              simp only [List.length_map, List.length_singleton] at short
              omega

end Transceiver.Text
