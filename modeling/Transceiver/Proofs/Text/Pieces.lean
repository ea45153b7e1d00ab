import Mathlib.Data.List.TakeWhile
import Transceiver.Text.Blank
import Transceiver.Text.Split

/-!
The pieces of a text between separators, the two sides of the first separator, the words that hold
no blank, and what is left of a piece once the blanks around it are gone.
-/

namespace Transceiver.Text

theorem splitOn_append (separator : Char) (first second : List Char) :
    splitOn separator (first ++ separator :: second) =
      splitOn separator first ++ splitOn separator second := by
  induction first with
  | nil => simp [splitOn]
  | cons c rest ih =>
      by_cases ends : c = separator
      · simp [splitOn, ends, ih]
      · simp only [List.cons_append, splitOn, if_neg ends, ih]
        cases pieces : splitOn separator rest with
        | nil => exact absurd pieces (splitOn_ne_nil separator rest)
        | cons piece others => rfl

theorem splitOn_of_free {separator : Char} {text : List Char} (free : separator ∉ text) :
    splitOn separator text = [text] := by
  induction text with
  | nil => rfl
  | cons c rest ih =>
      simp only [List.mem_cons, not_or] at free
      simp [splitOn, Ne.symm free.1, ih free.2]

section

/-! Taking a text apart at the first or the last separator. -/

variable {separator : Char} {first second rest tail : List Char}
  (same : first ++ separator :: rest = second ++ separator :: tail)
include same

theorem eq_of_first_separator (free : separator ∉ first) (freeToo : separator ∉ second) :
    first = second ∧ rest = tail := by
  have pieces := congrArg (splitOn separator) same
  rw [splitOn_append, splitOn_append, splitOn_of_free free, splitOn_of_free freeToo] at pieces
  obtain ⟨rfl, _⟩ := List.cons.inj pieces
  exact ⟨rfl, (List.cons.inj (List.append_cancel_left same)).2⟩

theorem eq_of_last_separator (free : separator ∉ rest) (freeToo : separator ∉ tail) :
    first = second ∧ rest = tail := by
  have pieces := congrArg (splitOn separator) same
  rw [splitOn_append, splitOn_append, splitOn_of_free free, splitOn_of_free freeToo] at pieces
  obtain ⟨_, last⟩ := List.append_inj' pieces rfl
  obtain rfl := List.singleton_inj.mp last
  exact ⟨List.append_cancel_right same, rfl⟩

end

/-- Pieces that are free of the separator are found again between the separators. -/
theorem splitOn_intercalate {separator : Char} {pieces : List (List Char)} (some : pieces ≠ [])
    (free : ∀ piece ∈ pieces, separator ∉ piece) :
    splitOn separator ([separator].intercalate pieces) = pieces := by
  induction pieces with
  | nil => exact absurd rfl some
  | cons piece rest ih =>
      have first := splitOn_of_free (free piece List.mem_cons_self)
      cases rest with
      | nil => simpa using first
      | cons next others =>
          have later := ih (by simp) fun other member =>
            free other (List.mem_cons_of_mem piece member)
          rw [List.intercalate_cons_cons, List.append_assoc, List.singleton_append,
            splitOn_append, first, later]
          rfl

def endedLines (text : List Char) : List (List Char) :=
  (splitOn '\n' text).map withoutReturn

theorem lines_append (first second : List Char) :
    lines (first ++ '\n' :: second) = endedLines first ++ lines second := by
  rcases List.eq_nil_or_concat (splitOn '\n' second) with none | ⟨front, last, pieces⟩
  · exact absurd none (splitOn_ne_nil '\n' second)
  · rw [List.concat_eq_append] at pieces
    rw [lines, lines, splitOn_append, pieces, ← List.append_assoc, List.dropLast_concat,
      List.dropLast_concat, List.getLast?_concat, List.getLast?_concat, List.map_append, endedLines]
    cases last with
    | nil => rfl
    | cons c rest => exact List.append_assoc _ _ _

theorem endedLines_append (first second : List Char) :
    endedLines (first ++ '\n' :: second) = endedLines first ++ endedLines second := by
  rw [endedLines, splitOn_append, List.map_append, endedLines, endedLines]

/-- The lines of texts that are each ended by a line feed. -/
theorem lines_flatMap (texts : List (List Char)) :
    lines (texts.flatMap (· ++ ['\n'])) = texts.flatMap endedLines := by
  induction texts with
  | nil => rfl
  | cons text rest ih =>
      rw [List.flatMap_cons, List.flatMap_cons, ← ih, List.append_assoc, List.singleton_append,
        lines_append]

theorem cut_eq (separator : Char) (text : List Char) :
    cut separator text = (text.takeWhile (· ≠ separator),
      if separator ∈ text then some (text.dropWhile (· ≠ separator)).tail else none) := by
  induction text with
  | nil => rfl
  | cons c rest ih =>
      by_cases ends : c = separator
      · simp [cut, ends]
      · simp [cut, ends, ih, Ne.symm ends]

theorem trim_of_blank {text : List Char} (blank : ∀ c ∈ text, isBlank c = true) :
    trim text = [] := by
  have none : trimLeft text = [] := List.dropWhile_eq_nil_iff.mpr blank
  rw [trim, none]
  rfl

def Solid (text : List Char) : Prop :=
  ∀ c ∈ text, isBlank c = false

theorem all_visible_iff {text : List Char} :
    (text.all fun c => !isBlank c) = true ↔ Solid text := by
  simp [Solid]

instance (text : List Char) : Decidable (Solid text) :=
  decidable_of_iff _ all_visible_iff

theorem solid_append {first second : List Char} :
    Solid (first ++ second) ↔ Solid first ∧ Solid second := by
  simp only [Solid, List.forall_mem_append]

theorem solid_cons {c : Char} {rest : List Char} :
    Solid (c :: rest) ↔ isBlank c = false ∧ Solid rest := by
  simp only [Solid, List.forall_mem_cons]

theorem Solid.unbroken {text : List Char} (solid : Solid text) : '\n' ∉ text := by
  intro member
  cases solid '\n' member

theorem solid_toDigits {base : Nat} (several : 1 < base) (few : base ≤ 16) (number : Nat) :
    Solid (Nat.toDigits base number) := by
  have table : ∀ digit < 16, isBlank (Nat.digitChar digit) = false := by decide
  induction number using Nat.strongRecOn with
  | ind number ih =>
      by_cases single : number < base
      · rw [Nat.toDigits_of_lt_base single]
        intro c member
        rw [List.mem_singleton.mp member]
        exact table number (by omega)
      · have last : number % base < base := Nat.mod_lt number (by omega)
        rw [Nat.toDigits_of_base_le several (by omega), solid_append]
        refine ⟨ih (number / base) (Nat.div_lt_self (by omega) several), ?_⟩
        intro c member
        rw [List.mem_singleton.mp member]
        exact table (number % base) (by omega)

theorem solid_decimal (number : Nat) : Solid (Nat.toDigits 10 number) :=
  solid_toDigits (by omega) (by omega) number

theorem trimLeft_padded {before : List Char} (blank : ∀ c ∈ before, isBlank c = true)
    (text : List Char) : trimLeft (before ++ text) = trimLeft text := by
  have none : before.dropWhile isBlank = [] := List.dropWhile_eq_nil_iff.mpr blank
  simp [trimLeft, List.dropWhile_append, none]

theorem trimRight_padded {after : List Char} (blank : ∀ c ∈ after, isBlank c = true)
    (text : List Char) : trimRight (text ++ after) = trimRight text := by
  have reversed : ∀ c ∈ after.reverse, isBlank c = true := by simpa using blank
  rw [trimRight, List.reverse_append]
  exact congrArg List.reverse (trimLeft_padded reversed text.reverse)

/-- Blanks around a text do not count. -/
theorem trim_padded {before after : List Char} (leading : ∀ c ∈ before, isBlank c = true)
    (trailing : ∀ c ∈ after, isBlank c = true) (text : List Char) :
    trim (before ++ text ++ after) = trim text := by
  by_cases blank : ∀ c ∈ text, isBlank c = true
  · rw [trim_of_blank blank]
    apply trim_of_blank
    intro c member
    simp only [List.mem_append] at member
    rcases member with (first | middle) | last
    · exact leading c first
    · exact blank c middle
    · exact trailing c last
  · have kept : text.dropWhile isBlank ≠ [] := by
      intro none
      exact blank (List.dropWhile_eq_nil_iff.mp none)
    have left : trimLeft (text ++ after) = trimLeft text ++ after := by
      simp [trimLeft, List.dropWhile_append, kept]
    rw [List.append_assoc, trim, trimLeft_padded leading, left, trimRight_padded trailing, trim]

structure Trimmed (text body : List Char) : Prop where
  surrounded : ∃ before after, text = before ++ body ++ after ∧
    (∀ c ∈ before, isBlank c = true) ∧ ∀ c ∈ after, isBlank c = true
  starts : ∀ c, body.head? = some c → isBlank c = false
  ends : ∀ c, body.getLast? = some c → isBlank c = false

theorem trimLeft_of_start {text : List Char}
    (starts : ∀ c, text.head? = some c → isBlank c = false) :
    trimLeft text = text := by
  cases text with
  | nil => rfl
  | cons c rest => simp [trimLeft, starts c rfl]

theorem head?_trimLeft {text : List Char} {c : Char} (first : (trimLeft text).head? = some c) :
    isBlank c = false := by
  have solid := List.head?_dropWhile_not isBlank text
  rw [trimLeft] at first
  rwa [first] at solid

/-- What `trim` leaves is the only text that is left once the surrounding blanks are gone. -/
theorem trim_eq_iff {text body : List Char} : trim text = body ↔ Trimmed text body := by
  constructor
  · rintro rfl
    have left : text = text.takeWhile isBlank ++ trimLeft text :=
      List.takeWhile_append_dropWhile.symm
    have right : trimLeft text =
        trim text ++ ((trimLeft text).reverse.takeWhile isBlank).reverse := by
      rw [trim, trimRight, ← List.reverse_append, List.takeWhile_append_dropWhile,
        List.reverse_reverse]
    constructor
    · refine ⟨text.takeWhile isBlank, ((trimLeft text).reverse.takeWhile isBlank).reverse,
        ?_, ?_, ?_⟩
      · rw [List.append_assoc, ← right]
        exact left
      · intro c member
        exact List.mem_takeWhile_imp member
      · intro c member
        exact List.mem_takeWhile_imp (List.mem_reverse.mp member)
    · intro c first
      have leading : (trimLeft text).head? = some c := by
        rw [right, List.head?_append, first]
        rfl
      exact head?_trimLeft leading
    · intro c last
      have trailing : (trimLeft (trimLeft text).reverse).head? = some c := by
        rwa [trim, trimRight, List.getLast?_reverse] at last
      exact head?_trimLeft trailing
  · rintro ⟨⟨before, after, rfl, leading, trailing⟩, starts, ends⟩
    have reversed : trimLeft body.reverse = body.reverse :=
      trimLeft_of_start (by simpa using ends)
    rw [trim_padded leading trailing, trim, trimLeft_of_start starts, trimRight]
    exact (congrArg List.reverse reversed).trans body.reverse_reverse

theorem trim_of_solid {text : List Char} (solid : Solid text) : trim text = text := by
  refine trim_eq_iff.mpr ⟨⟨[], [], by simp, by simp, by simp⟩, ?_, ?_⟩
  · intro c first
    exact solid c (List.mem_of_mem_head? first)
  · intro c last
    exact solid c (List.mem_of_mem_getLast? last)

end Transceiver.Text
