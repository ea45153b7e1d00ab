import Mathlib.Data.List.Induction
import Transceiver.Proofs.Script.Items

/-!
The language of device arguments: which lists are refused and for which item, what the others come
to, and how a script is written down.
-/

namespace Transceiver

open Number (Numeral)

namespace Directive

open Script (Topic Mark)

def Faulty (item : List Char) : Prop :=
  (∃ topic : Topic, keyOf item = topic.key) ∧
    (valueOf item = none ∨
      ∃ text, valueOf item = some text ∧ ∀ number, Numeral text number → 4294967295 < number)

def Settled (items : List (List Char)) (key : String) : Option Nat → Prop
  | none => ∀ item ∈ items, keyOf item ≠ key
  | some number => ∃ before item after, items = before ++ item :: after ∧ keyOf item = key ∧
      (∀ later ∈ after, keyOf later ≠ key) ∧
      ∃ text, valueOf item = some text ∧ Numeral text number

structure Shows (items : List (List Char)) (script : Script) : Prop where
  numbers : ∀ topic : Topic, Settled items topic.key (script.number? topic)
  marks : ∀ mark : Mark, script.marked mark = true ↔ ∃ item ∈ items, keyOf item = mark.key

theorem faulty_iff {item : List Char} :
    Faulty item ↔ (∃ topic : Topic, keyOf item = topic.key) ∧
      ∀ number, ¬Gives (valueOf item) number := by
  refine and_congr_right fun _ => ?_
  cases valueOf item with
  | none => simp [Gives]
  | some text => simp [Gives]

theorem read_eq_error_iff {item : List Char} {fault : Fault} :
    read item = .error fault ↔ Faulty item ∧ fault = complaint (keyOf item) (valueOf item) := by
  rw [faulty_iff]
  by_cases known : keyOf item ∈ knownKeys
  · rcases mem_knownKeys.mp known with ⟨topic, same⟩ | ⟨mark, same⟩
    · have asked : ∃ topic : Topic, keyOf item = topic.key := ⟨topic, same⟩
      have failed : read item = .error fault ↔
          readNumber topic.key (valueOf item) = .error fault := by
        rw [read_topic same]
        cases readNumber topic.key (valueOf item) with
        | error other => simp [Except.map]
        | ok number => simp [Except.map]
      rw [failed, readNumber_eq_error_iff, ← same]
      exact (and_congr_left fun _ => (and_iff_right asked)).symm
    · have unasked : ¬∃ topic : Topic, keyOf item = topic.key := by
        rintro ⟨topic, asked⟩
        exact topic.key_ne_mark mark (asked.symm.trans same)
      simp [read_mark same, unasked]
  · have unasked : ¬∃ topic : Topic, keyOf item = topic.key := by
      rintro ⟨topic, asked⟩
      exact known (mem_knownKeys.mpr (.inl ⟨topic, asked⟩))
    simp [read_unknown known, unasked]

theorem Settled.kept {items : List (List Char)} {key : String} {setting : Option Nat}
    {item : List Char} (settled : Settled items key setting) (other : keyOf item ≠ key) :
    Settled (items ++ [item]) key setting := by
  cases setting with
  | none =>
      intro candidate member
      rcases List.mem_append.mp member with earlier | last
      · exact settled candidate earlier
      · rw [List.mem_singleton.mp last]
        exact other
  | some number =>
      obtain ⟨before, found, after, rfl, same, none, given⟩ := settled
      refine ⟨before, found, after ++ [item], by simp, same, ?_, given⟩
      intro later member
      rcases List.mem_append.mp member with earlier | last
      · exact none later earlier
      · rw [List.mem_singleton.mp last]
        exact other

theorem settled_last {items : List (List Char)} {key : String} {item : List Char} {number : Nat}
    (same : keyOf item = key) (gives : Gives (valueOf item) number) :
    Settled (items ++ [item]) key (some number) := by
  obtain ⟨text, value, numeral, _⟩ := gives
  exact ⟨items, item, [], rfl, same, by simp, text, value, numeral⟩

namespace Shows

variable {items : List (List Char)} {script : Script} {item : List Char}

theorem topic {topic : Topic} {number : Nat} (shows : Shows items script)
    (same : keyOf item = topic.key) (gives : Gives (valueOf item) number) :
    Shows (items ++ [item]) (script.add (topic.directive number)) := by
  constructor
  · intro other
    rw [Script.number?_add_topic]
    by_cases own : topic = other
    · subst own
      rw [if_pos rfl]
      exact settled_last same gives
    · rw [if_neg own]
      refine (shows.numbers other).kept ?_
      rw [same]
      exact fun equal => own (Topic.key_injective equal)
  · intro mark
    have apart : keyOf item ≠ mark.key := same ▸ topic.key_ne_mark mark
    simp [Script.marked_add_topic, shows.marks mark, or_and_right, exists_or, apart]

theorem mark {mark : Mark} (shows : Shows items script) (same : keyOf item = mark.key) :
    Shows (items ++ [item]) (script.add mark.directive) := by
  constructor
  · intro topic
    rw [Script.number?_add_mark]
    refine (shows.numbers topic).kept ?_
    rw [same]
    exact (topic.key_ne_mark mark).symm
  · intro other
    rw [Script.marked_add_mark]
    by_cases own : mark = other
    · subst own
      simp [or_and_right, exists_or, same]
    · have apart : keyOf item ≠ other.key := by
        rw [same]
        exact fun equal => own (Mark.key_injective equal)
      simp [own, shows.marks other, or_and_right, exists_or, apart]

theorem unknown (shows : Shows items script) (unknown : keyOf item ∉ knownKeys) :
    Shows (items ++ [item]) script := by
  have foreign (key : String) (known : key ∈ knownKeys) : keyOf item ≠ key := by
    rintro rfl
    exact unknown known
  constructor
  · intro topic
    exact (shows.numbers topic).kept (foreign _ (mem_knownKeys.mpr (.inl ⟨topic, rfl⟩)))
  · intro mark
    have apart := foreign _ (mem_knownKeys.mpr (.inr ⟨mark, rfl⟩))
    simp [shows.marks mark, or_and_right, exists_or, apart]

/-- What one more item that is accepted adds. -/
theorem read {directive : Option Directive} (shows : Shows items script)
    (accepted : Directive.read item = .ok directive) :
    Shows (items ++ [item]) (directive.toList.foldl Script.add script) := by
  by_cases known : keyOf item ∈ knownKeys
  · rcases mem_knownKeys.mp known with ⟨topic, same⟩ | ⟨mark, same⟩
    · rw [read_topic same] at accepted
      cases found : readNumber topic.key (valueOf item) with
      | error fault => simp [found, Except.map] at accepted
      | ok number =>
          simp only [found, Except.map, Except.ok.injEq] at accepted
          subst directive
          exact shows.topic same (readNumber_eq_ok_iff.mp found)
    · rw [read_mark same] at accepted
      cases accepted
      exact shows.mark same
  · rw [read_unknown known] at accepted
    cases accepted
    exact shows.unknown known

end Shows

theorem shows_of_readAll {items : List (List Char)} {directives : List Directive}
    (accepted : readAll items = .ok directives) :
    Shows items (Script.ofDirectives directives) := by
  -- From the end, since the last item with a key is the one that counts.
  induction items using List.reverseRecOn generalizing directives with
  | nil =>
      cases accepted
      constructor
      · intro topic
        cases topic with
        | _ => simp [Script.ofDirectives, Script.number?, Settled]
      · intro mark
        cases mark with
        | _ => simp [Script.ofDirectives, Script.marked]
  | append_singleton items item ih =>
      rw [readAll_append] at accepted
      cases earlier : readAll items with
      | error fault => simp [earlier] at accepted
      | ok past =>
          cases found : Directive.read item with
          | error fault => simp [earlier, readAll, found, Except.map] at accepted
          | ok directive =>
              simp only [earlier, readAll, found, Except.map, Except.ok.injEq] at accepted
              subst directives
              have next := (ih earlier).read found
              simpa [Script.ofDirectives] using next

structure Decides (args : String) : Prop where
  fails : (∃ fault, Script.ofArgs args = .error fault) ↔
    ∃ item ∈ Text.splitOn ',' args.toList, Faulty item
  rejected : ∀ fault, Script.ofArgs args = .error fault ↔
    ∃ before item after, Text.splitOn ',' args.toList = before ++ item :: after ∧
      (∀ earlier ∈ before, ¬Faulty earlier) ∧ Faulty item ∧
      fault = complaint (keyOf item) (valueOf item)
  accepted : ∀ script, Script.ofArgs args = .ok script →
    Shows (Text.splitOn ',' args.toList) script

theorem faultless_iff {item : List Char} :
    (∀ fault, read item ≠ .error fault) ↔ ¬Faulty item := by
  constructor
  · intro passes faulty
    exact passes _ (read_eq_error_iff.mpr ⟨faulty, rfl⟩)
  · intro sound fault failed
    exact sound (read_eq_error_iff.mp failed).1

theorem readAll_fails_iff {items : List (List Char)} :
    (∃ fault, readAll items = .error fault) ↔ ∃ item ∈ items, Faulty item := by
  constructor
  · rintro ⟨fault, found⟩
    obtain ⟨before, item, after, split, _, faulty⟩ := readAll_eq_error_iff.mp found
    exact ⟨item, by simp [split], (read_eq_error_iff.mp faulty).1⟩
  · rintro ⟨item, member, faulty⟩
    obtain ⟨before, after, rfl⟩ := List.append_of_mem member
    have failure := read_eq_error_iff.mpr ⟨faulty, rfl⟩
    rw [readAll_append]
    cases readAll before with
    | error other => exact ⟨other, rfl⟩
    | ok directives => exact ⟨_, by simp only [readAll, failure]; rfl⟩

theorem decides (args : String) : Decides args := by
  have ends (result : Except Fault Script) : Script.ofArgs args = result ↔
      (readAll (Text.splitOn ',' args.toList)).map Script.ofDirectives = result := Iff.rfl
  have failed (fault : Fault) : Script.ofArgs args = .error fault ↔
      readAll (Text.splitOn ',' args.toList) = .error fault := by
    rw [ends]
    cases readAll (Text.splitOn ',' args.toList) with
    | error other => simp [Except.map]
    | ok directives => simp [Except.map]
  constructor
  · simp only [failed]
    exact readAll_fails_iff
  · intro fault
    rw [failed, readAll_eq_error_iff]
    simp only [faultless_iff, read_eq_error_iff]
  · intro script found
    rw [ends] at found
    cases accepted : readAll (Text.splitOn ',' args.toList) with
    | error fault => simp [accepted, Except.map] at found
    | ok directives =>
        simp only [accepted, Except.map, Except.ok.injEq] at found
        subst script
        exact shows_of_readAll accepted

end Directive

open Directive (keyOf valueOf Faulty Decides)

namespace Script

def Topic.item (topic : Topic) (number : Nat) : List Char :=
  topic.key.toList ++ '=' :: Nat.toDigits 10 number

def Mark.item (mark : Mark) : List Char :=
  mark.key.toList

def items (script : Script) : List (List Char) :=
  [Topic.capability, .missingFifo, .rejectedFifo].filterMap (fun topic =>
      (script.number? topic).map topic.item) ++
    ([Mark.opening, .interface, .core].filter script.marked).map Mark.item

theorem mem_items {script : Script} {item : List Char} :
    item ∈ script.items ↔
      (∃ topic number, script.number? topic = some number ∧ Topic.item topic number = item) ∨
        ∃ mark, script.marked mark = true ∧ Mark.item mark = item := by
  have everyTopic (topic : Topic) : topic ∈ [Topic.capability, .missingFifo, .rejectedFifo] := by
    cases topic with
    | _ => decide
  have everyMark (mark : Mark) : mark ∈ [Mark.opening, .interface, .core] := by
    cases mark with
    | _ => decide
  simp only [items, List.mem_append, List.mem_filterMap, everyTopic, true_and,
    Option.map_eq_some_iff, List.mem_map, List.mem_filter, everyMark]

theorem parts_topic (topic : Topic) (number : Nat) :
    keyOf (topic.item number) = topic.key ∧
      valueOf (topic.item number) = some (Nat.toDigits 10 number) := by
  have plain : '=' ∉ topic.key.toList := by
    cases topic with
    | _ => decide
  have trimmed : String.ofList (Text.trim topic.key.toList) = topic.key := by
    cases topic with
    | _ => decide
  have digits : Text.trim (Nat.toDigits 10 number) = Nat.toDigits 10 number :=
    Text.trim_of_solid (Text.solid_decimal number)
  have parts := Directive.keyAndValue_valued plain (Nat.toDigits 10 number)
  rw [Directive.keyAndValue_eq, trimmed, digits] at parts
  exact Prod.mk.inj parts

theorem keyOf_mark (mark : Mark) : keyOf mark.item = mark.key := by
  cases mark with
  | _ => decide

section

variable {script : Script} {item : List Char} (listed : item ∈ script.items)
include listed

theorem number_of_listed {topic : Topic} (same : keyOf item = topic.key) :
    ∃ number, script.number? topic = some number ∧
      valueOf item = some (Nat.toDigits 10 number) := by
  rcases mem_items.mp listed with ⟨other, number, found, rfl⟩ | ⟨mark, _, rfl⟩
  · obtain ⟨key, value⟩ := parts_topic other number
    cases Topic.key_injective (key.symm.trans same)
    exact ⟨number, found, value⟩
  · rw [keyOf_mark] at same
    exact absurd same.symm (topic.key_ne_mark mark)

theorem marked_of_listed {mark : Mark} (same : keyOf item = mark.key) :
    script.marked mark = true := by
  rcases mem_items.mp listed with ⟨topic, number, _, rfl⟩ | ⟨other, found, rfl⟩
  · rw [(parts_topic topic number).1] at same
    exact absurd same (topic.key_ne_mark mark)
  · rw [keyOf_mark] at same
    cases Mark.key_injective same
    exact found

theorem free_of_listed : ',' ∉ item := by
  rcases mem_items.mp listed with ⟨topic, number, _, rfl⟩ | ⟨mark, _, rfl⟩
  · have key : ',' ∉ topic.key.toList := by
      cases topic with
      | _ => decide
    have digits : ',' ∉ Nat.toDigits 10 number := by
      intro member
      have digit : ','.isDigit = true :=
        Nat.isDigit_of_mem_toDigits (by omega) (by omega) member
      exact absurd digit (by decide)
    simp [Topic.item, key, digits]
  · cases mark with
    | _ => decide

theorem faultless_of_listed
    (fits : ∀ topic number, script.number? topic = some number → number ≤ 4294967295) :
    ¬Faulty item := by
  rw [Directive.faulty_iff]
  rintro ⟨⟨topic, same⟩, never⟩
  obtain ⟨number, found, value⟩ := number_of_listed listed same
  refine never number ⟨_, value, Number.numeral_toDigits number, fits topic number found⟩

end

section

variable {script shown : Script} {order : List (List Char)} (perm : order.Perm script.items)
  (shows : Directive.Shows order shown)
include perm shows

theorem number?_of_shows (topic : Topic) : shown.number? topic = script.number? topic := by
  have settled := shows.numbers topic
  cases read : shown.number? topic with
  | none =>
      rw [read] at settled
      cases set : script.number? topic with
      | none => rfl
      | some number =>
          have member : topic.item number ∈ order :=
            perm.mem_iff.mpr (mem_items.mpr (.inl ⟨topic, number, set, rfl⟩))
          exact absurd (parts_topic topic number).1 (settled _ member)
  | some number =>
      rw [read] at settled
      obtain ⟨before, item, after, split, same, _, text, value, numeral⟩ := settled
      have member : item ∈ order := by simp [split]
      obtain ⟨other, set, digits⟩ := number_of_listed (perm.mem_iff.mp member) same
      rw [value, Option.some.injEq] at digits
      rw [set, numeral.unique (digits ▸ Number.numeral_toDigits other)]

theorem marked_of_shows (mark : Mark) : shown.marked mark = script.marked mark := by
  rw [Bool.eq_iff_iff, shows.marks mark]
  constructor
  · rintro ⟨item, member, same⟩
    exact marked_of_listed (perm.mem_iff.mp member) same
  · intro set
    have member : mark.item ∈ order :=
      perm.mem_iff.mpr (mem_items.mpr (.inr ⟨mark, set, rfl⟩))
    exact ⟨mark.item, member, keyOf_mark mark⟩

end

/-- A script whose numbers have 32 bits is read from its items in any order. -/
theorem ofArgs_items (script : Script)
    (fits : ∀ topic number, script.number? topic = some number → number ≤ 4294967295)
    (order : List (List Char)) (perm : order.Perm script.items) :
    ofArgs (argsOf order) = .ok script := by
  have listed {item : List Char} (member : item ∈ order) : item ∈ script.items :=
    perm.mem_iff.mp member
  rw [ofArgs_argsOf fun item member => free_of_listed (listed member)]
  cases found : Directive.readAll order with
  | error fault =>
      obtain ⟨before, item, after, split, _, failed⟩ := Directive.readAll_eq_error_iff.mp found
      have member : item ∈ order := by simp [split]
      exact absurd (Directive.read_eq_error_iff.mp failed).1
        (faultless_of_listed (listed member) fits)
  | ok directives =>
      have shows := Directive.shows_of_readAll found
      exact congrArg Except.ok
        (ext_settings (number?_of_shows perm shows) (marked_of_shows perm shows))

/-- Every argument list is decided by its items, and every script whose numbers have 32 bits has
lists of its own, its items in any order. -/
theorem ofArgs_by_items :
    (∀ args, Decides args) ∧
      ∀ (script : Script) (order : List (List Char)),
        (∀ topic number, script.number? topic = some number → number ≤ 4294967295) →
        order.Perm script.items → ofArgs (argsOf order) = .ok script := by
  constructor
  · exact Directive.decides
  · intro script order fits perm
    exact ofArgs_items script fits order perm

theorem ofArgs_by_items_reordered :
    let script : Script := { capability := some 7, failOpen := true }
    let order := ["fail-open".toList, "capability=7".toList]
    (∀ topic number, script.number? topic = some number → number ≤ 4294967295) ∧
      order.Perm script.items ∧ ofArgs (argsOf order) = .ok script := by
  intro script order
  have fits : ∀ topic number, script.number? topic = some number → number ≤ 4294967295 := by
    intro topic number found
    cases topic with
    | capability =>
        cases found
        decide
    | _ => cases found
  have perm : order.Perm script.items := by decide
  exact ⟨fits, perm, ofArgs_by_items.2 script order fits perm⟩

end Script

end Transceiver
