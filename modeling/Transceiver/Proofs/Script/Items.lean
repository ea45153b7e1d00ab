import Transceiver.Proofs.Number.Whole
import Transceiver.Proofs.Text.Pieces
import Transceiver.Script

/-!
The items of a device argument list, one by one: which keys are known, what an item with such a key
stands for, and what is wrong with a faulty one.
-/

namespace Transceiver

namespace Script

inductive Topic
  | capability
  | missingFifo
  | rejectedFifo
  deriving DecidableEq, Repr

inductive Mark
  | opening
  | interface
  | core
  deriving DecidableEq, Repr

def Topic.key : Topic → String
  | capability => "capability"
  | missingFifo => "missing-fifo"
  | rejectedFifo => "reject-fifo"

def Mark.key : Mark → String
  | opening => "fail-open"
  | interface => "fail-radio-init"
  | core => "fail-trx-init"

def Topic.directive : Topic → Nat → Directive
  | capability => .capability
  | missingFifo => .missingFifo
  | rejectedFifo => .rejectFifo

def Mark.directive : Mark → Directive
  | opening => .failOpen
  | interface => .failInterface
  | core => .failCore

def number? (script : Script) : Topic → Option Nat
  | .capability => script.capability
  | .missingFifo => script.missingFifo
  | .rejectedFifo => script.rejectedFifo

def marked (script : Script) : Mark → Bool
  | .opening => script.failOpen
  | .interface => script.failInterface
  | .core => script.failCore

theorem ext_settings {first second : Script}
    (numbers : ∀ topic, first.number? topic = second.number? topic)
    (marks : ∀ mark, first.marked mark = second.marked mark) : first = second := by
  obtain ⟨capability, failOpen, failInterface, failCore, missingFifo, rejectedFifo⟩ := first
  cases (numbers .capability : capability = second.capability)
  cases (numbers .missingFifo : missingFifo = second.missingFifo)
  cases (numbers .rejectedFifo : rejectedFifo = second.rejectedFifo)
  cases (marks .opening : failOpen = second.failOpen)
  cases (marks .interface : failInterface = second.failInterface)
  cases (marks .core : failCore = second.failCore)
  rfl

theorem number?_add_topic (script : Script) (topic other : Topic) (number : Nat) :
    (script.add (topic.directive number)).number? other =
      if topic = other then some number else script.number? other := by
  cases topic with
  | _ =>
      cases other with
      | _ => rfl

theorem number?_add_mark (script : Script) (mark : Mark) (topic : Topic) :
    (script.add mark.directive).number? topic = script.number? topic := by
  cases mark with
  | _ =>
      cases topic with
      | _ => rfl

theorem marked_add_topic (script : Script) (topic : Topic) (number : Nat) (mark : Mark) :
    (script.add (topic.directive number)).marked mark = script.marked mark := by
  cases topic with
  | _ =>
      cases mark with
      | _ => rfl

theorem marked_add_mark (script : Script) (mark other : Mark) :
    (script.add mark.directive).marked other =
      if mark = other then true else script.marked other := by
  cases mark with
  | _ =>
      cases other with
      | _ => rfl

theorem Topic.key_injective {first second : Topic} (same : first.key = second.key) :
    first = second := by
  revert same
  cases first with
  | _ =>
      cases second with
      | _ => decide

theorem Mark.key_injective {first second : Mark} (same : first.key = second.key) :
    first = second := by
  revert same
  cases first with
  | _ =>
      cases second with
      | _ => decide

theorem Topic.key_ne_mark (topic : Topic) (mark : Mark) : topic.key ≠ mark.key := by
  cases topic with
  | _ =>
      cases mark with
      | _ => decide

end Script

namespace Directive

open Script (Topic Mark)

def knownKeys : List String :=
  ["capability", "fail-open", "fail-radio-init", "fail-trx-init", "missing-fifo", "reject-fifo"]

def keyOf (item : List Char) : String :=
  String.ofList (Text.trim (item.takeWhile (· ≠ '=')))

def valueOf (item : List Char) : Option (List Char) :=
  if '=' ∈ item then some (Text.trim (item.dropWhile (· ≠ '=')).tail) else none

theorem keyAndValue_eq (item : List Char) : keyAndValue item = (keyOf item, valueOf item) := by
  simp only [keyAndValue, keyOf, valueOf, Text.cut_eq]
  split
  · rfl
  · rfl

theorem keyAndValue_bare {item : List Char} (plain : '=' ∉ item) :
    keyAndValue item = (String.ofList (Text.trim item), none) := by
  have whole : item.takeWhile (· ≠ '=') = item := by
    rw [List.takeWhile_eq_self_iff]
    intro c member
    exact decide_eq_true (fun same => plain (same ▸ member))
  rw [keyAndValue_eq, keyOf, valueOf, whole, if_neg plain]

theorem keyAndValue_valued {key : List Char} (plain : '=' ∉ key) (value : List Char) :
    keyAndValue (key ++ '=' :: value) =
      (String.ofList (Text.trim key), some (Text.trim value)) := by
  have passed : ∀ c ∈ key, decide (c ≠ '=') = true := by
    intro c member
    exact decide_eq_true (fun same => plain (same ▸ member))
  have before : (key ++ '=' :: value).takeWhile (· ≠ '=') = key := by
    rw [List.takeWhile_append_of_pos passed]
    simp
  have behind : (key ++ '=' :: value).dropWhile (· ≠ '=') = '=' :: value := by
    rw [List.dropWhile_append_of_pos passed]
    simp
  rw [keyAndValue_eq, keyOf, valueOf, before, behind, if_pos (by simp)]
  rfl

theorem mem_knownKeys {key : String} :
    key ∈ knownKeys ↔ (∃ topic : Topic, key = topic.key) ∨ ∃ mark : Mark, key = mark.key := by
  constructor
  · intro known
    simp only [knownKeys, List.mem_cons, List.not_mem_nil, or_false] at known
    rcases known with rfl | rfl | rfl | rfl | rfl | rfl
    · exact .inl ⟨.capability, rfl⟩
    · exact .inr ⟨.opening, rfl⟩
    · exact .inr ⟨.interface, rfl⟩
    · exact .inr ⟨.core, rfl⟩
    · exact .inl ⟨.missingFifo, rfl⟩
    · exact .inl ⟨.rejectedFifo, rfl⟩
  · rintro (⟨topic, rfl⟩ | ⟨mark, rfl⟩)
    · cases topic with
      | _ => decide
    · cases mark with
      | _ => decide

theorem read_topic {item : List Char} {topic : Topic} (known : keyOf item = topic.key) :
    read item = (readNumber topic.key (valueOf item)).map fun number =>
      some (topic.directive number) := by
  rw [read, keyAndValue_eq, known]
  cases topic with
  | _ => rfl

theorem read_mark {item : List Char} {mark : Mark} (known : keyOf item = mark.key) :
    read item = .ok (some mark.directive) := by
  rw [read, keyAndValue_eq, known]
  cases mark with
  | _ => rfl

theorem read_unknown {item : List Char} (unknown : keyOf item ∉ knownKeys) :
    read item = .ok none := by
  simp only [knownKeys, List.mem_cons, List.not_mem_nil, or_false, not_or] at unknown
  obtain ⟨capability, opening, interface, core, missing, rejected⟩ := unknown
  rw [read, keyAndValue_eq]
  dsimp only
  split
  next same => exact absurd same capability
  next same => exact absurd same opening
  next same => exact absurd same interface
  next same => exact absurd same core
  next same => exact absurd same missing
  next same => exact absurd same rejected
  next => rfl

def Gives (value : Option (List Char)) (number : Nat) : Prop :=
  ∃ text, value = some text ∧ Number.Numeral text number ∧ number ≤ 4294967295

def complaint (key : String) : Option (List Char) → Fault
  | none => .invalidParameter ("device argument " ++ key ++ " needs a value")
  | some text =>
      .invalidParameter ("device argument " ++ key ++ ": invalid number " ++
        String.ofList (Text.quoted text))

theorem readNumber_some (key : String) (text : List Char) :
    readNumber key (some text) =
      match Number.readNatural (2 ^ 32 - 1) text with
      | .ok number => .ok number
      | .error _ => .error (complaint key (some text)) :=
  rfl

theorem readNumber_eq_ok_iff {key : String} {value : Option (List Char)} {number : Nat} :
    readNumber key value = .ok number ↔ Gives value number := by
  cases value with
  | none => simp [readNumber, Gives]
  | some text =>
      have reads : Number.readNatural (2 ^ 32 - 1) text = .ok number ↔ _ :=
        Number.readNatural_eq_ok_iff
      have gives : Gives (some text) number ↔
          Number.Numeral text number ∧ number ≤ 2 ^ 32 - 1 := by simp [Gives]
      rw [readNumber_some, gives, ← reads]
      cases Number.readNatural (2 ^ 32 - 1) text with
      | ok other => simp
      | error fault => simp

theorem readNumber_eq_error_iff {key : String} {value : Option (List Char)} {fault : Fault} :
    readNumber key value = .error fault ↔
      (∀ number, ¬Gives value number) ∧ fault = complaint key value := by
  cases found : readNumber key value with
  | ok number =>
      have gives := readNumber_eq_ok_iff.mp found
      simp only [reduceCtorEq, false_iff, not_and]
      intro never
      exact absurd gives (never number)
  | error other =>
      have never : ∀ number, ¬Gives value number := by
        intro number gives
        rw [readNumber_eq_ok_iff.mpr gives] at found
        cases found
      have complains : other = complaint key value := by
        unfold readNumber at found
        split at found
        · cases found
          rfl
        · split at found
          · cases found
          · cases found
            rfl
      simp only [Except.error.injEq, complains, eq_comm]
      exact (and_iff_right never).symm

/-- Items read one after the other: those behind a faulty one do not count. -/
theorem readAll_append (first second : List (List Char)) :
    readAll (first ++ second) =
      match readAll first with
      | .error fault => .error fault
      | .ok directives => (readAll second).map fun others => directives ++ others := by
  induction first with
  | nil =>
      simp only [List.nil_append, readAll]
      cases readAll second with
      | _ => rfl
  | cons item rest ih =>
      simp only [List.cons_append, readAll, ih]
      cases read item with
      | error fault => rfl
      | ok directive =>
          cases readAll rest with
          | error fault => rfl
          | ok directives =>
              cases readAll second with
              | error fault => rfl
              | ok others =>
                  simp only [Except.map, List.append_assoc]

theorem readAll_eq_error_iff_find {items : List (List Char)} {fault : Fault} :
    readAll items = .error fault ↔
      ∃ item, items.find? (fun item => !(read item).isOk) = some item ∧
        read item = .error fault := by
  induction items with
  | nil => simp [readAll]
  | cons first rest ih =>
      cases found : read first with
      | error other => simp [readAll, found, Except.isOk, Except.toBool]
      | ok directive =>
          have deeper : readAll (first :: rest) = .error fault ↔ readAll rest = .error fault := by
            simp only [readAll, found]
            cases readAll rest with
            | error other => simp [Except.map]
            | ok directives => simp [Except.map]
          rw [deeper, ih]
          simp [found, Except.isOk, Except.toBool]

theorem readAll_eq_error_iff {items : List (List Char)} {fault : Fault} :
    readAll items = .error fault ↔ ∃ before item after, items = before ++ item :: after ∧
      (∀ earlier ∈ before, ∀ other, read earlier ≠ .error other) ∧ read item = .error fault := by
  rw [readAll_eq_error_iff_find]
  constructor
  · rintro ⟨item, first, failed⟩
    obtain ⟨-, before, after, split, passed⟩ := List.find?_eq_some_iff_append.mp first
    refine ⟨before, item, after, split, ?_, failed⟩
    intro earlier member other wrong
    have sound := passed earlier member
    simp [wrong, Except.isOk, Except.toBool] at sound
  · rintro ⟨before, item, after, split, passed, failed⟩
    refine ⟨item, List.find?_eq_some_iff_append.mpr ⟨?_, before, after, split, ?_⟩, failed⟩
    · simp [failed, Except.isOk, Except.toBool]
    · intro earlier member
      cases found : read earlier with
      | error other => exact absurd found (passed earlier member other)
      | ok directive => rfl

end Directive

def Script.argsOf (items : List (List Char)) : String :=
  String.ofList ([','].intercalate items)

theorem Script.ofArgs_argsOf {items : List (List Char)} (free : ∀ item ∈ items, ',' ∉ item) :
    ofArgs (argsOf items) = (Directive.readAll items).map ofDirectives := by
  rw [ofArgs, argsOf, String.toList_ofList]
  cases items with
  | nil => rfl
  | cons item rest => rw [Text.splitOn_intercalate (by simp) free]

end Transceiver
