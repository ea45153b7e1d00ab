import Mathlib.Data.List.Induction
import Transceiver.Pipeline.Bench

/-!
The events of a pipeline as a word of brackets: the construction of a component opens one and its
release closes one. A word nests if it can be read from the left, every release closing the
innermost construction that is open and is of its kind.
-/

namespace Transceiver

open Pipeline (Part)

namespace Event

def opens : Event → Option Part
  | deviceMade _ => some .device
  | interfaceBuilt _ _ => some .interface
  | coreBuilt _ => some .core
  | _ => none

def closes : Event → Option Part
  | deviceReleased => some .device
  | interfaceReleased => some .interface
  | coreReleased _ => some .core
  | _ => none

theorem closes_of_opens {event : Event} {part : Part} (construction : event.opens = some part) :
    event.closes = none := by
  cases event with
  | deviceMade | interfaceBuilt | coreBuilt => rfl
  | _ => cases construction

end Event

namespace Brackets

def enter (live : List Event) (event : Event) : Option (List Event) :=
  if event.opens.isSome then some (event :: live)
  else if event.closes.isNone then some live
  else
    match live with
    | [] => none
    | top :: below => if top.opens = event.closes then some below else none

def scan (live : List Event) : List Event → Option (List Event)
  | [] => some live
  | event :: rest => (enter live event).bind fun next => scan next rest

def unmatched (events : List Event) : Option (List Event) :=
  scan [] events

theorem enter_cases {live next : List Event} {event : Event}
    (entered : enter live event = some next) :
    (∃ part, event.opens = some part ∧ next = event :: live) ∨
      (event.opens = none ∧ event.closes = none ∧ next = live) ∨
      ∃ top part, live = top :: next ∧ event.opens = none ∧ event.closes = some part ∧
        top.opens = some part := by
  cases opening : event.opens with
  | some part => exact .inl ⟨part, rfl, by simpa [enter, opening] using entered.symm⟩
  | none =>
      cases closing : event.closes with
      | none => exact .inr (.inl ⟨rfl, rfl, by simpa [enter, opening, closing] using entered.symm⟩)
      | some part =>
          cases live with
          | nil => simp [enter, opening, closing] at entered
          | cons top below =>
              simp only [enter, opening, closing, Option.isSome_none, Option.isNone_some,
                Bool.false_eq_true, if_false, Option.ite_none_right_eq_some,
                Option.some.injEq] at entered
              exact .inr (.inr ⟨top, part, by rw [entered.2], rfl, rfl, entered.1⟩)

theorem scan_append (live first second : List Event) :
    scan live (first ++ second) = (scan live first).bind fun middle => scan middle second := by
  induction first generalizing live with
  | nil => rfl
  | cons event rest ih =>
      simp only [List.cons_append, scan, ih]
      cases enter live event with
      | none => rfl
      | some next => rfl

theorem scan_of_append {live first second last : List Event}
    (scanned : scan live (first ++ second) = some last) :
    ∃ middle, scan live first = some middle ∧ scan middle second = some last := by
  rw [scan_append] at scanned
  exact Option.bind_eq_some_iff.mp scanned

theorem enter_frame {live next : List Event} {event : Event}
    (entered : enter live event = some next) (below : List Event) :
    enter (live ++ below) event = some (next ++ below) := by
  rcases enter_cases entered with
    ⟨part, opening, rfl⟩ | ⟨opening, closing, rfl⟩ | ⟨top, part, rfl, opening, closing, same⟩
  · simp [enter, opening]
  · simp [enter, opening, closing]
  · simp [enter, opening, closing, same]

theorem scan_frame {live events last : List Event} (scanned : scan live events = some last)
    (below : List Event) : scan (live ++ below) events = some (last ++ below) := by
  induction events generalizing live with
  | nil =>
      cases scanned
      rfl
  | cons event rest ih =>
      obtain ⟨next, entered, later⟩ := Option.bind_eq_some_iff.mp scanned
      rw [scan, enter_frame entered below]
      exact ih later

theorem scan_opening {live rest : List Event} {event : Event} {part : Part}
    (opening : event.opens = some part) :
    scan live (event :: rest) = scan (event :: live) rest := by
  simp [scan, enter, opening]

theorem scan_closing {rest : List Event} {event : Event} {part : Part}
    (closing : event.closes = some part) : scan [] (event :: rest) = none := by
  have construction : event.opens = none := by
    cases opening : event.opens with
    | none => rfl
    | some part => simp [Event.closes_of_opens opening] at closing
  simp [scan, enter, construction, closing]

theorem unmatched_append {first second : List Event} (closed : unmatched first = some []) :
    unmatched (first ++ second) = unmatched second := by
  rw [unmatched, scan_append, show scan [] first = some [] from closed]
  rfl

/-- A word with what is open in it: whatever came after an open construction and is not itself open
is closed. -/
inductive Layered : List Event → List Event → Prop
  | closed {events : List Event} : unmatched events = some [] → Layered events []
  | opened {before below inside : List Event} {top : Event} {part : Part} :
      Layered before below → top.opens = some part → unmatched inside = some [] →
        Layered (before ++ top :: inside) (top :: below)

theorem Layered.append {events live word : List Event} (layered : Layered events live)
    (balanced : unmatched word = some []) : Layered (events ++ word) live := by
  cases layered with
  | closed whole => exact .closed (by rw [unmatched_append whole, balanced])
  | opened outer construction inner =>
      rw [List.append_assoc, List.cons_append]
      exact .opened outer construction (by rw [unmatched_append inner, balanced])

theorem layered_of_unmatched {events live : List Event} (nested : unmatched events = some live) :
    Layered events live := by
  induction events using List.reverseRecOn generalizing live with
  | nil =>
      cases nested
      exact .closed rfl
  | append_singleton past event ih =>
      obtain ⟨middle, read, last⟩ := scan_of_append nested
      have earlier := ih read
      have entered : enter middle event = some live := by simpa [scan] using last
      rcases enter_cases entered with
        ⟨part, opening, rfl⟩ | ⟨opening, closing, rfl⟩ | ⟨top, part, rfl, opening, closing, same⟩
      · exact .opened earlier opening rfl
      · exact earlier.append (by simp [unmatched, scan, enter, opening, closing])
      · -- The release closes the innermost layer, which becomes part of what is inside the next.
        cases earlier with
        | opened outer construction inner =>
            rw [List.append_assoc]
            refine outer.append ?_
            rw [unmatched, List.cons_append, scan_opening construction, scan_append,
              show scan [top] _ = some [top] from scan_frame inner [top]]
            simp [scan, enter, opening, closing, same]

-- What becomes of a construction: the first release that finds it innermost closes it, or it stays.
theorem fate {above below events last : List Event} {opening : Event} {part : Part}
    (construction : opening.opens = some part)
    (scanned : scan (above ++ opening :: below) events = some last) :
    (∃ inner closing rest, events = inner ++ closing :: rest ∧ scan above inner = some [] ∧
        closing.closes = some part) ∨
      ∃ upper, last = upper ++ opening :: below := by
  induction events generalizing above with
  | nil =>
      cases scanned
      exact .inr ⟨above, rfl⟩
  | cons event rest ih =>
      obtain ⟨next, entered, later⟩ := Option.bind_eq_some_iff.mp scanned
      have goes : (above = [] ∧ event.closes = some part) ∨
          ∃ upper, enter above event = some upper ∧ next = upper ++ opening :: below := by
        rcases enter_cases entered with
          ⟨kind, opens, rfl⟩ | ⟨opens, closes, rfl⟩ | ⟨top, kind, split, opens, closes, same⟩
        · exact .inr ⟨event :: above, by simp [enter, opens], rfl⟩
        · exact .inr ⟨above, by simp [enter, opens, closes], rfl⟩
        · cases above with
          | nil =>
              cases split
              exact .inl ⟨rfl, closes.trans (same.symm.trans construction)⟩
          | cons first others =>
              cases split
              exact .inr ⟨others, by simp [enter, opens, closes, same], rfl⟩
      rcases goes with ⟨rfl, closes⟩ | ⟨upper, stepped, rfl⟩
      · exact .inl ⟨[], event, rest, rfl, rfl, closes⟩
      · rcases ih later with ⟨inner, closing, others, split, balanced, closes⟩ | stays
        · refine .inl ⟨event :: inner, closing, others, by rw [split]; rfl, ?_, closes⟩
          rw [scan, stepped]
          exact balanced
        · exact .inr stays

end Brackets

end Transceiver
