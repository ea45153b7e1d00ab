import Transceiver.Proofs.Pipeline.Brackets

/-!
Which release belongs to which construction, by their positions. In a word that nests every release
has one construction and every construction at most one release, the pairs do not cross, and the
constructions without a release are those that are open at the end.
-/

namespace Transceiver.Brackets

open Pipeline (Part)

def opensAt (events : List Event) (position : Nat) : Option Part :=
  events[position]?.bind Event.opens

def closesAt (events : List Event) (position : Nat) : Option Part :=
  events[position]?.bind Event.closes

def between (events : List Event) (first last : Nat) : List Event :=
  (events.take last).drop (first + 1)

/-- A later event releases what an earlier one constructed: they are of one kind, and whatever was
constructed between them was also released between them, the innermost first. -/
structure Matches (events : List Event) (first last : Nat) : Prop where
  later : first < last
  kind : ∃ part, opensAt events first = some part ∧ closesAt events last = some part
  inside : unmatched (between events first last) = some []

def Standing (events : List Event) (position : Nat) : Prop :=
  (opensAt events position).isSome ∧ ∀ last, ¬Matches events position last

section

variable {events live : List Event}

theorem split_at {kind : Event → Option Part} {position : Nat} {part : Part}
    (found : events[position]?.bind kind = some part) :
    ∃ before event after, events = before ++ event :: after ∧ before.length = position ∧
      kind event = some part := by
  obtain ⟨event, present, known⟩ := Option.bind_eq_some_iff.mp found
  obtain ⟨bound, rfl⟩ := List.getElem?_eq_some_iff.mp present
  refine ⟨events.take position, events[position], events.drop (position + 1), by simp, ?_, known⟩
  rw [List.length_take, Nat.min_eq_left (Nat.le_of_lt bound)]

theorem between_split {first middle last : Nat} (above : first < middle) (below : middle < last)
    {event : Event} (found : events[middle]? = some event) :
    between events first last =
      between events first middle ++ event :: between events middle last := by
  obtain ⟨bound, rfl⟩ := List.getElem?_eq_some_iff.mp found
  have cut : events.take last =
      events.take middle ++ events[middle] :: (events.take last).drop (middle + 1) := by
    have reached : middle < (events.take last).length := by
      rw [List.length_take]
      omega
    have tail := List.drop_eq_getElem_cons reached
    rw [List.getElem_take] at tail
    calc
      events.take last = (events.take last).take middle ++ (events.take last).drop middle :=
        (List.take_append_drop middle _).symm
      _ = events.take middle ++ events[middle] :: (events.take last).drop (middle + 1) := by
        rw [tail, List.take_take, Nat.min_eq_left (Nat.le_of_lt below)]
  have room : first + 1 ≤ (events.take middle).length := by
    rw [List.length_take]
    omega
  rw [between, cut, List.drop_append_of_le_length room]
  rfl

theorem between_of_split (before inner rest : List Event) (opening closing : Event) :
    between (before ++ opening :: (inner ++ closing :: rest)) before.length
      (before.length + 1 + inner.length) = inner := by
  have cut : before ++ opening :: (inner ++ closing :: rest) =
      (before ++ opening :: inner) ++ closing :: rest := by simp
  have size : (before ++ opening :: inner).length = before.length + 1 + inner.length := by
    simp
    omega
  rw [between, cut, ← size, List.take_left, ← List.singleton_append, ← List.append_assoc]
  simp

theorem not_open_between {first second : List Event} {event : Event} {part : Part}
    {final : List Event} (construction : event.opens = some part)
    (whole : unmatched (first ++ event :: second) = some [])
    (inner : unmatched second = some final) : False := by
  obtain ⟨middle, _, rest⟩ := scan_of_append whole
  rw [scan_opening construction] at rest
  have framed := scan_frame inner (event :: middle)
  rw [List.nil_append, rest, Option.some.injEq] at framed
  simp at framed

theorem Matches.release_le {first last other : Nat} (pair : Matches events first last)
    (also : Matches events first other) : last ≤ other := by
  refine Nat.le_of_not_lt fun sooner => ?_
  obtain ⟨part, _, release⟩ := also.kind
  obtain ⟨closing, found, closes⟩ := Option.bind_eq_some_iff.mp release
  have whole := pair.inside
  rw [between_split also.later sooner found, unmatched_append also.inside, unmatched,
    scan_closing closes] at whole
  cases whole

theorem Matches.release_unique {first last other : Nat} (pair : Matches events first last)
    (also : Matches events first other) : last = other :=
  Nat.le_antisymm (pair.release_le also) (also.release_le pair)

theorem Matches.construction_le {first other last : Nat} (pair : Matches events first last)
    (also : Matches events other last) : other ≤ first := by
  refine Nat.le_of_not_lt fun inner => ?_
  obtain ⟨part, construction, _⟩ := also.kind
  obtain ⟨opening, found, opens⟩ := Option.bind_eq_some_iff.mp construction
  -- The inner construction would still be open where the outer pair ends.
  have whole := pair.inside
  rw [between_split inner also.later found] at whole
  exact not_open_between opens whole also.inside

theorem Matches.construction_unique {first other last : Nat} (pair : Matches events first last)
    (also : Matches events other last) : first = other :=
  Nat.le_antisymm (also.construction_le pair) (pair.construction_le also)

theorem Matches.inner_first {outer inner last other : Nat} (pair : Matches events outer last)
    (within : Matches events inner other) (above : outer < inner) (below : inner < last) :
    other < last := by
  refine Nat.lt_of_not_le fun crossed => ?_
  obtain ⟨part, construction, _⟩ := within.kind
  obtain ⟨opening, found, opens⟩ := Option.bind_eq_some_iff.mp construction
  have whole := pair.inside
  rw [between_split above below found] at whole
  rcases Nat.eq_or_lt_of_le crossed with same | sooner
  · subst same
    exact not_open_between opens whole within.inside
  · obtain ⟨kind, _, release⟩ := pair.kind
    obtain ⟨closing, closed, _⟩ := Option.bind_eq_some_iff.mp release
    have shell := within.inside
    rw [between_split below sooner closed] at shell
    obtain ⟨middle, front, _⟩ := scan_of_append shell
    exact not_open_between opens whole front

theorem matches_of_split (before inner rest : List Event) {opening closing : Event} {part : Part}
    (opens : opening.opens = some part) (closes : closing.closes = some part)
    (balanced : unmatched inner = some []) :
    Matches (before ++ opening :: (inner ++ closing :: rest)) before.length
      (before.length + 1 + inner.length) := by
  refine ⟨by omega, ⟨part, by simp [opensAt, opens], ?_⟩, ?_⟩
  · have position : before.length + 1 + inner.length - before.length = inner.length + 1 := by omega
    have behind : before.length ≤ before.length + 1 + inner.length := by omega
    simp [closesAt, List.getElem?_append_right behind, position, closes]
  · rw [between_of_split]
    exact balanced

theorem closes_innermost {top closing : Event} {below rest : List Event} {part : Part}
    (closes : closing.closes = some part)
    (scanned : scan (top :: below) (closing :: rest) = some live) : top.opens = some part := by
  obtain ⟨next, entered, _⟩ := Option.bind_eq_some_iff.mp scanned
  rcases enter_cases entered with
    ⟨kind, opens, _⟩ | ⟨_, inert, _⟩ | ⟨_, kind, split, _, closed, same⟩
  · rw [Event.closes_of_opens opens] at closes
    cases closes
  · rw [inert] at closes
    cases closes
  · cases split
    exact same.trans (closed.symm.trans closes)

theorem constructed_once (nested : unmatched events = some live) {last : Nat}
    (release : (closesAt events last).isSome) : ∃! first, Matches events first last := by
  obtain ⟨part, release⟩ := Option.isSome_iff_exists.mp release
  obtain ⟨past, closing, rest, rfl, rfl, closes⟩ := split_at release
  obtain ⟨middle, read, later⟩ := scan_of_append nested
  cases layered_of_unmatched read with
  | closed whole => simp [scan_closing closes] at later
  | @opened before below inside top _ outer construction inner =>
      have opens := closes_innermost closes later
      have size : (before ++ top :: inside).length = before.length + 1 + inside.length := by
        simp
        omega
      have pair : Matches ((before ++ top :: inside) ++ closing :: rest) before.length
          (before ++ top :: inside).length := by
        rw [size, List.append_assoc]
        exact matches_of_split before inside rest opens closes inner
      exact ⟨before.length, pair, fun other also => also.construction_unique pair⟩

theorem released_once {first : Nat} (construction : (opensAt events first).isSome) :
    (∃! last, Matches events first last) ∨ Standing events first := by
  by_cases released : ∃ last, Matches events first last
  · obtain ⟨last, pair⟩ := released
    exact .inl ⟨last, pair, fun other also => also.release_unique pair⟩
  · exact .inr ⟨construction, fun last pair => released ⟨last, pair⟩⟩

theorem released_of_scan (past : List Event) {opening : Event} {rest below : List Event}
    {part : Part} (opens : opening.opens = some part)
    (scanned : scan (opening :: below) rest = some []) :
    ∃ last, Matches (past ++ opening :: rest) past.length last := by
  have innermost : scan ([] ++ opening :: below) rest = some [] := scanned
  rcases fate opens innermost with
    ⟨inner, closing, after, rfl, balanced, closes⟩ | ⟨upper, stays⟩
  · exact ⟨_, matches_of_split past inner after opens closes balanced⟩
  · simp at stays

theorem released_in_balanced (balanced : unmatched events = some []) {first : Nat}
    (construction : (opensAt events first).isSome) : ∃ last, Matches events first last := by
  obtain ⟨part, construction⟩ := Option.isSome_iff_exists.mp construction
  obtain ⟨past, opening, rest, rfl, rfl, opens⟩ := split_at construction
  obtain ⟨middle, _, later⟩ := scan_of_append balanced
  rw [scan_opening opens] at later
  exact released_of_scan past opens later

theorem matches_append (rest : List Event) {first last : Nat} (within : last < events.length) :
    Matches (events ++ rest) first last ↔ Matches events first last := by
  have same : between (events ++ rest) first last = between events first last := by
    rw [between, List.take_append_of_le_length (Nat.le_of_lt within)]
    rfl
  constructor
  · rintro ⟨later, kind, inside⟩
    simp only [opensAt, closesAt, List.getElem?_append_left within,
      List.getElem?_append_left (Nat.lt_trans later within)] at kind
    exact ⟨later, kind, same ▸ inside⟩
  · rintro ⟨later, kind, inside⟩
    refine ⟨later, ?_, same.symm ▸ inside⟩
    simp only [opensAt, closesAt, List.getElem?_append_left within,
      List.getElem?_append_left (Nat.lt_trans later within)]
    exact kind

theorem between_after (before inside : List Event) (top : Event) {last : Nat}
    (later : before.length < last) :
    between (before ++ top :: inside) before.length last =
      inside.take (last - before.length - 1) := by
  obtain ⟨count, rfl⟩ : ∃ count, last = before.length + (count + 1) :=
    ⟨last - before.length - 1, by omega⟩
  have room : before.length + (count + 1) - before.length - 1 = count := by omega
  rw [between, List.take_length_add_append, room, List.take_succ_cons, ← List.singleton_append,
    ← List.append_assoc]
  simp

theorem lt_of_opensAt {position : Nat} (construction : (opensAt events position).isSome) :
    position < events.length := by
  obtain ⟨part, construction⟩ := Option.isSome_iff_exists.mp construction
  obtain ⟨event, found, _⟩ := Option.bind_eq_some_iff.mp construction
  exact (List.getElem?_eq_some_iff.mp found).1

theorem Matches.lt_length {first last : Nat} (pair : Matches events first last) :
    last < events.length := by
  obtain ⟨part, _, release⟩ := pair.kind
  obtain ⟨event, found, _⟩ := Option.bind_eq_some_iff.mp release
  exact (List.getElem?_eq_some_iff.mp found).1

section

variable {before inside : List Event} {top : Event} {part : Part}

theorem not_matches_top (balanced : unmatched inside = some []) (last : Nat) :
    ¬Matches (before ++ top :: inside) before.length last := by
  intro pair
  obtain ⟨count, rfl⟩ : ∃ count, last = before.length + (count + 1) :=
    ⟨last - before.length - 1, by have := pair.later; omega⟩
  have room : before.length + (count + 1) - before.length - 1 = count := by omega
  obtain ⟨_, _, release⟩ := pair.kind
  obtain ⟨closing, found, closes⟩ := Option.bind_eq_some_iff.mp release
  rw [List.getElem?_append_right (Nat.le_add_right _ _), Nat.add_sub_cancel_left,
    List.getElem?_cons_succ] at found
  obtain ⟨bound, rfl⟩ := List.getElem?_eq_some_iff.mp found
  have inner := pair.inside
  rw [between_after _ _ _ pair.later, room] at inner
  rw [← List.take_append_drop count inside, unmatched_append inner,
    List.drop_eq_getElem_cons bound, unmatched, scan_closing closes] at balanced
  cases balanced

theorem not_matches_past (construction : top.opens = some part)
    (balanced : unmatched inside = some []) {first last : Nat} (above : first < before.length)
    (below : before.length ≤ last) : ¬Matches (before ++ top :: inside) first last := by
  intro pair
  have found : (before ++ top :: inside)[before.length]? = some top := by simp
  rcases Nat.eq_or_lt_of_le below with same | later
  · subst same
    obtain ⟨_, _, release⟩ := pair.kind
    simp [closesAt, Event.closes_of_opens construction] at release
  · have whole := pair.inside
    rw [between_split above later found, between_after _ _ _ later] at whole
    rw [← List.take_append_drop (last - before.length - 1) inside] at balanced
    obtain ⟨middle, front, _⟩ := scan_of_append balanced
    exact not_open_between construction whole front

theorem released_behind (balanced : unmatched inside = some []) {position : Nat}
    (later : before.length < position)
    (opening : (opensAt (before ++ top :: inside) position).isSome) :
    ∃ last, Matches (before ++ top :: inside) position last := by
  obtain ⟨kind, opening⟩ := Option.isSome_iff_exists.mp opening
  obtain ⟨past, event, rest, split, rfl, opens⟩ := split_at opening
  rcases List.append_eq_append_iff.mp split with ⟨inner, rfl, remain⟩ | ⟨outer, rfl, _⟩
  · cases inner with
    | nil => simp at later
    | cons first inner =>
        cases remain
        obtain ⟨middle, _, behind⟩ := scan_of_append balanced
        rw [scan_opening opens] at behind
        rw [split]
        exact released_of_scan _ opens behind
  · simp only [List.length_append] at later
    omega

theorem standing_opened (construction : top.opens = some part)
    (balanced : unmatched inside = some []) (position : Nat) :
    Standing (before ++ top :: inside) position ↔
      position = before.length ∨ Standing before position := by
  constructor
  · rintro ⟨opening, unreleased⟩
    rcases Nat.lt_trichotomy position before.length with earlier | same | later
    · refine .inr ⟨by simpa [opensAt, List.getElem?_append_left earlier] using opening, ?_⟩
      intro last pair
      exact unreleased last ((matches_append _ pair.lt_length).mpr pair)
    · exact .inl same
    · obtain ⟨last, pair⟩ := released_behind balanced later opening
      exact absurd pair (unreleased last)
  · rintro (rfl | ⟨opening, unreleased⟩)
    · exact ⟨by simp [opensAt, construction], not_matches_top balanced⟩
    · have earlier := lt_of_opensAt opening
      refine ⟨by simpa [opensAt, List.getElem?_append_left earlier] using opening, ?_⟩
      intro last pair
      by_cases within : last < before.length
      · exact unreleased last ((matches_append _ within).mp pair)
      · exact not_matches_past construction balanced earlier (Nat.le_of_not_lt within) pair

end

theorem Layered.standing (layered : Layered events live) :
    ∃ positions : List Nat, positions.Pairwise (· > ·) ∧
      positions.map (events[·]?) = live.map some ∧
      ∀ position, position ∈ positions ↔ Standing events position := by
  induction layered with
  | closed whole =>
      refine ⟨[], List.Pairwise.nil, rfl, fun position => ?_⟩
      constructor
      · intro member
        cases member
      · rintro ⟨construction, unreleased⟩
        obtain ⟨last, pair⟩ := released_in_balanced whole construction
        exact absurd pair (unreleased last)
  | @opened before below inside top part outer construction inner ih =>
      obtain ⟨positions, ordered, found, standing⟩ := ih
      have earlier : ∀ position ∈ positions, position < before.length := fun position member =>
        lt_of_opensAt ((standing position).mp member).1
      refine ⟨before.length :: positions, List.pairwise_cons.mpr ⟨earlier, ordered⟩, ?_, ?_⟩
      · rw [List.map_cons, List.map_cons, ← found]
        congr 1
        · simp
        · refine List.map_congr_left fun position member => ?_
          exact List.getElem?_append_left (earlier position member)
      · intro position
        rw [List.mem_cons, standing, standing_opened construction inner]

end

structure Paired (events live : List Event) : Prop where
  unreleased : unmatched events = some live
  standing : ∃ positions : List Nat, positions.Pairwise (· > ·) ∧
    positions.map (events[·]?) = live.map some ∧
    ∀ position, position ∈ positions ↔ Standing events position
  released : ∀ first, (opensAt events first).isSome →
    (∃! last, Matches events first last) ∨ Standing events first
  constructed : ∀ last, (closesAt events last).isSome → ∃! first, Matches events first last
  innerFirst : ∀ outer last inner other, Matches events outer last → Matches events inner other →
    outer < inner → inner < last → other < last

theorem paired_of_unmatched {events live : List Event} (nested : unmatched events = some live) :
    Paired events live := by
  constructor
  · exact nested
  · exact (layered_of_unmatched nested).standing
  · exact fun first construction => released_once construction
  · exact fun last release => constructed_once nested release
  · exact fun outer last inner other pair within => pair.inner_first within

end Transceiver.Brackets
