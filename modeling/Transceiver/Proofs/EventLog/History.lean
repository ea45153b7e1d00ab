import Transceiver.Proofs.Event
import Transceiver.Proofs.EventLog.Ledger

/-!
Event logs as histories. What a handle shows is what was recorded through the handles that share its
log, in the order in which it was recorded; what is recorded elsewhere changes nothing, and what
comes later stands behind it.
-/

namespace Transceiver.EventLogs

open Number (Binary64)

theorem step_record {state : EventLogs} {source log : Nat} {events : List Event}
    (reached : state.logOf? source = some (log, events)) (event : Event) :
    (state.step (.record source event)).2 =
      { state with logs := state.logs.set log (events ++ [event]) } := by
  simp [step, reached]

structure Kept (ledger : Ledger) (state : EventLogs) : Prop where
  made : state.handles.length = ledger.made
  named : ∀ log ∈ state.handles, log < state.logs.length
  shared : ∀ left < ledger.made, ∀ right < ledger.made,
    (state.handles[left]? = state.handles[right]? ↔
      founder ledger.clones left = founder ledger.clones right)
  logs : ∀ handle log : Nat, state.handles[handle]? = some log →
    state.logs[log]? = some (ledger.through handle)

namespace Kept

variable {ledger : Ledger} {state : EventLogs} {handle : Nat}

theorem logOf?_of_made (kept : Kept ledger state) (known : handle < ledger.made) :
    ∃ log, state.handles[handle]? = some log ∧
      state.logOf? handle = some (log, ledger.through handle) := by
  rw [← kept.made] at known
  have found := List.getElem?_eq_getElem known
  exact ⟨_, found, by simp [logOf?, found, kept.logs handle _ found]⟩

theorem logOf?_of_unmade (kept : Kept ledger state) (unknown : ¬handle < ledger.made) :
    state.logOf? handle = none := by
  rw [← kept.made, Nat.not_lt] at unknown
  simp [logOf?, List.getElem?_eq_none unknown]

/-- One more handle is kept if it names a log that shows what the handle should show, and names the
log of those older handles that it should share one with. -/
theorem concat {next : Ledger} {logs : List (List Event)} {log : Nat} (kept : Kept ledger state)
    (made : next.made = ledger.made + 1) (grown : state.logs <+: logs)
    (founders : ∀ handle < ledger.made,
      founder next.clones handle = founder ledger.clones handle)
    (contents : ∀ handle < ledger.made, next.through handle = ledger.through handle)
    (shows : logs[log]? = some (next.through ledger.made))
    (joins : ∀ handle < ledger.made, (state.handles[handle]? = some log ↔
      founder ledger.clones handle = founder next.clones ledger.made)) :
    Kept next { logs, handles := state.handles ++ [log] } := by
  have old {handle : Nat} (known : handle < ledger.made) :
      (state.handles ++ [log])[handle]? = state.handles[handle]? :=
    List.getElem?_append_left (kept.made ▸ known)
  have last : (state.handles ++ [log])[ledger.made]? = some log := by
    rw [← kept.made, List.getElem?_concat_length]
  constructor
  · rw [made, List.length_append, kept.made, List.length_singleton]
  · intro named member
    rcases List.mem_append.mp member with earlier | new
    · exact Nat.lt_of_lt_of_le (kept.named named earlier) grown.length_le
    · rw [List.mem_singleton.mp new]
      exact (List.getElem?_eq_some_iff.mp shows).1
  · rw [made]
    intro left leftBound right rightBound
    rcases Nat.lt_succ_iff_lt_or_eq.mp leftBound with first | rfl
    · rcases Nat.lt_succ_iff_lt_or_eq.mp rightBound with second | rfl
      · rw [old first, old second, founders left first, founders right second]
        exact kept.shared left first right second
      · rw [old first, last, founders left first]
        exact joins left first
    · rcases Nat.lt_succ_iff_lt_or_eq.mp rightBound with second | rfl
      · rw [old second, last, founders right second, eq_comm, joins right second, eq_comm]
      · simp
  · intro handle named found
    have inside := (List.getElem?_eq_some_iff.mp found).1
    rw [List.length_append, kept.made] at inside
    rcases Nat.lt_succ_iff_lt_or_eq.mp inside with earlier | rfl
    · rw [old earlier] at found
      have there := kept.named named (List.mem_of_getElem? found)
      obtain ⟨more, rfl⟩ := grown
      rw [contents handle earlier, List.getElem?_append_left there]
      exact kept.logs handle named found
    · rw [last] at found
      cases found
      exact shows

theorem create (kept : Kept ledger state) (sound : ledger.Sound) :
    Kept (ledger.after .create) (state.step .create).2 := by
  refine kept.concat rfl (List.prefix_append _ _) (fun _ _ => rfl) (fun _ _ => rfl) ?_ ?_
  · rw [List.getElem?_concat_length]
    exact congrArg some sound.through_made.symm
  · intro handle known
    constructor
    · intro found
      exact absurd (kept.named _ (List.mem_of_getElem? found)) (Nat.lt_irrefl _)
    · intro same
      have below := sound.founder_lt known
      rw [same] at below
      exact absurd (sound.founder_made ▸ below) (Nat.lt_irrefl _)

theorem clone (kept : Kept ledger state) (sound : ledger.Sound) {source : Nat}
    (known : source < ledger.made) :
    Kept (ledger.after (.clone source)) (state.step (.clone source)).2 := by
  obtain ⟨log, found, reached⟩ := kept.logOf?_of_made known
  have founders (handle : Nat) : founder (ledger.after (.clone source)).clones handle =
      founder ledger.clones (if handle = ledger.made then source else handle) := by
    rw [Ledger.after, if_pos known, founder]
  have contents := sound.through_clone known
  have next : (state.step (.clone source)).2 =
      { state with handles := state.handles ++ [log] } := by simp [step, reached]
  rw [next]
  refine kept.concat (by rw [Ledger.after, if_pos known]) List.prefix_rfl ?_ ?_ ?_ ?_
  · intro handle earlier
    rw [founders, if_neg (Nat.ne_of_lt earlier)]
  · intro handle earlier
    rw [contents, if_neg (Nat.ne_of_lt earlier)]
  · rw [contents, if_pos rfl]
    exact kept.logs source log found
  · intro handle earlier
    rw [founders, if_pos rfl, ← found]
    exact kept.shared handle earlier source known

theorem record (kept : Kept ledger state) {source : Nat} (known : source < ledger.made)
    (event : Event) :
    Kept (ledger.after (.record source event)) (state.step (.record source event)).2 := by
  obtain ⟨log, found, reached⟩ := kept.logOf?_of_made known
  have still : (ledger.after (.record source event)).made = ledger.made ∧
      (ledger.after (.record source event)).clones = ledger.clones := by
    rw [Ledger.after, if_pos known]
    exact ⟨rfl, rfl⟩
  rw [step_record reached]
  constructor
  · rw [still.1, kept.made]
  · intro named member
    rw [List.length_set]
    exact kept.named named member
  · rw [still.1, still.2]
    exact kept.shared
  · intro handle named reads
    have inside : handle < ledger.made := kept.made ▸ (List.getElem?_eq_some_iff.mp reads).1
    have there := kept.named log (List.mem_of_getElem? found)
    -- The log that is written is the handle's own exactly if the two have one founder.
    have shared := kept.shared source known handle inside
    rw [found, reads, Option.some.injEq] at shared
    rw [Ledger.through_record known]
    by_cases same : log = named
    · subst same
      have contents : ledger.through source = ledger.through handle :=
        Option.some.inj ((kept.logs source log found).symm.trans (kept.logs handle log reads))
      rw [if_pos (shared.mp rfl), List.getElem?_set_self there, contents]
    · rw [if_neg (mt shared.mpr same), List.append_nil, List.getElem?_set_ne same]
      exact kept.logs handle named reads

theorem step (kept : Kept ledger state) (sound : ledger.Sound) (step : Step) :
    Kept (ledger.after step) (state.step step).2 := by
  cases step with
  | create => exact kept.create sound
  | clone source =>
      by_cases known : source < ledger.made
      · exact kept.clone sound known
      · simpa [Ledger.after, EventLogs.step, known, kept.logOf?_of_unmade known] using kept
  | record source event =>
      by_cases known : source < ledger.made
      · exact kept.record known event
      · simpa [Ledger.after, EventLogs.step, known, kept.logOf?_of_unmade known] using kept
  | contains handle event | isEmpty handle | events handle | releases handle =>
      rw [EventLogs.step]
      split
      · exact kept
      · exact kept

theorem shown (kept : Kept ledger state) (known : handle < ledger.made) :
    (state.step (.events handle)).1 = .events (ledger.through handle) := by
  obtain ⟨_, _, reached⟩ := kept.logOf?_of_made known
  simp [EventLogs.step, reached]

theorem shown_releases (kept : Kept ledger state) (known : handle < ledger.made) :
    (state.step (.releases handle)).1 =
      .events ((ledger.through handle).filter Event.isRelease) := by
  obtain ⟨_, _, reached⟩ := kept.logOf?_of_made known
  simp [EventLogs.step, reached]

theorem shown_empty (kept : Kept ledger state) (known : handle < ledger.made) :
    (state.step (.isEmpty handle)).1 = .truth (decide (ledger.through handle = [])) := by
  obtain ⟨_, _, reached⟩ := kept.logOf?_of_made known
  have empty : (ledger.through handle).isEmpty = decide (ledger.through handle = []) := by
    rw [Bool.eq_iff_iff, List.isEmpty_iff, decide_eq_true_iff]
  simp [EventLogs.step, reached, empty]

theorem shown_contained (kept : Kept ledger state) (known : handle < ledger.made) (event : Event) :
    ∃ found, (state.step (.contains handle event)).1 = .truth found ∧
      (found = true ↔ ∃ entry ∈ ledger.through handle, entry.Equals event) := by
  obtain ⟨_, _, reached⟩ := kept.logOf?_of_made known
  refine ⟨(ledger.through handle).any (·.agrees event), by simp [EventLogs.step, reached], ?_⟩
  simp [List.any_eq_true, Event.agrees_iff]

theorem logOf?_record (kept : Kept ledger state) (known : handle < ledger.made) {other : Nat}
    (apart : founder ledger.clones other ≠ founder ledger.clones handle) (event : Event) :
    (state.step (.record other event)).2.logOf? handle = state.logOf? handle := by
  by_cases there : other < ledger.made
  · obtain ⟨log, found, reached⟩ := kept.logOf?_of_made known
    obtain ⟨written, target, way⟩ := kept.logOf?_of_made there
    have different : written ≠ log := by
      rintro rfl
      exact apart ((kept.shared other there handle known).mp (target.trans found.symm))
    have still : (state.logs.set written (ledger.through other ++ [event]))[log]? =
        state.logs[log]? := List.getElem?_set_ne different
    rw [step_record way]
    simp only [logOf?, found, Option.bind_eq_bind, Option.bind_some, still]
  · simp [EventLogs.step, kept.logOf?_of_unmade there]

end Kept

theorem run_append (state : EventLogs) (first second : List Step) :
    (state.run (first ++ second)).2 = ((state.run first).2.run second).2 := by
  induction first generalizing state with
  | nil => rfl
  | cons step rest ih => exact ih (state.step step).2

theorem kept_fresh : Kept {} {} := by
  constructor
  · rfl
  · decide
  · intro left leftBound right rightBound
    rw [Nat.lt_one_iff.mp leftBound, Nat.lt_one_iff.mp rightBound]
    exact ⟨fun _ => rfl, fun _ => rfl⟩
  · intro handle log found
    have inside := (List.getElem?_eq_some_iff.mp found).1
    rw [Nat.lt_one_iff.mp inside] at found ⊢
    cases found
    rfl

theorem kept_run (steps : List Step) : Kept (ledgerOf steps) (({} : EventLogs).run steps).2 := by
  induction steps using List.reverseRecOn with
  | nil => exact kept_fresh
  | append_singleton steps step ih =>
      rw [ledgerOf_append_singleton, run_append]
      exact ih.step (sound_ledgerOf steps) step

structure Shows (steps : List Step) (state : EventLogs) (handle : Nat) : Prop where
  events : (state.step (.events handle)).1 = .events (recorded steps handle)
  releases : (state.step (.releases handle)).1 =
    .events ((recorded steps handle).filter Event.isRelease)
  empty : (state.step (.isEmpty handle)).1 = .truth (decide (recorded steps handle = []))
  contains : ∀ event, ∃ found, (state.step (.contains handle event)).1 = .truth found ∧
    (found = true ↔ ∃ entry ∈ recorded steps handle, entry.Equals event)
  unfound : ∀ event number, Event.number? event = some number → number.isNaN = true →
    (state.step (.contains handle event)).1 = .truth false
  unsigned : ∀ (event : Event) (zero another : Binary64), zero.isZero = true →
    another.isZero = true → event.withNumber zero ∈ recorded steps handle →
      (state.step (.contains handle (event.withNumber another))).1 = .truth true
  cloned : (state.step (.clone handle)).1 = .handle (ledgerOf steps).made ∧
    ((state.step (.clone handle)).2.step (.events (ledgerOf steps).made)).1 =
      .events (recorded steps handle)
  apart : ∀ other event, ¬Shares steps other handle →
    (state.step (.record other event)).2.logOf? handle = state.logOf? handle
  lasting : ∀ later, ∃ more,
    ((state.run later).2.step (.events handle)).1 = .events (recorded steps handle ++ more)

/-- A handle shows exactly what was recorded through it and through the handles that clones connect
it with, in order; its clones show the same, what goes through other handles changes nothing, and
what is recorded stays where it is. -/
theorem logs_keep_history (steps : List Step) (handle : Nat)
    (known : handle < (ledgerOf steps).made) :
    Shows steps (({} : EventLogs).run steps).2 handle := by
  have kept := kept_run steps
  have sound := sound_ledgerOf steps
  have contents := recorded_eq steps handle
  constructor
  · rw [contents]
    exact kept.shown known
  · rw [contents]
    exact kept.shown_releases known
  · rw [contents]
    exact kept.shown_empty known
  · rw [contents]
    exact kept.shown_contained known
  · intro event number carries nan
    obtain ⟨found, answer, exact⟩ := kept.shown_contained known event
    cases found with
    | false => exact answer
    | true =>
        obtain ⟨entry, _, equal⟩ := exact.mp rfl
        exact absurd equal (Event.not_equals_of_isNaN carries nan)
  · intro event zero another isZero isZeroToo member
    obtain ⟨found, answer, exact⟩ := kept.shown_contained known (event.withNumber another)
    rw [contents] at member
    rw [answer, exact.mpr ⟨_, member, Event.equals_of_isZero isZero isZeroToo event⟩]
  · obtain ⟨log, _, reached⟩ := kept.logOf?_of_made known
    have new : (ledgerOf steps).made < ((ledgerOf steps).after (.clone handle)).made := by
      simp [Ledger.after, known]
    rw [(kept.clone sound known).shown new, sound.through_clone known, if_pos rfl, contents]
    refine ⟨?_, rfl⟩
    simp [step, reached, kept.made]
  · intro other event unshared
    exact kept.logOf?_record known (mt shares_iff.mpr unshared) event
  · intro later
    obtain ⟨still, more, begins⟩ := recorded_append steps later known
    refine ⟨more, ?_⟩
    rw [begins, ← run_append, recorded_eq]
    exact (kept_run (steps ++ later)).shown still

theorem logs_keep_history_of_clone :
    let made : Event := .deviceMade ⟨.four, .one, .normal, 2, .zero⟩
    let steps : List Step :=
      [.record 0 made, .clone 0, .create, .record 2 .interfaceReleased, .record 1 .deviceReleased]
    1 < (ledgerOf steps).made ∧ recorded steps 1 = [made, .deviceReleased] ∧
      Shows steps (({} : EventLogs).run steps).2 1 := by
  intro made steps
  exact ⟨by decide, by decide, logs_keep_history steps 1 (by decide)⟩

end Transceiver.EventLogs
