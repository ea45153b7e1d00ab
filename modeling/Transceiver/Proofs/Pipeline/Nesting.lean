import Transceiver.Proofs.Config.Validate
import Transceiver.Proofs.Pipeline.Matching
import Transceiver.Proofs.Pipeline.Walks

/-!
A bench keeps its events nested: at every moment of a run the constructions without a release are
those of the live components, the core inside of the interface and the interface inside of the
device.
-/

namespace Transceiver.Pipeline

open Brackets

def eventsOf (entries : List Entry) : List Event :=
  entries.flatMap (·.trace.events)

theorem walks_run (bench : Bench) (steps : List Step)
    (allocated : ∀ entry ∈ (bench.run steps).1, entry.answer ≠ .overflow) :
    Walks bench.level.constructions (eventsOf (bench.run steps).1)
      (bench.run steps).2.level.constructions := by
  induction steps generalizing bench with
  | nil => exact walks_nil _
  | cons step rest ih =>
      have first := walks_step bench step (allocated _ List.mem_cons_self)
      have later := ih (bench.step step).2 fun entry member =>
        allocated entry (List.mem_cons_of_mem _ member)
      exact first.append later

theorem walks_close (bench : Bench) :
    Walks bench.level.constructions (eventsOf bench.close) [] := by
  have innermost := walks_drop bench
  have next := walks_drop bench.drop.2
  have outermost := walks_drop bench.drop.2.drop.2
  cases level : bench.level with
  | outside =>
      simp only [Bench.close, level]
      exact walks_nil _
  | device made =>
      simp only [Bench.close, level, Bench.drop] at innermost ⊢
      exact innermost
  | interface made built =>
      simp only [Bench.close, level, Bench.drop, Bench.atLevel] at innermost next ⊢
      exact innermost.append next
  | core made built assembled =>
      simp only [Bench.close, level, Bench.drop, Bench.atLevel] at innermost next outermost ⊢
      exact innermost.append (next.append outermost)

theorem run_append (bench : Bench) (past later : List Step) :
    bench.run (past ++ later) =
      ((bench.run past).1 ++ ((bench.run past).2.run later).1,
        ((bench.run past).2.run later).2) := by
  induction past generalizing bench with
  | nil => rfl
  | cons step rest ih => simp [Bench.run, ih]

theorem step_unbuilt (bench : Bench) {code : Nat} {config : Config} {error : BootstrapError}
    (failed : (bench.step (.buildInterface code config)).1.answer = .failed error) :
    (bench.step (.buildInterface code config)).2 = bench := by
  cases level : bench.level with
  | device made =>
      simp only [Bench.step, level, Bench.stepDevice] at failed ⊢
      cases outcome : (buildInterface bench.script config code bench.tables).outcome with
      | done built => simp [outcome] at failed
      | failed error | overflow => rfl
  | outside | interface | core => simp only [Bench.step, level]; rfl

theorem step_unassembled (bench : Bench) {config : Config} {error : BootstrapError}
    (failed : (bench.step (.assemble config)).1.answer = .failed error) :
    (bench.step (.assemble config)).2 = bench := by
  cases level : bench.level with
  | interface made built =>
      simp only [Bench.step, level, Bench.stepInterface] at failed ⊢
      cases outcome : (assemble bench.script config built).outcome with
      | done assembled => simp [outcome] at failed
      | failed error | overflow => rfl
  | outside | device | core => simp only [Bench.step, level]; rfl

def Bench.after (script : Script) (steps : List Step) : Bench :=
  (Bench.run { script } steps).2

def Bench.log (script : Script) (steps : List Step) : List Event :=
  eventsOf (Bench.run { script } steps).1

theorem place_inOrder (event : Event) : event.place <:+ [.core, .interface, .device] := by
  cases event with
  | deviceMade => exact ⟨[.core, .interface, .device], rfl⟩
  | deviceOpened | interfaceBuilt | deviceReleased => exact ⟨[.core, .interface], rfl⟩
  | interfaceInitialized | coreBuilt | interfaceReleased => exact ⟨[.core], rfl⟩
  | coreInitialized | fifoAttached | coreReleased => exact ⟨[], rfl⟩

theorem kinds_constructions (level : Level) :
    kinds level.constructions <:+ [.core, .interface, .device] := by
  cases level with
  | outside => exact ⟨[.core, .interface, .device], rfl⟩
  | device => exact ⟨[.core, .interface], rfl⟩
  | interface => exact ⟨[.core], rfl⟩
  | core => exact ⟨[], rfl⟩

structure Nested (script : Script) (steps : List Step) : Prop where
  paired : ∀ past later, steps = past ++ later →
    Paired (Bench.log script past) (Bench.after script past).level.constructions
  inOrder : ∀ past later, Bench.log script steps = past ++ later →
    ∃ live, unmatched past = some live ∧ kinds live <:+ [.core, .interface, .device]
  placed : ∀ past event later, Bench.log script steps = past ++ event :: later →
    ∃ live, unmatched past = some live ∧ kinds live = event.place
  failed : ∀ past step later error, steps = past ++ step :: later →
    (∃ code config, step = .buildInterface code config) ∨ (∃ config, step = .assemble config) →
    ((Bench.after script past).step step).1.answer = .failed error →
      (Bench.after script (past ++ [step])).level = (Bench.after script past).level ∧
        unmatched (Bench.log script (past ++ [step])) = unmatched (Bench.log script past)
  closed : ∀ first,
    (opensAt (Bench.log script steps ++ eventsOf (Bench.after script steps).close) first).isSome →
      ∃! last,
        Matches (Bench.log script steps ++ eventsOf (Bench.after script steps).close) first last

/-- As long as allocations succeed, the events of every run nest. -/
theorem run_nested (script : Script) (steps : List Step)
    (allocated : ∀ entry ∈ (Bench.run { script } steps).1, entry.answer ≠ .overflow) :
    Nested script steps := by
  have walks (past later : List Step) (split : steps = past ++ later) :
      Walks [] (Bench.log script past) (Bench.after script past).level.constructions := by
    refine walks_run { script } past fun entry member => allocated entry ?_
    rw [split, run_append]
    exact List.mem_append_left _ member
  have whole := walks steps [] (List.append_nil _).symm
  constructor
  · exact fun past later split => paired_of_unmatched (walks past later split).scan
  · intro past later split
    rw [split] at whole
    cases later with
    | nil =>
        rw [List.append_nil] at whole
        exact ⟨_, whole.scan, kinds_constructions _⟩
    | cons event rest =>
        obtain ⟨live, scanned, placed⟩ := whole.placed
        exact ⟨live, scanned, placed ▸ place_inOrder event⟩
  · intro past event later split
    rw [split] at whole
    exact whole.placed
  · intro past step later error split stage failed
    have next : (Bench.after script (past ++ [step])).level = (Bench.after script past).level := by
      have stepped : Bench.after script (past ++ [step]) =
          ((Bench.after script past).step step).2 := by
        simp [Bench.after, run_append, Bench.run]
      rw [stepped]
      rcases stage with ⟨code, config, rfl⟩ | ⟨config, rfl⟩
      · rw [step_unbuilt _ failed]
      · rw [step_unassembled _ failed]
    refine ⟨next, ?_⟩
    have before := (walks past (step :: later) split).scan
    have after := (walks (past ++ [step]) later (by simp [split])).scan
    rw [unmatched, after, unmatched, before, next]
  · intro first construction
    have closed := (whole.append (walks_close (Bench.after script steps))).scan
    obtain ⟨last, pair⟩ := released_in_balanced closed construction
    exact ⟨last, pair, fun other also => also.release_unique pair⟩

/-- A stage that builds nothing and one that lets go of its core lie between the device and its
release. -/
theorem run_nested_of_missing_fifo :
    let script : Script := { missingFifo := some 1 }
    let config := Config.shipped 2
    let steps : List Step :=
      [.makeDevice config, .negotiate config, .buildInterface 7 config, .buildInterface 0 config,
        .assemble config, .drop, .drop, .drop]
    (∀ entry ∈ (Bench.run { script } steps).1, entry.answer ≠ .overflow) ∧
      Bench.log script steps =
        [.deviceMade config.deviceParams, .deviceOpened "" .internal false,
          .interfaceBuilt .direct 2, .interfaceInitialized .normal, .coreBuilt config.coreParams,
          .coreInitialized config.coreSettings, .fifoAttached 0, .coreReleased 1,
          .interfaceReleased, .deviceReleased] ∧
      Nested script steps := by
  intro script config steps
  have allocated : ∀ entry ∈ (Bench.run { script } steps).1, entry.answer ≠ .overflow := by decide
  exact ⟨allocated, by decide, run_nested script steps allocated⟩

end Transceiver.Pipeline
