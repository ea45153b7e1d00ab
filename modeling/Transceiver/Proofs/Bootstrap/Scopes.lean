import Transceiver.Bootstrap
import Transceiver.Proofs.Pipeline.Stages

/-!
The scopes of a run. Leaving a scope adds the release of its component behind everything the scope
left, and neither the announcements nor the moves of the lifecycle are events of the pipeline.
-/

namespace Transceiver.Lifecycle

@[simp] theorem events_announce (announcement : Announcement) :
    (announce announcement).events = [] := rfl

@[simp] theorem events_start (phase : Phase) (priority : Option Int) (scheduler : Scheduler) :
    (start phase priority scheduler).1.events = [] := by
  cases priority with
  | none => rfl
  | some level =>
      simp only [start]
      split <;> rfl

@[simp] theorem events_enterRunning (phase : Phase) (channels : Nat) :
    (enterRunning phase channels).1.events = [] := rfl

@[simp] theorem events_beginShutdown (phase : Phase) : (beginShutdown phase).1.events = [] := by
  cases phase <;> rfl

@[simp] theorem events_stop (phase : Phase) : (stop phase).1.events = [] := by
  cases phase <;> rfl

variable {priority : Option Int} {scheduler : Scheduler}

/-- An accepted priority leaves the note that it was asked for. -/
theorem start_accepted (phase : Phase) (accepted : startError? priority scheduler = none) :
    start phase priority scheduler =
      ((priority.map fun level => .logged (.settingPriority level)).toList, phase) := by
  cases priority with
  | none => rfl
  | some level =>
      cases answer : scheduler level with
      | none => simp [start, answer]
      | some cause => simp [startError?, answer] at accepted

/-- A refused priority leaves the report of it, and the lifecycle stopped. -/
theorem start_refused {error : BootstrapError} (phase : Phase)
    (refused : startError? priority scheduler = some error) :
    ∃ level cause, priority = some level ∧ error = .scheduling level cause ∧
      start phase priority scheduler =
        ([.logged (.settingPriority level), .logged (.priorityRefused cause),
          moved phase .stopped], .stopped) := by
  cases priority with
  | none => cases refused
  | some level =>
      cases answer : scheduler level with
      | none => simp [startError?, answer] at refused
      | some cause =>
          simp only [startError?, answer, Option.map_some, Option.some.injEq] at refused
          exact ⟨level, cause, rfl, refused.symm, by simp [start, answer]⟩

end Transceiver.Lifecycle

namespace Transceiver.Bootstrap

open Lifecycle Pipeline

structure Ends (run : Run) (result : Result) (events : List Event) : Prop where
  result : run.result = result
  events : run.trace.events = events

namespace Ends

variable {run : Run} {result : Result} {events : List Event}

theorem stopped (result : Result) (phase : Phase) (notes : Trace) :
    Ends (.stopped result phase notes) result notes.events :=
  ⟨rfl, rfl⟩

theorem after (notes : Trace) (inner : Ends run result events) :
    Ends (run.after notes) result (notes.events ++ events) := by
  constructor
  · exact inner.result
  · rw [Run.after, Trace.events_append, inner.events]

theorem leaving (released : Event) (inner : Ends run result events) :
    Ends (run.leaving released) result (events ++ [released]) := by
  rw [← inner.result, ← inner.events]
  unfold Run.leaving
  split
  · exact ⟨rfl, by simp⟩
  · exact ⟨rfl, by simp⟩

theorem stopping (inner : Ends run result events) : Ends run.stopping result events := by
  rw [← inner.result, ← inner.events]
  unfold Run.stopping
  split
  · exact ⟨rfl, rfl⟩
  · exact ⟨rfl, by simp⟩

end Ends

variable {script : Script} {config : Config} (interval : Nat) (shutdown : Shutdown) (phase : Phase)

theorem serveCore_ends (core : Core) :
    Ends (serveCore core interval shutdown phase) .ok [.coreReleased core.attachedCount] := by
  have waiting : Ends ⟨.ok, .running, shutdown.waitTime interval,
      (enterRunning phase core.params.channels).1 ++ [.logged .shutdownReceived]⟩ .ok [] :=
    ⟨rfl, by simp⟩
  exact waiting.leaving (.coreReleased core.attachedCount)

/-! The scope of the interface, by the outcome of the assembly. -/

section InterfaceScope

variable {interface : Interface}

theorem runInterface_failed {notes : Trace} {error : BootstrapError}
    (assembled : assemble script config interface = ⟨notes, .failed error⟩) :
    Ends (runInterface script config interface interval shutdown phase) (.failed error)
      notes.events := by
  simp only [runInterface, assembled]
  exact .stopped _ _ _

theorem runInterface_done {notes : Trace} {core : Core}
    (assembled : assemble script config interface = ⟨notes, .done core⟩) :
    Ends (runInterface script config interface interval shutdown phase) .ok
      (notes.events ++ [.coreReleased core.attachedCount]) := by
  simp only [runInterface, assembled]
  exact (serveCore_ends interval shutdown phase core).after notes

theorem runInterface_overflow {notes : Trace}
    (assembled : assemble script config interface = ⟨notes, .overflow⟩) :
    Ends (runInterface script config interface interval shutdown phase) .aborted
      notes.events := by
  simp only [runInterface, assembled]
  exact .stopped _ _ _

end InterfaceScope

/-! The scope of the device, by the outcomes of the negotiation and of the building. -/

section DeviceScope

variable {device : Device}

theorem runDevice_unopened {notes : Trace} {error : BootstrapError}
    (negotiated : negotiate script config device = ⟨notes, .failed error⟩) :
    Ends (runDevice script config device interval shutdown phase) (.failed error)
      notes.events := by
  simp only [runDevice, negotiated]
  exact .stopped _ _ _

theorem runDevice_unbuilt {opened notes : Trace} {code : Nat} {error : BootstrapError}
    (negotiated : negotiate script config device = ⟨opened, .done code⟩)
    (built : buildInterface script config code 0 = ⟨notes, .failed error⟩) :
    Ends (runDevice script config device interval shutdown phase) (.failed error)
      (opened.events ++ notes.events) := by
  simp only [runDevice, negotiated, built]
  rw [← Trace.events_append]
  exact .stopped _ _ _

theorem runDevice_overflow {opened notes : Trace} {code : Nat}
    (negotiated : negotiate script config device = ⟨opened, .done code⟩)
    (built : buildInterface script config code 0 = ⟨notes, .overflow⟩) :
    Ends (runDevice script config device interval shutdown phase) .aborted
      (opened.events ++ notes.events) := by
  simp only [runDevice, negotiated, built]
  rw [← Trace.events_append]
  exact .stopped _ _ _

theorem runDevice_built {opened notes : Trace} {code : Nat} {interface : Interface}
    {result : Result} {events : List Event}
    (negotiated : negotiate script config device = ⟨opened, .done code⟩)
    (built : buildInterface script config code 0 = ⟨notes, .done interface⟩)
    (inner : Ends (runInterface script config interface interval shutdown phase) result events) :
    Ends (runDevice script config device interval shutdown phase) result
      (opened.events ++ notes.events ++ (events ++ [.interfaceReleased])) := by
  simp only [runDevice, negotiated, built]
  rw [← Trace.events_append]
  exact (inner.leaving .interfaceReleased).after (opened ++ notes)

end DeviceScope

/-! The whole run, by the answer to its request for a priority. -/

variable {scheduler : Scheduler}

theorem run_refused {error : BootstrapError}
    (refused : startError? config.priority scheduler = some error) :
    Ends (run script config interval shutdown phase scheduler) (.failed error) [] := by
  simp only [run, refused]
  rw [← events_start phase config.priority scheduler]
  exact .stopped _ _ _

theorem run_started {result : Result} {events : List Event}
    (accepted : startError? config.priority scheduler = none)
    (inner : Ends (runDevice script config ⟨config.deviceParams⟩ interval shutdown phase)
      result events) :
    Ends (run script config interval shutdown phase scheduler) result
      (.deviceMade config.deviceParams :: (events ++ [.deviceReleased])) := by
  have unmoved : (start phase config.priority scheduler).2 = phase := by
    rw [start_accepted phase accepted]
  have scope := (inner.leaving .deviceReleased).stopping.after
    ((start phase config.priority scheduler).1 ++
      .logged (.settings config) :: (makeDevice config).1)
  simp only [run, accepted, unmoved]
  simpa [makeDevice] using scope

end Transceiver.Bootstrap
