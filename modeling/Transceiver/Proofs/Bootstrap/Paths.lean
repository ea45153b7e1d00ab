import Transceiver.Proofs.Bootstrap.Exits
import Transceiver.Proofs.Pipeline.Assembly

/-!
The paths of a run through the phases of its lifecycle. Three nested scopes and the stop at the end
all begin the shutdown; whichever is left first announces it, and the others find it done.
-/

namespace Transceiver

def Note.ofLifecycle : Note → Bool
  | logged (.transition _ _) | printed _ => true
  | _ => false

namespace Trace

def course (trace : Trace) : Trace :=
  trace.filter Note.ofLifecycle

@[simp] theorem course_append (first second : Trace) :
    course (first ++ second) = first.course ++ second.course :=
  List.filter_append first second

@[simp] theorem course_event_cons (event : Event) (rest : Trace) :
    course (.event event :: rest) = rest.course := rfl

theorem transitions_course (trace : Trace) : trace.course.transitions = trace.transitions := by
  induction trace with
  | nil => rfl
  | cons note rest ih =>
      cases note with
      | logged entry =>
          cases entry with
          | transition source target => exact congrArg (List.cons (source, target)) ih
          | _ => exact ih
      | _ => exact ih

theorem announcements_course (trace : Trace) :
    announcements trace.course = announcements trace := by
  induction trace with
  | nil => rfl
  | cons note rest ih =>
      cases note with
      | printed announcement => exact congrArg (List.cons announcement) ih
      | logged entry =>
          cases entry with
          | _ => exact ih
      | event => exact ih

theorem printedText_course (trace : Trace) : trace.course.printedText = trace.printedText := by
  rw [printedText, printedText, announcements_course]

end Trace

namespace Pipeline

@[simp] theorem course_attachNotes (channel count : Nat) :
    (attachNotes channel count).course = [] := by
  induction count generalizing channel with
  | zero => rfl
  | succ count ih =>
      rw [attachNotes_succ]
      exact ih (channel + 1)

end Pipeline

namespace Bootstrap

open Lifecycle Pipeline

inductive Path
  | refused
  | failed
  | served
  deriving DecidableEq, Repr

namespace Path

def transitions : Path → List (Phase × Phase)
  | refused => [(.starting, .stopped)]
  | failed => [(.starting, .shuttingDown), (.shuttingDown, .stopped)]
  | served => [(.starting, .running), (.running, .shuttingDown), (.shuttingDown, .stopped)]

def text (channels : Nat) : Path → String
  | refused => ""
  | failed => "Shutting down transceiver...\n"
  | served => "-- Transceiver active with " ++ toString channels ++
      " channel(s)\nShutting down transceiver...\n"

theorem transitions_injective {first second : Path}
    (same : first.transitions = second.transitions) : first = second := by
  cases first with
  | refused =>
      cases second with
      | refused => rfl
      | failed | served => cases same
  | failed =>
      cases second with
      | failed => rfl
      | refused | served => cases same
  | served =>
      cases second with
      | served => rfl
      | refused | failed => cases same

end Path

def Result.path? : Result → Option Path
  | ok => some .served
  | failed (.scheduling _ _) => some .refused
  | failed _ => some .failed
  | aborted => none

theorem alive_of_path? {result : Result} {path : Path} (found : result.path? = some path) :
    result ≠ .aborted := by
  rintro rfl
  cases found

theorem leaving_eq {run : Run} (released : Event) (alive : run.result ≠ .aborted) :
    run.leaving released =
      { run with
        phase := (beginShutdown run.phase).2
        trace := run.trace ++ (beginShutdown run.phase).1 ++ [.event released] } := by
  unfold Run.leaving
  split
  next stopped => exact absurd stopped alive
  next => rfl

theorem stopping_eq {run : Run} (alive : run.result ≠ .aborted) :
    run.stopping =
      { run with phase := (stop run.phase).2, trace := run.trace ++ (stop run.phase).1 } := by
  unfold Run.stopping
  split
  next stopped => exact absurd stopped alive
  next => rfl

theorem result_stopping (run : Run) : run.stopping.result = run.result := by
  unfold Run.stopping
  split
  · rfl
  · rfl

def notice (source : Phase) : Trace :=
  [moved source .shuttingDown, .printed .shuttingDown]

inductive Passage (channels : Nat) (run : Run) : Prop
  | unbegun (failed : run.result.path? = some .failed) (phase : run.phase = .starting)
      (left : run.trace.course = [])
  | begun (failed : run.result.path? = some .failed) (phase : run.phase = .shuttingDown)
      (left : run.trace.course = notice .starting)
  | served (ok : run.result = .ok) (phase : run.phase = .shuttingDown)
      (left : run.trace.course =
        moved .starting .running :: .printed (.active channels) :: notice .running)

namespace Passage

variable {channels : Nat} {run : Run}

theorem stopped {error : BootstrapError} {notes : Trace}
    (failed : (Result.failed error).path? = some .failed) (quiet : notes.course = []) :
    Passage channels (.stopped (.failed error) .starting notes) :=
  .unbegun failed rfl quiet

theorem after {notes : Trace} (quiet : notes.course = []) (inner : Passage channels run) :
    Passage channels (run.after notes) := by
  have same : (run.after notes).trace.course = run.trace.course := by
    rw [Run.after, Trace.course_append, quiet, List.nil_append]
  cases inner with
  | unbegun failed phase left => exact .unbegun failed phase (same.trans left)
  | begun failed phase left => exact .begun failed phase (same.trans left)
  | served ok phase left => exact .served ok phase (same.trans left)

/-- Only a scope that is left before the shutdown was begun announces it. -/
theorem leaving (released : Event) (inner : Passage channels run) :
    Passage channels (run.leaving released) := by
  cases inner with
  | unbegun failed phase left =>
      rw [leaving_eq released (alive_of_path? failed), phase]
      refine .begun failed rfl ?_
      simp only [Trace.course_append, left]
      rfl
  | begun failed phase left =>
      rw [leaving_eq released (alive_of_path? failed), phase]
      refine .begun failed rfl ?_
      simp only [Trace.course_append, left]
      rfl
  | served ok phase left =>
      rw [leaving_eq released (by simp [ok]), phase]
      refine .served ok rfl ?_
      simp only [Trace.course_append, left]
      rfl

end Passage

section

variable (script : Script) (config : Config) (interval : Nat) (shutdown : Shutdown)

theorem passage_serveCore (core : Core) :
    Passage core.params.channels (serveCore core interval shutdown .starting) := by
  dsimp only [serveCore, enterRunning]
  rw [leaving_eq _ (by simp)]
  exact .served rfl rfl rfl

variable (fits : tableFits config.channels = true)
include fits

theorem passage_runInterface (interface : Interface) :
    Passage config.channels
      (runInterface script config interface interval shutdown .starting) := by
  cases fails : script.failCore with
  | true =>
      have assembled := assemble_failed script config interface fits fails
      simp only [runInterface, assembled]
      exact .stopped rfl rfl
  | false =>
      cases first : firstUnattached? script interface config.channels with
      | some channel =>
          have assembled := assemble_unattached script config interface fits fails first
          simp only [runInterface, assembled]
          refine .stopped ?_ ?_
          · unfold attachError
            split
            · rfl
            · rfl
          · simp only [List.cons_append, Trace.course_event_cons, Trace.course_append,
              course_attachNotes]
            rfl
      | none =>
          have assembled := assemble_done script config interface fits fails first
          simp only [runInterface, assembled]
          have served := passage_serveCore interval shutdown
            (Core.withChannels script interface { params := config.coreParams } 0 config.channels)
          exact served.after (course_attachNotes 0 config.channels)

theorem passage_runDevice (device : Device) :
    Passage config.channels (runDevice script config device interval shutdown .starting) := by
  cases fails : script.failOpen with
  | true =>
      have negotiated := negotiate_failed script config device fails
      simp only [runDevice, negotiated]
      exact .stopped rfl rfl
  | false =>
      have negotiated := negotiate_done script config device fails
      cases known : Topology.ofCode? (script.capability.getD device.params.hint.code) with
      | none =>
          have built := buildInterface_unsupported script config 0
            (Topology.ofCode?_eq_none_iff.mp known)
          simp only [runDevice, negotiated, built]
          exact .stopped rfl rfl
      | some topology =>
          cases broken : script.failInterface with
          | true =>
              have built := buildInterface_failed script config 0 known broken
              simp only [runDevice, negotiated, built]
              exact .stopped rfl rfl
          | false =>
              have built := buildInterface_done script config 0 known broken fits
              simp only [runDevice, negotiated, built]
              exact ((passage_runInterface script config interval shutdown fits _).leaving
                .interfaceReleased).after rfl

end

/-! The whole run. -/

/-- A run takes a path: its result, its logged moves and its printed lines are those of the path,
and the moves are those of no other. -/
structure Takes (config : Config) (run : Run) (path : Path) : Prop where
  result : run.result.path? = some path
  transitions : run.trace.transitions = path.transitions
  printed : run.trace.printedText = path.text config.channels
  only : ∀ other : Path, run.trace.transitions = other.transitions → other = path

theorem takes_of_course {config : Config} {run : Run} {path : Path} {notes : Trace}
    (result : run.result.path? = some path) (left : run.trace.course = notes)
    (moves : notes.transitions = path.transitions)
    (lines : notes.printedText = path.text config.channels) : Takes config run path := by
  have transitions : run.trace.transitions = path.transitions := by
    rw [← Trace.transitions_course, left, moves]
  refine ⟨result, transitions, ?_, ?_⟩
  · rw [← Trace.printedText_course, left, lines]
  · intro other same
    exact Path.transitions_injective (same.symm.trans transitions)

theorem printedText_served {trace : Trace} {channels : Nat}
    (lines : Trace.announcements trace = [.active channels, .shuttingDown]) :
    trace.printedText = Path.served.text channels := by
  have tail : " channel(s)" ++ ("\n" ++ ("Shutting down transceiver..." ++ "\n")) =
      " channel(s)\nShutting down transceiver...\n" := by decide
  calc
    trace.printedText =
        "" ++ ("-- Transceiver active with " ++ toString channels ++ " channel(s)") ++ "\n" ++
          "Shutting down transceiver..." ++ "\n" := by
      rw [Trace.printedText, lines]
      rfl
    _ = "-- Transceiver active with " ++ toString channels ++
          (" channel(s)" ++ ("\n" ++ ("Shutting down transceiver..." ++ "\n"))) := by
      simp only [String.append_assoc, String.empty_append]
    _ = Path.served.text channels :=
      congrArg ("-- Transceiver active with " ++ toString channels ++ ·) tail

theorem Passage.takes {config : Config} {run : Run} {notes : Trace}
    (passage : Passage config.channels run) (begun : run.phase = .shuttingDown)
    (quiet : notes.course = []) : ∃ path, Takes config (run.stopping.after notes) path := by
  have stop : run.result ≠ .aborted → (run.stopping.after notes).result = run.result ∧
      (run.stopping.after notes).trace.course =
        run.trace.course ++ [moved .shuttingDown .stopped] := by
    intro alive
    rw [stopping_eq alive, begun]
    refine ⟨rfl, ?_⟩
    simp only [Run.after, Trace.course_append, quiet]
    rfl
  cases passage with
  | unbegun failed phase left =>
      rw [begun] at phase
      cases phase
  | begun failed phase left =>
      obtain ⟨result, course⟩ := stop (alive_of_path? failed)
      rw [left] at course
      exact ⟨.failed, takes_of_course (by rw [result, failed]) course rfl rfl⟩
  | served ok phase left =>
      obtain ⟨result, course⟩ := stop (by simp [ok])
      rw [left] at course
      refine ⟨.served, takes_of_course (by rw [result, ok]; rfl) course rfl ?_⟩
      exact printedText_served rfl

theorem Passage.phase_leaving {channels : Nat} {run : Run} (released : Event)
    (inner : Passage channels run) : (run.leaving released).phase = .shuttingDown := by
  cases inner with
  | unbegun failed phase left | begun failed phase left =>
      rw [leaving_eq released (alive_of_path? failed), phase]
      rfl
  | served ok phase left =>
      rw [leaving_eq released (by simp [ok]), phase]
      rfl

theorem course_start {priority : Option Int} {scheduler : Scheduler} (phase : Phase)
    (accepted : startError? priority scheduler = none) :
    (start phase priority scheduler).1.course = [] := by
  rw [start_accepted phase accepted]
  cases priority with
  | none | some level => rfl

section

variable (script : Script) (config : Config) (interval : Nat) (shutdown : Shutdown)

variable (scheduler : Scheduler)

theorem run_takes (fits : tableFits config.channels = true) :
    ∃ path, Takes config (run script config interval shutdown .starting scheduler) path := by
  cases start : startError? config.priority scheduler with
  | some error =>
      obtain ⟨level, cause, _, rfl, started⟩ := start_refused .starting start
      simp only [run, start, started]
      exact ⟨.refused, takes_of_course rfl rfl rfl rfl⟩
  | none =>
      have unmoved : (Lifecycle.start .starting config.priority scheduler).2 = .starting := by
        rw [start_accepted .starting start]
      have inner := passage_runDevice script config interval shutdown fits ⟨config.deviceParams⟩
      simp only [run, start, unmoved]
      refine (inner.leaving .deviceReleased).takes (inner.phase_leaving .deviceReleased) ?_
      rw [Trace.course_append, course_start .starting start]
      rfl

/-- A run that is not aborted leaves the lifecycle stopped, whatever state it was handed. -/
theorem stopped_of_run (phase : Phase)
    (alive : (run script config interval shutdown phase scheduler).result ≠ .aborted) :
    (run script config interval shutdown phase scheduler).phase = .stopped := by
  cases start : startError? config.priority scheduler with
  | some error =>
      obtain ⟨level, cause, _, rfl, started⟩ := start_refused phase start
      simp only [run, start, started]
      rfl
  | none =>
      simp only [run, start, Run.after] at alive ⊢
      rw [result_stopping] at alive
      rw [stopping_eq alive]
      rfl

theorem Exit.result_ne_aborted (exit : Exit) : exit.result ≠ .aborted := by
  cases exit with
  | _ => simp [Exit.result]

theorem Exit.counts_of_ok {exit : Exit} (ok : exit.result = .ok) :
    ((exit.events config).filterMap Event.attached?).length = config.channels ∧
      ∀ attached, .coreReleased attached ∈ exit.events config ↔ attached = config.channels := by
  cases exit with
  | served code =>
      refine ⟨?_, ?_⟩
      · simp [events, attaching, assembling, building, opening, List.filterMap_append,
          List.filterMap_cons, List.filterMap_map, Function.comp_def, Event.attached?]
      · intro attached
        simp [events, attaching, assembling, building, opening]
  | _ => cases ok

theorem Takes.running_iff {config : Config} {run : Run} {path : Path}
    (takes : Takes config run path) :
    (∃ source, (source, .running) ∈ run.trace.transitions) ↔ run.result = .ok := by
  rw [takes.transitions]
  have result := takes.result
  cases path with
  | refused | failed =>
      have unserved : run.result ≠ .ok := by
        intro ok
        rw [ok] at result
        cases result
      simp [Path.transitions, unserved]
  | served =>
      have ok : run.result = .ok := by
        cases ended : run.result with
        | ok => rfl
        | failed error =>
            rw [ended] at result
            cases error with
            | _ => cases result
        | aborted =>
            rw [ended] at result
            cases result
      simp [Path.transitions, ok]

structure Proceeds (config : Config) (run : Run) : Prop where
  path : ∃ path, Takes config run path
  running : (∃ source, (source, .running) ∈ run.trace.transitions) ↔ run.result = .ok
  counted : run.result = .ok →
    (run.trace.events.filterMap Event.attached?).length = config.channels ∧
      ∀ attached, .coreReleased attached ∈ run.trace.events ↔ attached = config.channels

/-- A run whose tables fit takes one of three paths through a new lifecycle, serves on one of them
only, and stops the lifecycle in whatever state it was handed. -/
theorem run_takes_one_path (fits : tableFits config.channels = true) :
    Proceeds config (run script config interval shutdown .starting scheduler) ∧
      ∀ phase, (run script config interval shutdown phase scheduler).phase = .stopped := by
  have ends (phase : Phase) := ends_at_exit script config interval shutdown phase scheduler fits
  obtain ⟨path, takes⟩ := run_takes script config interval shutdown scheduler fits
  refine ⟨⟨⟨path, takes⟩, takes.running_iff, ?_⟩, ?_⟩
  · intro ok
    rw [(ends .starting).result] at ok
    rw [(ends .starting).events]
    exact Exit.counts_of_ok config ok
  · intro phase
    refine stopped_of_run script config interval shutdown scheduler phase ?_
    rw [(ends phase).result]
    exact Exit.result_ne_aborted _

end

theorem run_takes_path_of_served :
    tableFits (Config.shipped 2).channels = true ∧
      (run {} (Config.shipped 2) 1000 (.requestedAt 5) .starting Scheduler.privileged).result =
        .ok ∧
      Proceeds (Config.shipped 2)
        (run {} (Config.shipped 2) 1000 (.requestedAt 5) .starting Scheduler.privileged) ∧
      ∀ phase,
        (run {} (Config.shipped 2) 1000 (.requestedAt 5) phase Scheduler.privileged).phase =
          .stopped :=
  ⟨rfl, by decide, run_takes_one_path {} (Config.shipped 2) 1000 (.requestedAt 5) _ rfl⟩

end Bootstrap

end Transceiver
