import Transceiver.Proofs.Bootstrap.Scopes
import Transceiver.Proofs.Fault

/-!
What the log says of the end of a run. An error is logged once, where it arises, and every scope
that passes it on is silent about it; a run that is served logs the shutdown it received instead,
and an aborted run neither.
-/

namespace Transceiver

inductive LogEntry.Reports : LogEntry → BootstrapError → Prop
  | scheduling (priority : Int) (cause : String) :
      Reports (.priorityRefused cause) (.scheduling priority cause)
  | negotiation (fault : Fault) : Reports (.deviceFailed fault) (.negotiation fault)
  | unsupportedInterface (code : Nat) :
      Reports (.unsupportedInterface code) (.unsupportedInterface code)
  | interfaceInit (fault : Fault) : Reports (.interfaceFailed fault) (.interfaceInit fault)
  | coreInit (fault : Fault) : Reports (.coreFailed fault) (.coreInit fault)
  | missingFifo (channel : Nat) : Reports (.fifoNotAttached channel) (.missingFifo channel)
  | attachFailed (channel : Nat) (fault : Fault) :
      Reports (.fifoNotAttached channel) (.attachFailed channel fault)

theorem LogEntry.Reports.severity {entry : LogEntry} {error : BootstrapError}
    (reports : entry.Reports error) : entry.severity = .error := by
  cases reports with
  | _ => rfl

theorem LogEntry.Reports.text {entry : LogEntry} {error : BootstrapError}
    (reports : entry.Reports error) : entry.text = error.report := by
  cases reports with
  | _ => rfl

def LogEntry.isVerdict : LogEntry → Bool
  | shutdownReceived => true
  | entry => entry.severity = .error

namespace Trace

def verdicts (trace : Trace) : List LogEntry :=
  trace.entries.filter LogEntry.isVerdict

@[simp] theorem verdicts_nil : verdicts [] = [] := rfl

@[simp] theorem verdicts_append (first second : Trace) :
    verdicts (first ++ second) = first.verdicts ++ second.verdicts := by
  simp [verdicts]

@[simp] theorem verdicts_event_cons (event : Event) (rest : Trace) :
    verdicts (.event event :: rest) = rest.verdicts := rfl

theorem mem_entries {entry : LogEntry} {trace : Trace} :
    entry ∈ trace.entries ↔ .logged entry ∈ trace := by
  rw [entries, List.mem_filterMap]
  constructor
  · rintro ⟨note, member, logged⟩
    cases note with
    | logged other =>
        cases logged
        exact member
    | event | printed => cases logged
  · intro member
    exact ⟨_, member, rfl⟩

theorem mem_verdicts {entry : LogEntry} {trace : Trace} :
    entry ∈ trace.verdicts ↔ .logged entry ∈ trace ∧ entry.isVerdict = true := by
  rw [verdicts, List.mem_filter, mem_entries]

end Trace

namespace Lifecycle

@[simp] theorem verdicts_beginShutdown (phase : Phase) : (beginShutdown phase).1.verdicts = [] := by
  cases phase with
  | _ => rfl

@[simp] theorem verdicts_stop (phase : Phase) : (stop phase).1.verdicts = [] := by
  cases phase with
  | _ => rfl

theorem verdicts_start {priority : Option Int} {scheduler : Scheduler} (phase : Phase)
    (accepted : startError? priority scheduler = none) :
    (start phase priority scheduler).1.verdicts = [] := by
  rw [start_accepted phase accepted]
  cases priority with
  | none | some level => rfl

theorem start_reports {priority : Option Int} {scheduler : Scheduler} {error : BootstrapError}
    (phase : Phase) (refused : startError? priority scheduler = some error) :
    ∃ entry, entry.Reports error ∧ (start phase priority scheduler).1.verdicts = [entry] := by
  obtain ⟨level, cause, _, rfl, started⟩ := start_refused phase refused
  rw [started]
  exact ⟨_, .scheduling level cause, rfl⟩

end Lifecycle

namespace Pipeline

def Attempt.Tells {α : Type} (attempt : Attempt BootstrapError α) : Prop :=
  match attempt.outcome with
  | .failed error => ∃ entry, entry.Reports error ∧ attempt.trace.verdicts = [entry]
  | .done _ | .overflow => attempt.trace.verdicts = []

section

variable (script : Script) (config : Config)

theorem tells_negotiate (device : Device) : (negotiate script config device).Tells := by
  cases opens : script.failOpen with
  | true =>
      rw [negotiate_failed script config device opens]
      exact ⟨_, .negotiation openFault, rfl⟩
  | false =>
      rw [negotiate_done script config device opens]
      rfl

theorem tells_buildInterface (code table : Nat) :
    (buildInterface script config code table).Tells := by
  cases known : Topology.ofCode? code with
  | none =>
      rw [buildInterface_unsupported script config table (Topology.ofCode?_eq_none_iff.mp known)]
      exact ⟨_, .unsupportedInterface code, rfl⟩
  | some topology =>
      cases works : script.failInterface with
      | true =>
          rw [buildInterface_failed script config table known works]
          exact ⟨_, .interfaceInit interfaceFault, rfl⟩
      | false =>
          cases fits : tableFits (topology.width config.channels) with
          | true =>
              rw [buildInterface_ready script config table known works fits]
              rfl
          | false =>
              rw [buildInterface_overflow script config table known works fits]
              rfl

theorem verdicts_attachNotes (channel count : Nat) : (attachNotes channel count).verdicts = [] := by
  induction count generalizing channel with
  | zero => rfl
  | succ count ih =>
      rw [attachNotes_succ]
      exact ih (channel + 1)

theorem reports_attachError (interface : Interface) (channel : Nat) :
    LogEntry.Reports (.fifoNotAttached channel) (attachError script interface channel) := by
  unfold attachError
  split
  · exact .missingFifo channel
  · exact .attachFailed channel (rejection channel)

theorem tells_assemble (interface : Interface) : (assemble script config interface).Tells := by
  cases fits : tableFits config.channels with
  | false =>
      rw [assemble_overflow script config interface fits]
      rfl
  | true =>
      cases works : script.failCore with
      | true =>
          rw [assemble_failed script config interface fits works]
          exact ⟨_, .coreInit coreFault, rfl⟩
      | false =>
          cases first : firstUnattached? script interface config.channels with
          | none =>
              rw [assemble_done script config interface fits works first]
              exact verdicts_attachNotes 0 config.channels
          | some channel =>
              rw [assemble_unattached script config interface fits works first]
              refine ⟨_, reports_attachError script interface channel, ?_⟩
              simp only [List.cons_append, Trace.verdicts_event_cons, Trace.verdicts_append,
                verdicts_attachNotes]
              rfl

end

end Pipeline

namespace Bootstrap

open Lifecycle Pipeline

inductive Tells (run : Run) : Prop
  | served (ok : run.result = .ok) (told : run.trace.verdicts = [.shutdownReceived])
  | failed (error : BootstrapError) (entry : LogEntry) (ends : run.result = .failed error)
      (reports : entry.Reports error) (told : run.trace.verdicts = [entry])
  | aborted (ends : run.result = .aborted) (told : run.trace.verdicts = [])

namespace Tells

variable {run next : Run}

theorem of_same (inner : Tells run) (result : next.result = run.result)
    (verdicts : next.trace.verdicts = run.trace.verdicts) : Tells next := by
  cases inner with
  | served ok told => exact .served (result.trans ok) (verdicts.trans told)
  | failed error entry ends reports told =>
      exact .failed error entry (result.trans ends) reports (verdicts.trans told)
  | aborted ends told => exact .aborted (result.trans ends) (verdicts.trans told)

theorem after {notes : Trace} (silent : notes.verdicts = []) (inner : Tells run) :
    Tells (run.after notes) :=
  inner.of_same rfl (by simp [Run.after, silent])

theorem leaving (released : Event) (inner : Tells run) : Tells (run.leaving released) := by
  unfold Run.leaving
  split
  next aborted => exact inner.of_same rfl (by simp)
  next => exact inner.of_same rfl (by simp)

theorem stopping (inner : Tells run) : Tells run.stopping := by
  unfold Run.stopping
  split
  next aborted => exact inner
  next => exact inner.of_same rfl (by simp)

end Tells

section

variable (script : Script) (config : Config) (interval : Nat) (shutdown : Shutdown) (phase : Phase)

theorem tells_serveCore (core : Core) : Tells (serveCore core interval shutdown phase) := by
  unfold serveCore
  refine Tells.leaving (.coreReleased core.attachedCount) ?_
  exact .served rfl rfl

theorem tells_runInterface (interface : Interface) :
    Tells (runInterface script config interface interval shutdown phase) := by
  have tells := tells_assemble script config interface
  unfold runInterface
  generalize assemble script config interface = attempt at tells
  obtain ⟨notes, outcome⟩ := attempt
  cases outcome with
  | done core => exact (tells_serveCore interval shutdown phase core).after tells
  | failed error =>
      obtain ⟨entry, reports, told⟩ := tells
      exact .failed error entry rfl reports told
  | overflow => exact .aborted rfl tells

theorem tells_runDevice (device : Device) :
    Tells (runDevice script config device interval shutdown phase) := by
  have opens := tells_negotiate script config device
  unfold runDevice
  generalize negotiate script config device = negotiated at opens
  obtain ⟨opened, outcome⟩ := negotiated
  cases outcome with
  | failed error =>
      obtain ⟨entry, reports, told⟩ := opens
      exact .failed error entry rfl reports told
  | overflow => exact .aborted rfl opens
  | done code =>
      have builds := tells_buildInterface script config code 0
      generalize built : buildInterface script config code 0 = attempt at builds
      obtain ⟨notes, outcome⟩ := attempt
      simp only [built]
      have before (rest : List LogEntry) (told : notes.verdicts = rest) :
          Trace.verdicts (opened ++ notes) = rest := by
        rw [Trace.verdicts_append, told]
        exact congrArg (· ++ rest) opens
      cases outcome with
      | failed error =>
          obtain ⟨entry, reports, told⟩ := builds
          exact .failed error entry rfl reports (before _ told)
      | overflow => exact .aborted rfl (before _ builds)
      | done interface =>
          exact ((tells_runInterface script config interval shutdown phase interface).leaving
            .interfaceReleased).after (before _ builds)

variable (scheduler : Scheduler)

/-- Every run tells its end once, whether it is served, fails or is aborted. -/
theorem tells_run : Tells (run script config interval shutdown phase scheduler) := by
  cases asked : startError? config.priority scheduler with
  | some error =>
      obtain ⟨entry, reports, told⟩ := start_reports phase asked
      simp only [run, asked]
      exact .failed error entry rfl reports told
  | none =>
      have inner := tells_runDevice script config interval shutdown
        (start phase config.priority scheduler).2 ⟨config.deviceParams⟩
      have silent : Trace.verdicts ((start phase config.priority scheduler).1 ++
          .logged (.settings config) :: (makeDevice config).1) = [] := by
        rw [Trace.verdicts_append, verdicts_start phase asked]
        rfl
      simp only [run, asked]
      exact ((inner.leaving .deviceReleased).stopping).after silent

/-- A run receives the shutdown exactly if nothing stops it before. -/
theorem shutdownReceived_mem_run :
    .logged .shutdownReceived ∈ (run script config interval shutdown phase scheduler).trace ↔
      (run script config interval shutdown phase scheduler).result = .ok := by
  have verdict : .shutdownReceived ∈
        (run script config interval shutdown phase scheduler).trace.verdicts ↔
      .logged .shutdownReceived ∈ (run script config interval shutdown phase scheduler).trace := by
    rw [Trace.mem_verdicts]
    exact and_iff_left rfl
  rw [← verdict]
  cases tells_run script config interval shutdown phase scheduler with
  | served ok told => simp [ok, told]
  | failed error entry ends reports told =>
      have differs : LogEntry.shutdownReceived ≠ entry := by
        rintro rfl
        cases reports.severity
      simp [ends, told, differs]
  | aborted ends told => simp [ends, told]

end

end Bootstrap

end Transceiver
