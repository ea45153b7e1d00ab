import Transceiver.Proofs.Bootstrap.Scopes

/-!
The settings in the log. A run logs its configuration once, between the start of the lifecycle and
the making of the device, and no stage logs it again; the log level it holds is read by none of
them.
-/

namespace Transceiver

def LogEntry.settings? : LogEntry → Option Config
  | settings config => some config
  | _ => none

def Config.atLevel (config : Config) (level : LogLevel) : Config :=
  { config with logLevel := level }

namespace Trace

def summaries (trace : Trace) : List Config :=
  trace.entries.filterMap LogEntry.settings?

@[simp] theorem summaries_append (first second : Trace) :
    summaries (first ++ second) = first.summaries ++ second.summaries := by
  simp [summaries]

end Trace

namespace Lifecycle

@[simp] theorem summaries_start (phase : Phase) (priority : Option Int) (scheduler : Scheduler) :
    (start phase priority scheduler).1.summaries = [] := by
  cases priority with
  | none => rfl
  | some level =>
      simp only [start]
      split
      · rfl
      · rfl

@[simp] theorem summaries_beginShutdown (phase : Phase) :
    (beginShutdown phase).1.summaries = [] := by
  cases phase with
  | _ => rfl

@[simp] theorem summaries_stop (phase : Phase) : (stop phase).1.summaries = [] := by
  cases phase with
  | _ => rfl

end Lifecycle

namespace Pipeline

variable (script : Script) (config : Config)

theorem summaries_negotiate (device : Device) :
    (negotiate script config device).trace.summaries = [] := by
  cases opens : script.failOpen with
  | true =>
      rw [negotiate_failed script config device opens]
      rfl
  | false =>
      rw [negotiate_done script config device opens]
      rfl

theorem summaries_buildInterface (code table : Nat) :
    (buildInterface script config code table).trace.summaries = [] := by
  cases known : Topology.ofCode? code with
  | none =>
      rw [buildInterface_unsupported script config table (Topology.ofCode?_eq_none_iff.mp known)]
      rfl
  | some topology =>
      cases works : script.failInterface with
      | true =>
          rw [buildInterface_failed script config table known works]
          rfl
      | false =>
          cases fits : tableFits (topology.width config.channels) with
          | true =>
              rw [buildInterface_ready script config table known works fits]
              rfl
          | false =>
              rw [buildInterface_overflow script config table known works fits]
              rfl

theorem summaries_attachFrom (interface : Interface) (core : Core) (channel count : Nat) :
    (attachFrom script interface core channel count).trace.summaries = [] := by
  induction count generalizing core channel with
  | zero => rfl
  | succ count ih =>
      rw [attachFrom]
      split
      · rfl
      · split
        · rfl
        next attached taken => exact ih attached (channel + 1)

theorem summaries_assemble (interface : Interface) :
    (assemble script config interface).trace.summaries = [] := by
  cases fits : tableFits config.channels with
  | false =>
      rw [assemble_overflow script config interface fits]
      rfl
  | true =>
      cases works : script.failCore with
      | true =>
          rw [assemble_failed script config interface fits works]
          rfl
      | false =>
          have room : tableFits config.coreParams.channels = true := fits
          have attachment :=
            summaries_attachFrom script interface { params := config.coreParams } 0 config.channels
          simp only [assemble, Core.construct, room, if_true, Core.setUp, works]
          exact attachment

end Pipeline

namespace Bootstrap

open Lifecycle Pipeline

@[simp] theorem summaries_leaving (run : Run) (released : Event) :
    (run.leaving released).trace.summaries = run.trace.summaries := by
  have unlogged : Trace.summaries [.event released] = [] := rfl
  unfold Run.leaving
  split
  · simp [unlogged]
  · simp [unlogged]

@[simp] theorem summaries_stopping (run : Run) :
    run.stopping.trace.summaries = run.trace.summaries := by
  unfold Run.stopping
  split
  · rfl
  · simp

variable (script : Script) (config : Config) (interval : Nat) (shutdown : Shutdown) (phase : Phase)

theorem summaries_serveCore (core : Core) :
    (serveCore core interval shutdown phase).trace.summaries = [] := by
  unfold serveCore
  rw [summaries_leaving]
  rfl

theorem summaries_runInterface (interface : Interface) :
    (runInterface script config interface interval shutdown phase).trace.summaries = [] := by
  have assembly := summaries_assemble script config interface
  unfold runInterface
  generalize assemble script config interface = assembled at assembly
  obtain ⟨notes, outcome⟩ := assembled
  cases outcome with
  | done core =>
      have served := summaries_serveCore interval shutdown phase core
      simp only [Run.after, Trace.summaries_append, served, List.append_nil]
      exact assembly
  | failed error => exact assembly
  | overflow => exact assembly

theorem summaries_runDevice (device : Device) :
    (runDevice script config device interval shutdown phase).trace.summaries = [] := by
  have negotiation := summaries_negotiate script config device
  unfold runDevice
  generalize negotiate script config device = negotiated at negotiation
  obtain ⟨opened, outcome⟩ := negotiated
  cases outcome with
  | failed error => exact negotiation
  | overflow => exact negotiation
  | done code =>
      have building := summaries_buildInterface script config code 0
      generalize built : buildInterface script config code 0 = attempt at building
      obtain ⟨notes, outcome⟩ := attempt
      have before : Trace.summaries (opened ++ notes) = [] := by
        rw [Trace.summaries_append]
        exact List.append_eq_nil_iff.mpr ⟨negotiation, building⟩
      simp only [built]
      cases outcome with
      | failed error => exact before
      | overflow => exact before
      | done interface =>
          have served := summaries_runInterface script config interval shutdown phase interface
          simp only [Run.after, Trace.summaries_append _ (Run.leaving _ _).trace,
            summaries_leaving, served, List.append_nil]
          exact before

theorem runDevice_atLevel (level : LogLevel) (device : Device) :
    runDevice script (config.atLevel level) device interval shutdown phase =
      runDevice script config device interval shutdown phase := rfl

variable (scheduler : Scheduler)

inductive Summarizes : Prop
  | refused (silent : (run script config interval shutdown phase scheduler).trace.summaries = [])
      (same : ∀ level, run script (config.atLevel level) interval shutdown phase scheduler =
        run script config interval shutdown phase scheduler)
  | started (before after : Trace) (silent : before.summaries = []) (quiet : after.summaries = [])
      (same : ∀ level, run script (config.atLevel level) interval shutdown phase scheduler =
        { run script config interval shutdown phase scheduler with
          trace := before ++ .logged (.settings (config.atLevel level)) :: after })

theorem summarizes_run : Summarizes script config interval shutdown phase scheduler := by
  have priority (level : LogLevel) : (config.atLevel level).priority = config.priority := rfl
  have made (level : LogLevel) : makeDevice (config.atLevel level) = makeDevice config := rfl
  cases asked : startError? config.priority scheduler with
  | some error =>
      refine .refused ?_ ?_
      · simp only [run, asked]
        exact summaries_start phase config.priority scheduler
      · intro level
        simp only [run, priority, asked]
  | none =>
      let inner := (runDevice script config (makeDevice config).2 interval shutdown
        (start phase config.priority scheduler).2).leaving .deviceReleased
      have silent := summaries_start phase config.priority scheduler
      refine .started (start phase config.priority scheduler).1
        ((makeDevice config).1 ++ inner.stopping.trace) silent ?_ ?_
      · rw [Trace.summaries_append, summaries_stopping, summaries_leaving, summaries_runDevice]
        rfl
      · intro level
        simp only [run, priority, made, asked, runDevice_atLevel, Run.after, List.append_assoc,
          List.cons_append]
        rfl

end Bootstrap

end Transceiver
