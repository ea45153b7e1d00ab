import Transceiver.Lifecycle.Basic
import Transceiver.Lifecycle.Wait
import Transceiver.Pipeline.Stages

/-!
The bootstrap: a validated configuration in, a running pipeline, and an orderly end. The stages run
strictly in order and each scope owns one component, so that components are released core first,
then interface, then device, whichever stage stops the run.
-/

namespace Transceiver.Bootstrap

open Lifecycle Pipeline

inductive Shutdown
  | beforeStart
  | requestedAt (milliseconds : Nat)
  | signalledAt (milliseconds : Nat) (signal : Signal)
  deriving DecidableEq, Repr

def Shutdown.waitTime (shutdown : Shutdown) (interval : Nat) : Nat :=
  match shutdown with
  | beforeStart => 0
  | requestedAt time => Lifecycle.waitTime interval time
  | signalledAt time _ => Lifecycle.waitTime interval time

inductive Result
  | ok
  | failed (error : BootstrapError)
  /-- The process stopped where a table could not exist. -/
  | aborted
  deriving DecidableEq, Repr

def Result.exitCode? : Result → Option Nat
  | ok => some 0
  | failed _ => some 1
  | aborted => none

structure Run where
  result : Result
  phase : Phase
  elapsed : Nat
  trace : Trace
  deriving DecidableEq, Repr

def Run.stopped (result : Result) (phase : Phase) (trace : Trace) : Run :=
  ⟨result, phase, 0, trace⟩

/-- Leaves a scope that owns a component: the shutdown is announced, then the component is
released. An aborted process only releases. -/
def Run.leaving (inner : Run) (released : Event) : Run :=
  match inner.result with
  | .aborted => { inner with trace := inner.trace ++ [.event released] }
  | _ =>
      let (notes, phase) := beginShutdown inner.phase
      { inner with phase, trace := inner.trace ++ notes ++ [.event released] }

def Run.after (trace : Trace) (run : Run) : Run :=
  { run with trace := trace ++ run.trace }

def serveCore (core : Core) (interval : Nat) (shutdown : Shutdown) (phase : Phase) : Run :=
  let (entered, phase) := enterRunning phase core.params.channels
  let waiting : Run :=
    ⟨.ok, phase, shutdown.waitTime interval, entered ++ [.logged .shutdownReceived]⟩
  waiting.leaving (.coreReleased core.attachedCount)

def runInterface (script : Script) (config : Config) (interface : Interface) (interval : Nat)
    (shutdown : Shutdown) (phase : Phase) : Run :=
  let assembled := assemble script config interface
  match assembled.outcome with
  | .done core => (serveCore core interval shutdown phase).after assembled.trace
  | .failed error => .stopped (.failed error) phase assembled.trace
  | .overflow => .stopped .aborted phase assembled.trace

def runDevice (script : Script) (config : Config) (device : Device) (interval : Nat)
    (shutdown : Shutdown) (phase : Phase) : Run :=
  let negotiated := negotiate script config device
  match negotiated.outcome with
  | .failed error => .stopped (.failed error) phase negotiated.trace
  | .overflow => .stopped .aborted phase negotiated.trace
  | .done code =>
      let built := buildInterface script config code 0
      match built.outcome with
      | .failed error => .stopped (.failed error) phase (negotiated.trace ++ built.trace)
      | .overflow => .stopped .aborted phase (negotiated.trace ++ built.trace)
      | .done interface =>
          ((runInterface script config interface interval shutdown phase).leaving
            .interfaceReleased).after (negotiated.trace ++ built.trace)

def Run.stopping (inner : Run) : Run :=
  match inner.result with
  | .aborted => inner
  | _ =>
      let (notes, phase) := stop inner.phase
      { inner with phase, trace := inner.trace ++ notes }

/-- Brings the pipeline up, serves until the shutdown, and takes it down. The report on the vector
extensions of the processor, which is logged ahead of the settings, is left out. -/
def run (script : Script) (config : Config) (interval : Nat) (shutdown : Shutdown)
    (phase : Phase) (scheduler : Scheduler := Scheduler.privileged) : Run :=
  let (started, phase) := start phase config.priority scheduler
  match startError? config.priority scheduler with
  | some error => .stopped (.failed error) phase started
  | none =>
      let (made, device) := makeDevice config
      let inner := (runDevice script config device interval shutdown phase).leaving .deviceReleased
      inner.stopping.after (started ++ .logged (.settings config) :: made)

end Transceiver.Bootstrap
