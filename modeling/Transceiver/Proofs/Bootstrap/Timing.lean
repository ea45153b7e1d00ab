import Transceiver.Proofs.Bootstrap.Paths
import Transceiver.Proofs.Lifecycle.Wait

/-!
The time of a run. The shutdown is awaited at one place, behind the assembly, and whatever a wait
finds there it leaves one entry. So the time of the shutdown decides how long a served run lasts,
and nothing else of any run: it lasts until the first look at the flag that finds the shutdown.
-/

namespace Transceiver.Bootstrap

open Lifecycle Pipeline

def Run.lasting (run : Run) (time : Nat) : Run :=
  { run with elapsed := if run.result = .ok then time else 0 }

namespace Run

theorem leaving_lasting (run : Run) (released : Event) (time : Nat) :
    (run.lasting time).leaving released = (run.leaving released).lasting time := by
  obtain ⟨result, phase, elapsed, trace⟩ := run
  cases result with
  | ok | failed error | aborted => rfl

theorem stopping_lasting (run : Run) (time : Nat) :
    (run.lasting time).stopping = run.stopping.lasting time := by
  obtain ⟨result, phase, elapsed, trace⟩ := run
  cases result with
  | ok | failed error | aborted => rfl

theorem after_lasting (run : Run) (notes : Trace) (time : Nat) :
    (run.lasting time).after notes = (run.after notes).lasting time := rfl

end Run

section

variable (script : Script) (config : Config) (phase : Phase) (interval other : Nat)
  (shutdown another : Shutdown) (scheduler : Scheduler)

theorem serveCore_lasting (core : Core) :
    serveCore core interval shutdown phase =
      (serveCore core other another phase).lasting (shutdown.waitTime interval) := by
  unfold serveCore
  rw [← Run.leaving_lasting]
  rfl

theorem runInterface_lasting (interface : Interface) :
    runInterface script config interface interval shutdown phase =
      (runInterface script config interface other another phase).lasting
        (shutdown.waitTime interval) := by
  unfold runInterface
  cases assembled : assemble script config interface with
  | mk notes outcome =>
      cases outcome with
      | done core =>
          simp only
          rw [serveCore_lasting phase interval other shutdown another core, Run.after_lasting]
      | failed error => rfl
      | overflow => rfl

theorem runDevice_lasting (device : Device) :
    runDevice script config device interval shutdown phase =
      (runDevice script config device other another phase).lasting
        (shutdown.waitTime interval) := by
  unfold runDevice
  cases negotiated : negotiate script config device with
  | mk opened outcome =>
      cases outcome with
      | failed error => rfl
      | overflow => rfl
      | done code =>
          cases built : buildInterface script config code 0 with
          | mk notes outcome =>
              cases outcome with
              | failed error => simp only [built]; rfl
              | overflow => simp only [built]; rfl
              | done interface =>
                  simp only [built]
                  rw [runInterface_lasting script config phase interval other shutdown another,
                    Run.leaving_lasting, Run.after_lasting]

theorem run_lasting :
    run script config interval shutdown phase scheduler =
      (run script config other another phase scheduler).lasting (shutdown.waitTime interval) := by
  unfold run
  cases start : startError? config.priority scheduler with
  | some error => rfl
  | none =>
      simp only
      rw [runDevice_lasting script config _ interval other shutdown another,
        Run.leaving_lasting, Run.stopping_lasting, Run.after_lasting]

structure AlikeButTime (first second : Run) : Prop where
  result : first.result = second.result
  exitCode : first.result.exitCode? = second.result.exitCode?
  phase : first.phase = second.phase
  trace : first.trace = second.trace

/-- Two runs of one configuration under one script leave the same behind, whenever the shutdown of
either comes and however often either looks for it; a served run takes the time of its wait, and
any other run none. -/
theorem runs_alike_but_time :
    AlikeButTime (run script config interval shutdown phase scheduler)
        (run script config other another phase scheduler) ∧
      (run script config interval shutdown phase scheduler).elapsed =
        if (run script config interval shutdown phase scheduler).result = .ok then
          shutdown.waitTime interval
        else 0 := by
  rw [run_lasting script config phase interval other shutdown another scheduler]
  exact ⟨⟨rfl, rfl, rfl, rfl⟩, rfl⟩

end

/-- A device of an unknown code fails a run whose shutdown came before the start just as one whose
shutdown never had its turn, and neither waits. -/
theorem runs_alike_but_time_of_unknown_code :
    let early := run { capability := some 7 } (Config.shipped 2) 1000 .beforeStart .starting
      Scheduler.privileged
    let late := run { capability := some 7 } (Config.shipped 2) 30 (.signalledAt 90 .interrupt)
      .starting Scheduler.privileged
    early.result = .failed (.unsupportedInterface 7) ∧
      late.result = .failed (.unsupportedInterface 7) ∧ AlikeButTime early late ∧
      early.elapsed = 0 ∧ late.elapsed = 0 := by
  intro early late
  obtain ⟨alike, short⟩ := runs_alike_but_time { capability := some 7 } (Config.shipped 2)
    .starting 1000 30 .beforeStart (.signalledAt 90 .interrupt) Scheduler.privileged
  obtain ⟨_, long⟩ := runs_alike_but_time { capability := some 7 } (Config.shipped 2)
    .starting 30 1000 (.signalledAt 90 .interrupt) .beforeStart Scheduler.privileged
  have failed : early.result = .failed (.unsupportedInterface 7) := by decide
  have failedToo : late.result = .failed (.unsupportedInterface 7) := by decide
  refine ⟨failed, failedToo, alike, ?_, ?_⟩
  · rw [failed] at short
    exact short
  · rw [failedToo] at long
    exact long

def Shutdown.moment? : Shutdown → Option Nat
  | beforeStart => none
  | requestedAt time => some time
  | signalledAt time _ => some time

theorem lasts_waitTime {interval : Nat} (positive : 1 ≤ interval) (shutdown : Shutdown) :
    Lasts (min interval longestSleep) shutdown.moment? (shutdown.waitTime interval) := by
  cases shutdown with
  | beforeStart => rfl
  | requestedAt time => exact firstLook_waitTime positive time
  | signalledAt time signal => exact firstLook_waitTime positive time

theorem elapsed_of_ok {script : Script} {config : Config} {interval : Nat} {shutdown : Shutdown}
    {phase : Phase} {scheduler : Scheduler}
    (ok : (run script config interval shutdown phase scheduler).result = .ok) :
    (run script config interval shutdown phase scheduler).elapsed = shutdown.waitTime interval := by
  have lasting := congrArg Run.elapsed
    (run_lasting script config phase interval interval shutdown shutdown scheduler)
  rw [lasting, Run.lasting, if_pos ok]

/-- A wait takes no time if the flag is set, and else ends at the first look that finds it set; the
looks are an interval apart, or the longest sleep if that is shorter. It changes nothing but its own
flag, and a served run lasts as long as its wait. -/
theorem waits_until_first_look {interval : Nat} (positive : 1 ≤ interval) :
    (∀ requested, FirstLook (min interval longestSleep) requested (waitTime interval requested)) ∧
      (∀ (steps : List Lifecycle.Step) (lifecycle : Nat) (watcher : Watcher)
          (requested : Option Nat),
        let board := ({} : Switchboard).after steps
        board.watchers[lifecycle]? = some watcher → watcher.interval = interval →
          board.isSet watcher.cell = true ∨ requested.isSome = true →
            Awaited board lifecycle watcher requested (board.step (.wait lifecycle requested))) ∧
      ∀ script config shutdown phase scheduler,
        (run script config interval shutdown phase scheduler).result = .ok →
          Lasts (min interval longestSleep) shutdown.moment?
            (run script config interval shutdown phase scheduler).elapsed := by
  refine ⟨firstLook_waitTime positive, ?_, ?_⟩
  · intro steps lifecycle watcher requested board watched rfl comes
    exact awaited_wait (Switchboard.recorded_after steps).sound watched positive comes
  · intro script config shutdown phase scheduler ok
    rw [elapsed_of_ok ok]
    exact lasts_waitTime positive shutdown

theorem waits_until_third_look :
    let board : Switchboard := ({} : Switchboard).after
      [.newFlag, .newLifecycle 1 30, .start 1 none, .enterRunning 1 2]
    let watcher : Watcher := { phase := .running, cell := 1, interval := 30 }
    let served := run {} (Config.shipped 2) 30 (.signalledAt 90 .terminate) .starting
      Scheduler.privileged
    1 ≤ 30 ∧ board.watchers[1]? = some watcher ∧ FirstLook 30 70 (waitTime 30 70) ∧
      Awaited board 1 watcher (some 70) (board.step (.wait 1 (some 70))) ∧
      served.result = .ok ∧ FirstLook 30 90 served.elapsed := by
  intro board watcher served
  obtain ⟨looked, awaited, lasted⟩ := waits_until_first_look (show 1 ≤ 30 by decide)
  refine ⟨by decide, rfl, looked 70, ?_, rfl, ?_⟩
  · exact awaited _ 1 watcher (some 70) rfl rfl (.inr rfl)
  · exact lasted _ _ (.signalledAt 90 .terminate) _ _ rfl

/-- A millisecond above the longest sleep the looks come earlier than the interval says. -/
theorem looks_before_interval :
    let board : Switchboard := ({} : Switchboard).after [.newLifecycle 0 946080000001]
    board.watchers[1]? = some { cell := 0, interval := 946080000001 } ∧
      (board.step (.wait 1 (some 5))).answer = .elapsed 946080000000 ∧
      ¬IsLeast {look | 0 < look ∧ 946080000001 ∣ look ∧ 5 ≤ look} 946080000000 := by
  intro board
  have early : waitTime 946080000001 5 = 946080000000 := by
    rw [waitTime, waitFrom]
    simp [pollInterval, longestSleep]
  refine ⟨rfl, congrArg Answer.elapsed early, ?_⟩
  rintro ⟨⟨_, divides, _⟩, _⟩
  exact absurd (Nat.le_of_dvd (by decide) divides) (by decide)

end Transceiver.Bootstrap
