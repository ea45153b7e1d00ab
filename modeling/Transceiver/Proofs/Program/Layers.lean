import Transceiver.Program
import Transceiver.Proofs.Bootstrap.Tables
import Transceiver.Proofs.Bootstrap.Timing
import Transceiver.Proofs.Bootstrap.Verdicts

/-!
The layers between a command line and the hardware: the parser, the rules for options, the reader of
device arguments, the scheduler, and the run. The first layer that refuses decides the exit code,
alone, and the device is made when none in front of the run does.
-/

namespace Transceiver.Bootstrap

open Lifecycle

theorem Result.exitCode?_eq_zero_iff {result : Result} :
    result.exitCode? = some 0 ↔ result = .ok := by
  cases result with
  | ok | failed error | aborted => simp [exitCode?]

theorem Result.exitCode?_eq_one_iff {result : Result} :
    result.exitCode? = some 1 ↔ ∃ error, result = .failed error := by
  cases result with
  | ok | failed error | aborted => simp [exitCode?]

variable (script : Script) (config : Config) (interval : Nat) (shutdown : Shutdown) (phase : Phase)
  (scheduler : Scheduler)

/-- A run makes the device first, or has no events at all. -/
theorem events_run :
    (startError? config.priority scheduler = none ∧
        ∃ rest, (run script config interval shutdown phase scheduler).trace.events =
          .deviceMade config.deviceParams :: rest) ∨
      startError? config.priority scheduler ≠ none ∧
        (run script config interval shutdown phase scheduler).trace.events = [] := by
  cases asked : startError? config.priority scheduler with
  | none => exact .inl ⟨rfl, _, (run_started interval shutdown phase asked ⟨rfl, rfl⟩).events⟩
  | some error => exact .inr ⟨by simp, (run_refused interval shutdown phase asked).events⟩

/-- A run that asks for a priority does so ahead of everything else. -/
theorem head?_run {priority : Int} (asks : config.priority = some priority) :
    (run script config interval shutdown phase scheduler).trace.head? =
      some (.logged (.settingPriority priority)) := by
  cases asked : startError? config.priority scheduler with
  | none =>
      simp only [run, asked, start_accepted phase asked]
      rw [asks]
      rfl
  | some error =>
      obtain ⟨level, cause, wants, _, started⟩ := start_refused phase asked
      cases asks.symm.trans wants
      simp only [run, asked, started]
      rfl

end Transceiver.Bootstrap

namespace Transceiver.Program

open Bootstrap CommandLine Lifecycle

variable {arguments : List String} {config other : Config} {scheduler : Scheduler}

def Asks (arguments : List String) (config : Config) : Prop :=
  ∃ choices, parse arguments = .ok choices ∧ (optionsOf choices).validate = .ok config

inductive Declined (arguments : List String) : Prop
  | stopped (stop : Stop) (parsed : parse arguments = .error stop)
  | rejected (choices : List Choice) (error : ConfigError) (parsed : parse arguments = .ok choices)
      (violates : (optionsOf choices).validate = .error error)

theorem Asks.unique (first : Asks arguments config) (second : Asks arguments other) :
    config = other := by
  obtain ⟨choices, parsed, valid⟩ := first
  obtain ⟨others, again, accepted⟩ := second
  cases parsed.symm.trans again
  cases valid.symm.trans accepted
  rfl

theorem Declined.not_asks (declined : Declined arguments) : ¬Asks arguments config := by
  rintro ⟨choices, parsed, valid⟩
  cases declined with
  | stopped stop stops => cases parsed.symm.trans stops
  | rejected others error again violates =>
      cases parsed.symm.trans again
      cases valid.symm.trans violates

inductive Layer (arguments : List String) : Prop
  | declined (declined : Declined arguments)
  | faulty (config : Config) (fault : Fault) (asks : Asks arguments config)
      (faulty : Script.ofArgs config.deviceArgs = .error fault)
  | served (config : Config) (script : Script) (asks : Asks arguments config)
      (read : Script.ofArgs config.deviceArgs = .ok script)

theorem layer (arguments : List String) : Layer arguments := by
  cases parsed : parse arguments with
  | error stop => exact .declined (.stopped stop parsed)
  | ok choices =>
      cases valid : (optionsOf choices).validate with
      | error error => exact .declined (.rejected choices error parsed valid)
      | ok config =>
          have asks : Asks arguments config := ⟨choices, parsed, valid⟩
          cases read : Script.ofArgs config.deviceArgs with
          | error fault => exact .faulty config fault asks read
          | ok script => exact .served config script asks read

/-! What is executed, by the layer that decides. -/

section

variable (shutdown : Shutdown) (scheduler : Scheduler)

theorem execute_declined (declined : Declined arguments) :
    ∃ output errors, ∀ shutdown scheduler,
      execute arguments shutdown scheduler = { exitCode? := some 0, output, errors } := by
  refine ⟨(execute arguments .beforeStart Scheduler.privileged).output,
    (execute arguments .beforeStart Scheduler.privileged).errors, ?_⟩
  intro shutdown scheduler
  cases declined with
  | stopped stop parsed =>
      cases stop with
      | query asked | error misuse => simp only [execute, Request.ofArguments, parsed]
  | rejected choices error parsed violates =>
      simp only [execute, Request.ofArguments, parsed, violates]

theorem ofArguments_of_asks (asks : Asks arguments config) :
    Request.ofArguments arguments = .serve config := by
  obtain ⟨choices, parsed, valid⟩ := asks
  simp only [Request.ofArguments, parsed, valid]

theorem execute_faulty {fault : Fault} (asks : Asks arguments config)
    (faulty : Script.ofArgs config.deviceArgs = .error fault) :
    execute arguments shutdown scheduler =
      { exitCode? := some 1
        level := config.logLevel
        trace := [.logged (.badDeviceArgs (badArgsText fault))] } := by
  have served : serve config shutdown scheduler = .error fault := by
    rw [serve, faulty]
    rfl
  simp only [execute, ofArguments_of_asks asks, served]

theorem execute_served {script : Script} (asks : Asks arguments config)
    (read : Script.ofArgs config.deviceArgs = .ok script) :
    execute arguments shutdown scheduler =
      let run := run script config defaultPollInterval shutdown .starting scheduler
      { exitCode? := run.result.exitCode?, level := config.logLevel, trace := run.trace } := by
  have served : serve config shutdown scheduler =
      .ok (run script config defaultPollInterval shutdown .starting scheduler) := by
    rw [serve, read]
    rfl
  simp only [execute, ofArguments_of_asks asks, served]

end

def Admitted (arguments : List String) (scheduler : Scheduler) : Prop :=
  ∃ config script, Asks arguments config ∧ Script.ofArgs config.deviceArgs = .ok script ∧
    startError? config.priority scheduler = none

def Fails (arguments : List String) (shutdown : Shutdown) (scheduler : Scheduler) : Prop :=
  ∃ config, Asks arguments config ∧
    ((∃ fault, Script.ofArgs config.deviceArgs = .error fault) ∨
      ∃ script error, Script.ofArgs config.deviceArgs = .ok script ∧
        (run script config defaultPollInterval shutdown .starting scheduler).result = .failed error)

namespace Asks

variable {script : Script} (asks : Asks arguments config)
  (read : Script.ofArgs config.deviceArgs = .ok script)

include asks

theorem not_admitted {fault : Fault} (faulty : Script.ofArgs config.deviceArgs = .error fault) :
    ¬Admitted arguments scheduler := by
  rintro ⟨other, script, again, read, accepted⟩
  cases asks.unique again
  cases faulty.symm.trans read

include read

theorem admitted_iff :
    Admitted arguments scheduler ↔ startError? config.priority scheduler = none := by
  constructor
  · rintro ⟨other, another, again, reads, accepted⟩
    cases asks.unique again
    exact accepted
  · intro accepted
    exact ⟨config, script, asks, read, accepted⟩

theorem fails_iff (shutdown : Shutdown) (scheduler : Scheduler) :
    Fails arguments shutdown scheduler ↔
      ∃ error, (run script config defaultPollInterval shutdown .starting scheduler).result =
        .failed error := by
  constructor
  · rintro ⟨other, again, ⟨fault, faulty⟩ | ⟨another, error, reads, ends⟩⟩
    · cases asks.unique again
      cases read.symm.trans faulty
    · cases asks.unique again
      cases read.symm.trans reads
      exact ⟨error, ends⟩
  · rintro ⟨error, ends⟩
    exact ⟨config, asks, .inr ⟨script, error, read, ends⟩⟩

end Asks

theorem Declined.not_admitted (declined : Declined arguments) : ¬Admitted arguments scheduler := by
  rintro ⟨config, script, asks, _⟩
  exact declined.not_asks asks

theorem Declined.not_fails (declined : Declined arguments) (shutdown : Shutdown)
    (scheduler : Scheduler) : ¬Fails arguments shutdown scheduler := by
  rintro ⟨config, asks, _⟩
  exact declined.not_asks asks

/-! What is left behind, whichever layer decides. -/

section

variable (arguments : List String) (shutdown : Shutdown) (scheduler : Scheduler)

/-- Admitted words make the device before any other event; all others come to no event. -/
theorem events_execute :
    (Admitted arguments scheduler ∧ ∃ params rest,
        (execute arguments shutdown scheduler).trace.events = .deviceMade params :: rest) ∨
      ¬Admitted arguments scheduler ∧ (execute arguments shutdown scheduler).trace.events = [] := by
  cases layer arguments with
  | declined declined =>
      obtain ⟨output, errors, executed⟩ := execute_declined declined
      rw [executed shutdown scheduler]
      exact .inr ⟨declined.not_admitted, rfl⟩
  | faulty config fault asks faulty =>
      rw [execute_faulty shutdown scheduler asks faulty]
      exact .inr ⟨asks.not_admitted faulty, rfl⟩
  | served config script asks read =>
      rw [execute_served shutdown scheduler asks read, asks.admitted_iff read]
      rcases events_run script config defaultPollInterval shutdown .starting scheduler with
        ⟨accepted, rest, made⟩ | ⟨refused, none⟩
      · exact .inl ⟨accepted, _, rest, made⟩
      · exact .inr ⟨refused, none⟩

theorem made_execute_iff :
    (∃ params, .deviceMade params ∈ (execute arguments shutdown scheduler).trace.events) ↔
      Admitted arguments scheduler := by
  rcases events_execute arguments shutdown scheduler with
    ⟨admitted, params, rest, made⟩ | ⟨refused, none⟩
  · exact ⟨fun _ => admitted, fun _ => ⟨params, by simp [made]⟩⟩
  · simp [none, refused]

theorem recorded_execute_iff :
    (execute arguments shutdown scheduler).trace.events ≠ [] ↔ Admitted arguments scheduler := by
  rcases events_execute arguments shutdown scheduler with
    ⟨admitted, params, rest, made⟩ | ⟨refused, none⟩
  · simp [made, admitted]
  · simp [none, refused]

theorem failed_execute_iff :
    (execute arguments shutdown scheduler).exitCode? = some 1 ↔
      Fails arguments shutdown scheduler := by
  cases layer arguments with
  | declined declined =>
      obtain ⟨output, errors, executed⟩ := execute_declined declined
      rw [executed shutdown scheduler]
      simp [declined.not_fails shutdown scheduler]
  | faulty config fault asks faulty =>
      rw [execute_faulty shutdown scheduler asks faulty]
      exact iff_of_true rfl ⟨config, asks, .inl ⟨fault, faulty⟩⟩
  | served config script asks read =>
      rw [execute_served shutdown scheduler asks read, asks.fails_iff read shutdown scheduler]
      exact Result.exitCode?_eq_one_iff

theorem succeeded_execute_iff :
    (execute arguments shutdown scheduler).exitCode? = some 0 ↔
      Declined arguments ∨
        .logged .shutdownReceived ∈ (execute arguments shutdown scheduler).trace := by
  cases layer arguments with
  | declined declined =>
      obtain ⟨output, errors, executed⟩ := execute_declined declined
      rw [executed shutdown scheduler]
      simp [declined]
  | faulty config fault asks faulty =>
      have accepted : ¬Declined arguments := fun declined => declined.not_asks asks
      rw [execute_faulty shutdown scheduler asks faulty]
      simp [accepted]
  | served config script asks read =>
      have accepted : ¬Declined arguments := fun declined => declined.not_asks asks
      rw [execute_served shutdown scheduler asks read]
      simp only [accepted, false_or, shutdownReceived_mem_run]
      exact Result.exitCode?_eq_zero_iff

/-- Where the tables of the configuration fit, the program ends with an exit code. -/
theorem ends_execute
    (fits : ∀ config, Asks arguments config → Pipeline.tableFits config.channels = true) :
    (execute arguments shutdown scheduler).exitCode? = some 0 ∨
      (execute arguments shutdown scheduler).exitCode? = some 1 := by
  cases layer arguments with
  | declined declined =>
      obtain ⟨output, errors, executed⟩ := execute_declined declined
      rw [executed shutdown scheduler]
      exact .inl rfl
  | faulty config fault asks faulty =>
      rw [execute_faulty shutdown scheduler asks faulty]
      exact .inr rfl
  | served config script asks read =>
      rw [execute_served shutdown scheduler asks read]
      have alive := not_aborted script config defaultPollInterval shutdown .starting scheduler
        fun _ => fits config asks
      exact ((orderly_iff_not_aborted _ _ _ _ _ _).mpr alive).exitCode

/-- What is left behind is the same whenever the shutdown comes. -/
theorem execute_another (another : Shutdown) :
    execute arguments another scheduler = execute arguments shutdown scheduler := by
  cases layer arguments with
  | declined declined =>
      obtain ⟨output, errors, executed⟩ := execute_declined declined
      rw [executed another scheduler, executed shutdown scheduler]
  | faulty config fault asks faulty =>
      rw [execute_faulty another scheduler asks faulty,
        execute_faulty shutdown scheduler asks faulty]
  | served config script asks read =>
      rw [execute_served another scheduler asks read, execute_served shutdown scheduler asks read,
        run_lasting script config .starting defaultPollInterval defaultPollInterval another
          shutdown scheduler]
      rfl

end

structure InLayers (arguments : List String) (shutdown : Shutdown) (scheduler : Scheduler)
    (process : Process) : Prop where
  made : (∃ params, .deviceMade params ∈ process.trace.events) ↔ Admitted arguments scheduler
  recorded : process.trace.events ≠ [] ↔ Admitted arguments scheduler
  failed : process.exitCode? = some 1 ↔ Fails arguments shutdown scheduler
  succeeded : process.exitCode? = some 0 ↔
    Declined arguments ∨ .logged .shutdownReceived ∈ process.trace
  whenever : ∀ another, execute arguments another scheduler = process
  ended : (∀ config, Asks arguments config → Pipeline.tableFits config.channels = true) →
    process.exitCode? = some 0 ∨ process.exitCode? = some 1
  faultFirst : ∀ config fault, Asks arguments config →
    Script.ofArgs config.deviceArgs = .error fault →
    process.trace = [.logged (.badDeviceArgs (badArgsText fault))]
  priorityNext : ∀ config script priority, Asks arguments config →
    Script.ofArgs config.deviceArgs = .ok script → config.priority = some priority →
    process.trace.head? = some (.logged (.settingPriority priority))

/-- Every command line comes through the same layers: the device arguments are read before a
priority is asked for, and the device is made behind both, whenever the shutdown comes. -/
theorem execute_in_layers (arguments : List String) (shutdown : Shutdown)
    (scheduler : Scheduler) :
    InLayers arguments shutdown scheduler (execute arguments shutdown scheduler) where
  made := made_execute_iff arguments shutdown scheduler
  recorded := recorded_execute_iff arguments shutdown scheduler
  failed := failed_execute_iff arguments shutdown scheduler
  succeeded := succeeded_execute_iff arguments shutdown scheduler
  whenever := execute_another arguments shutdown scheduler
  ended := ends_execute arguments shutdown scheduler
  faultFirst := by
    intro config fault asks faulty
    rw [execute_faulty shutdown scheduler asks faulty]
  priorityNext := by
    intro config script priority asks read wants
    rw [execute_served shutdown scheduler asks read]
    exact head?_run script config defaultPollInterval shutdown .starting scheduler wants

-- The priority would be refused too, but it is not asked for.
example : (execute ["-a", "capability", "-t", "0"] .beforeStart Scheduler.privileged).trace =
    [.logged (.badDeviceArgs ("invalid mock device arguments: invalid parameter: " ++
      "device argument capability needs a value"))] := by decide +kernel

end Transceiver.Program
