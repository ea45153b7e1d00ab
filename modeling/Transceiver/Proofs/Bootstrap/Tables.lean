import Transceiver.Proofs.Bootstrap.Paths

/-!
The tables of a run. The interface and the core keep a slot for each channel, and only multi-ARFCN
operation bounds the channels. A run that comes to a table larger than the address space is aborted
in the middle of its scopes; every other run comes to an end of its own.
-/

namespace Transceiver

theorem Pipeline.tableFits_iff {slots : Nat} : tableFits slots = true ↔ slots < 2 ^ 60 := by
  rw [tableFits, decide_eq_true_eq, slotBytes, maxTableBytes]
  omega

theorem Options.Accepted.tableFits_iff {options : Options} {config : Config}
    (accepted : options.Accepted config) :
    Pipeline.tableFits config.channels = true ↔
      ¬(config.multiArfcn = false ∧ 2 ^ 60 ≤ config.channels) := by
  rw [Pipeline.tableFits_iff]
  cases multiArfcn : config.multiArfcn with
  | true =>
      have bound : config.channels ≤ 5 := (accepted.multiArfcn_limits multiArfcn).1
      simp only [Bool.true_eq_false, false_and, not_false_eq_true, iff_true]
      omega
  | false => simp

namespace Bootstrap

open Lifecycle Pipeline

structure ReachesTables (script : Script) (config : Config) (scheduler : Scheduler) : Prop where
  accepted : startError? config.priority scheduler = none
  opens : script.failOpen = false
  known : Exit.reportedCode script config ≤ 3
  works : script.failInterface = false

/-- The events of a run that is aborted at a table: a resampling interface has one slot only, so
that the table of the core is the first that is too large. -/
def Exit.overflowing (config : Config) (code : Nat) : List Event :=
  (if code = 1 ∨ code = 2 then assembling config code else building config code) ++
    [.interfaceReleased, .deviceReleased]

section

variable (script : Script) (config : Config) (interval : Nat) (shutdown : Shutdown) (phase : Phase)
  (scheduler : Scheduler)

theorem ends_overflowing (reaches : ReachesTables script config scheduler)
    (large : tableFits config.channels = false) :
    Ends (run script config interval shutdown phase scheduler) .aborted
      (Exit.overflowing config (Exit.reportedCode script config)) := by
  obtain ⟨accepted, opens, known, works⟩ := reaches
  have negotiated := negotiate_reportedCode script config opens
  generalize Exit.reportedCode script config = code at known negotiated
  have topology := Exit.topologyOf_eq known
  have width := Exit.width_topologyOf code config.channels
  by_cases narrow : code = 1 ∨ code = 2
  · have one : (Exit.topologyOf code).width config.channels = 1 := by
      rw [width, Exit.widthOf, if_pos narrow]
    have built := buildInterface_ready script config 0 topology works (by rw [one]; rfl)
    have assembled := assemble_overflow script config (Exit.interface config code) large
    have inner := runInterface_overflow interval shutdown phase assembled
    have whole := run_started interval shutdown phase accepted
      (runDevice_built interval shutdown phase negotiated built inner)
    rw [Exit.kind_topologyOf, width] at whole
    simpa [Exit.overflowing, narrow, Exit.assembling, Exit.building, Exit.opening] using whole
  · have every : (Exit.topologyOf code).width config.channels = config.channels := by
      rw [width, Exit.widthOf, if_neg narrow]
    have built := buildInterface_overflow script config 0 topology works (by rw [every, large])
    have whole := run_started interval shutdown phase accepted
      (runDevice_overflow interval shutdown phase negotiated built)
    rw [Exit.kind_topologyOf, width] at whole
    simpa [Exit.overflowing, narrow, Exit.building, Exit.opening] using whole

/-- A run whose tables fit, or that is stopped ahead of them, is not aborted. -/
theorem not_aborted
    (within : ReachesTables script config scheduler → tableFits config.channels = true) :
    (run script config interval shutdown phase scheduler).result ≠ .aborted := by
  cases accepted : startError? config.priority scheduler with
  | some error => simp [(run_refused interval shutdown phase accepted).result]
  | none =>
      cases opens : script.failOpen with
      | true =>
          rw [(ends_openFailed script config interval shutdown phase accepted opens).result]
          exact Exit.result_ne_aborted _
      | false =>
          by_cases known : Exit.reportedCode script config ≤ 3
          · cases works : script.failInterface with
            | true =>
                rw [(ends_interfaceFailed script config interval shutdown phase accepted opens rfl
                  known works).result]
                exact Exit.result_ne_aborted _
            | false =>
                have fits := within ⟨accepted, opens, known, works⟩
                rw [(ends_at_exit script config interval shutdown phase scheduler fits).result]
                exact Exit.result_ne_aborted _
          · rw [(ends_codeUnsupported script config interval shutdown phase accepted opens rfl
              (Nat.lt_of_not_le known)).result]
            exact Exit.result_ne_aborted _

theorem aborted_iff :
    (run script config interval shutdown phase scheduler).result = .aborted ↔
      ReachesTables script config scheduler ∧ tableFits config.channels = false := by
  constructor
  · intro aborted
    have beyond : ¬(ReachesTables script config scheduler → tableFits config.channels = true) :=
      fun within => not_aborted script config interval shutdown phase scheduler within aborted
    simpa only [Classical.not_imp, Bool.not_eq_true] using beyond
  · rintro ⟨reaches, large⟩
    exact (ends_overflowing script config interval shutdown phase scheduler reaches large).result

end

/-- The run comes to an end of its own: it returns a result, with the lifecycle stopped, and the
program has an exit code. -/
structure Orderly (run : Run) : Prop where
  result : run.result = .ok ∨ ∃ error, run.result = .failed error
  phase : run.phase = .stopped
  exitCode : run.result.exitCode? = some 0 ∨ run.result.exitCode? = some 1

theorem orderly_iff_not_aborted (script : Script) (config : Config) (interval : Nat)
    (shutdown : Shutdown) (phase : Phase) (scheduler : Scheduler) :
    Orderly (run script config interval shutdown phase scheduler) ↔
      (run script config interval shutdown phase scheduler).result ≠ .aborted := by
  constructor
  · intro orderly aborted
    simpa [aborted] using orderly.result
  · intro alive
    have stopped := stopped_of_run script config interval shutdown scheduler phase alive
    cases ended : (run script config interval shutdown phase scheduler).result with
    | ok => exact ⟨.inl ended, stopped, .inl (by rw [ended]; rfl)⟩
    | failed error => exact ⟨.inr ⟨error, ended⟩, stopped, .inr (by rw [ended]; rfl)⟩
    | aborted => exact absurd ended alive

/-- A validated configuration's runs all end in order, save where multi-ARFCN operation was not
requested, there are 2 ^ 60 channels or more, and the run comes to make its tables; just such
numbers of channels have tables that do not fit. -/
theorem orderly_iff_tables_fit {options : Options} {config : Config}
    (valid : options.validate = .ok config) (script : Script) (interval : Nat)
    (shutdown : Shutdown) (phase : Phase) (scheduler : Scheduler) :
    (Orderly (run script config interval shutdown phase scheduler) ↔
        ¬(ReachesTables script config scheduler ∧ config.multiArfcn = false ∧
          2 ^ 60 ≤ config.channels)) ∧
      ((∀ topology, tableFits (interfaceFor config topology).channels = true) ∧
          tableFits config.coreParams.channels = true ↔
        ¬(config.multiArfcn = false ∧ 2 ^ 60 ≤ config.channels)) := by
  have fits := (Options.accepted_of_validate valid).tableFits_iff
  constructor
  · rw [orderly_iff_not_aborted, Ne, aborted_iff, ← Bool.not_eq_true, fits, Classical.not_not]
  · rw [← fits]
    constructor
    · intro tables
      exact tables.2
    · intro room
      exact ⟨fun topology => tableFits_width topology room, room⟩

theorem orderly_of_largest_table :
    ({ channels := 2 ^ 60 - 1 } : Options).validate = .ok (Config.shipped (2 ^ 60 - 1)) ∧
      Orderly (run { capability := some 1, failCore := true } (Config.shipped (2 ^ 60 - 1)) 1000
        .beforeStart .starting Scheduler.privileged) := by
  have valid := Options.validate_channels (2 ^ 60 - 1)
  exact ⟨valid, (orderly_iff_tables_fit valid { capability := some 1, failCore := true } 1000
    .beforeStart .starting Scheduler.privileged).1.mpr (by simp [Config.shipped])⟩

/-- The core fails to initialize, but with 2 ^ 60 channels its table aborts the run before it can
say so: nothing is announced, and the lifecycle is left as it was. -/
theorem not_orderly_at_table_of_core :
    ({ channels := 2 ^ 60 } : Options).validate = .ok (Config.shipped (2 ^ 60)) ∧
      tableFits (Config.shipped (2 ^ 60)).coreParams.channels = false ∧
      (run { capability := some 1, failCore := true } (Config.shipped (2 ^ 60)) 1000 .beforeStart
        .starting Scheduler.privileged).result = .aborted ∧
      (run { capability := some 1, failCore := true } (Config.shipped (2 ^ 60)) 1000 .beforeStart
        .starting Scheduler.privileged).phase = .starting ∧
      ¬Orderly (run { capability := some 1, failCore := true } (Config.shipped (2 ^ 60)) 1000
        .beforeStart .starting Scheduler.privileged) := by
  have aborted : (run { capability := some 1, failCore := true } (Config.shipped (2 ^ 60)) 1000
      .beforeStart .starting Scheduler.privileged).result = .aborted :=
    (ends_overflowing _ _ _ _ _ _ ⟨rfl, rfl, by decide, rfl⟩ rfl).result
  refine ⟨Options.validate_channels (2 ^ 60), rfl, aborted, rfl, ?_⟩
  rw [orderly_iff_not_aborted]
  exact fun alive => alive aborted

end Bootstrap

end Transceiver
