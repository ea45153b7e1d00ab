import Transceiver.Proofs.Bootstrap.Scopes
import Transceiver.Proofs.Config.Validate

/-!
The limits of the channelizer: five channels, at four samples per symbol both ways. A configuration
that asks for multi-ARFCN operation keeps them; a device that reports the channelizer's code without
having been asked for it gets whatever the configuration holds.
-/

namespace Transceiver

namespace Pipeline

theorem interfaceBuilt_mem_buildInterface {script : Script} {config : Config} {code table : Nat}
    {kind : InterfaceKind} {channels : Nat} :
    .interfaceBuilt kind channels ∈ (buildInterface script config code table).trace.events ↔
      ∃ topology, Topology.ofCode? code = some topology ∧
        kind = topology.kind ∧ channels = topology.width config.channels := by
  cases known : Topology.ofCode? code with
  | none => simp [buildInterface, known]
  | some topology =>
      by_cases fails : script.failInterface = true
      · simp [buildInterface, known, Interface.setUp, fails, interfaceFor]
      · by_cases fits : tableFits (topology.width config.channels) = true
        · simp [buildInterface, known, Interface.setUp, fails, interfaceFor, fits]
        · simp [buildInterface, known, Interface.setUp, fails, interfaceFor, fits]

end Pipeline

def Config.fitsChannelizer (config : Config) : Prop :=
  config.channels ≤ Options.maxMultiArfcnChannels ∧ config.txRate = .four ∧ config.rxRate = .four

def Config.keepsChannelizer (config : Config) (events : List Event) : Prop :=
  ∀ channels, .interfaceBuilt .multiCarrier channels ∈ events →
    channels ≤ Options.maxMultiArfcnChannels ∧
      (Pipeline.interfaceFor config .multiArfcn).txRate = .four ∧
      (Pipeline.interfaceFor config .multiArfcn).rxRate = .four

theorem Pipeline.keepsChannelizer_buildInterface_iff {script : Script} {config : Config}
    {code table : Nat} :
    config.keepsChannelizer (buildInterface script config code table).trace.events ↔
      (code = 3 → config.fitsChannelizer) := by
  constructor
  · intro keeps reported
    subst code
    exact keeps config.channels (interfaceBuilt_mem_buildInterface.mpr ⟨.multiArfcn, rfl, rfl, rfl⟩)
  · intro fits channels built
    obtain ⟨topology, known, kind, width⟩ := interfaceBuilt_mem_buildInterface.mp built
    cases topology with
    | multiArfcn =>
        subst width
        exact fits (Topology.ofCode?_eq_some_iff.mp known).symm
    | normal => cases kind
    | resampled64 => cases kind
    | resampled100 => cases kind

namespace Bootstrap

open Lifecycle Pipeline

section

variable (script : Script) (config : Config) (interval : Nat) (shutdown : Shutdown) (phase : Phase)
  (kind : InterfaceKind) (channels : Nat)

theorem interfaceBuilt_not_mem_runInterface (interface : Interface) :
    .interfaceBuilt kind channels ∉
      (runInterface script config interface interval shutdown phase).trace.events := by
  have outside : Event.interfaceBuilt kind channels ∉
      (assemble script config interface).trace.events := by
    intro member
    have core := assemble_ofCore script config interface _ member
    cases core
  rcases assembled : assemble script config interface with ⟨notes, outcome⟩
  rw [assembled] at outside
  cases outcome with
  | done core =>
      rw [(runInterface_done interval shutdown phase assembled).events]
      simpa using outside
  | failed error =>
      rw [(runInterface_failed interval shutdown phase assembled).events]
      exact outside
  | overflow => simpa [runInterface, assembled, Run.stopped] using outside

theorem interfaceBuilt_mem_runDevice (device : Device) :
    .interfaceBuilt kind channels ∈
        (runDevice script config device interval shutdown phase).trace.events ↔
      script.failOpen = false ∧
        .interfaceBuilt kind channels ∈ (buildInterface script config
          (script.capability.getD device.params.hint.code) 0).trace.events := by
  by_cases fails : script.failOpen = true
  · have negotiated := negotiate_failed script config device fails
    rw [(runDevice_unopened interval shutdown phase negotiated).events]
    simp [fails]
  · have opens : script.failOpen = false := by simpa using fails
    have negotiated := negotiate_done script config device opens
    rcases built : buildInterface script config
      (script.capability.getD device.params.hint.code) 0 with ⟨notes, outcome⟩
    cases outcome with
    | done interface =>
        have inner : Ends (runInterface script config interface interval shutdown phase) _ _ :=
          ⟨rfl, rfl⟩
        have outside := interfaceBuilt_not_mem_runInterface script config interval shutdown phase
          kind channels interface
        rw [(runDevice_built interval shutdown phase negotiated built inner).events]
        simp [opens, outside]
    | failed error =>
        rw [(runDevice_unbuilt interval shutdown phase negotiated built).events]
        simp [opens]
    | overflow => simp [runDevice, negotiated, built, Run.stopped, opens]

theorem interfaceBuilt_mem_run (scheduler : Scheduler) :
    .interfaceBuilt kind channels ∈
        (run script config interval shutdown phase scheduler).trace.events ↔
      startError? config.priority scheduler = none ∧ script.failOpen = false ∧
        .interfaceBuilt kind channels ∈ (buildInterface script config
          (script.capability.getD config.hint.code) 0).trace.events := by
  cases start : startError? config.priority scheduler with
  | some error =>
      rw [(run_refused interval shutdown phase start).events]
      simp
  | none =>
      have inner : Ends
          (runDevice script config ⟨config.deviceParams⟩ interval shutdown phase) _ _ :=
        ⟨rfl, rfl⟩
      have device := interfaceBuilt_mem_runDevice script config interval shutdown phase
        kind channels ⟨config.deviceParams⟩
      rw [(run_started interval shutdown phase start inner).events]
      simpa [Config.deviceParams] using device

end

/-- A validated configuration leaves the limits of the channelizer exactly where the device reports
the channelizer's code without having been asked for it, and the configuration has more than five
channels or a rate other than four. -/
theorem keepsChannelizer_iff {options : Options} {config : Config}
    (valid : options.validate = .ok config) (script : Script) (interval : Nat)
    (shutdown : Shutdown) (phase : Phase) (scheduler : Scheduler) :
    (config.keepsChannelizer (run script config interval shutdown phase scheduler).trace.events ↔
        ¬(startError? config.priority scheduler = none ∧ script.failOpen = false ∧
          script.capability = some 3 ∧ config.multiArfcn = false ∧ ¬config.fitsChannelizer)) ∧
      ∀ code table,
        config.keepsChannelizer (buildInterface script config code table).trace.events ↔
          ¬(code = 3 ∧ config.multiArfcn = false ∧ ¬config.fitsChannelizer) := by
  have requested : config.multiArfcn = true → config.fitsChannelizer :=
    (Options.accepted_of_validate valid).multiArfcn_limits
  have builds : ∀ code table,
      config.keepsChannelizer (buildInterface script config code table).trace.events ↔
        ¬(code = 3 ∧ config.multiArfcn = false ∧ ¬config.fitsChannelizer) := by
    intro code table
    rw [keepsChannelizer_buildInterface_iff]
    cases multiArfcn : config.multiArfcn with
    | true => simp [requested multiArfcn]
    | false => simp
  refine ⟨?_, builds⟩
  have reached : config.keepsChannelizer
        (run script config interval shutdown phase scheduler).trace.events ↔
      (startError? config.priority scheduler = none → script.failOpen = false →
        config.keepsChannelizer (buildInterface script config
          (script.capability.getD config.hint.code) 0).trace.events) := by
    constructor
    · intro keeps accepted opens channels built
      exact keeps channels ((interfaceBuilt_mem_run script config interval shutdown phase
        .multiCarrier channels scheduler).mpr ⟨accepted, opens, built⟩)
    · intro keeps channels built
      obtain ⟨accepted, opens, built⟩ := (interfaceBuilt_mem_run script config interval shutdown
        phase .multiCarrier channels scheduler).mp built
      exact keeps accepted opens channels built
  rw [reached, builds]
  cases multiArfcn : config.multiArfcn with
  | true => simp
  | false =>
      have hint : config.hint.code = 0 := by simp [Config.hint, multiArfcn, Topology.code]
      have reported : script.capability.getD config.hint.code = 3 ↔ script.capability = some 3 := by
        rw [hint]
        cases script.capability with
        | none => simp
        | some code => simp
      rw [reported]
      simp

theorem keepsChannelizer_of_requested_code :
    ({ channels := 5, multiArfcn := true } : Options).validate =
        .ok { Config.shipped 5 with multiArfcn := true, rxRate := .four } ∧
      { Config.shipped 5 with multiArfcn := true, rxRate := .four }.keepsChannelizer
        (run { capability := some 3 }
          { Config.shipped 5 with multiArfcn := true, rxRate := .four } 1000 .beforeStart
          .starting Scheduler.privileged).trace.events := by
  have valid : ({ channels := 5, multiArfcn := true } : Options).validate =
      .ok { Config.shipped 5 with multiArfcn := true, rxRate := .four } := by rfl
  exact ⟨valid,
    (keepsChannelizer_iff valid { capability := some 3 } 1000 .beforeStart .starting
      Scheduler.privileged).1.mpr
      (by simp)⟩

/-- Six channels are accepted without multi-ARFCN operation, and a device that reports the
channelizer's code all the same gets a channelizer for six, receiving at one sample per symbol. -/
theorem keepsChannelizer_fails_at_unrequested_code :
    ({ channels := 6 } : Options).validate = .ok (Config.shipped 6) ∧
      .interfaceBuilt .multiCarrier 6 ∈
        (run { capability := some 3 } (Config.shipped 6) 1000 .beforeStart
          .starting Scheduler.privileged).trace.events ∧
      (interfaceFor (Config.shipped 6) .multiArfcn).rxRate = .one ∧
      ¬(Config.shipped 6).keepsChannelizer
        (run { capability := some 3 } (Config.shipped 6) 1000 .beforeStart
          .starting Scheduler.privileged).trace.events := by
  have built : .interfaceBuilt .multiCarrier 6 ∈
      (run { capability := some 3 } (Config.shipped 6) 1000 .beforeStart
        .starting Scheduler.privileged).trace.events := by
    rw [interfaceBuilt_mem_run, interfaceBuilt_mem_buildInterface]
    exact ⟨rfl, rfl, .multiArfcn, rfl, rfl, rfl⟩
  refine ⟨Options.validate_channels 6, built, rfl, ?_⟩
  intro keeps
  have bound : 6 ≤ 5 := (keeps 6 built).1
  omega

end Bootstrap

end Transceiver
