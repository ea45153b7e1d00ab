import Transceiver.Proofs.Pipeline.Attachment

/-!
What each stage of the pipeline comes to: one statement for every way in which the stage can end,
with all notes it leaves.
-/

namespace Transceiver.Pipeline

def openFault : Fault :=
  .device "mock device refused to open"

def interfaceFault : Fault :=
  .interface "mock interface init failure"

def coreFault : Fault :=
  .core "mock transceiver init failure"

theorem tableFits_width {channels : Nat} (topology : Topology)
    (fits : tableFits channels = true) : tableFits (topology.width channels) = true := by
  cases topology with
  | normal => exact fits
  | resampled64 => rfl
  | resampled100 => rfl
  | multiArfcn => exact fits

/-! Negotiation. -/

section Negotiation

variable (script : Script) (config : Config) (device : Device)

theorem negotiate_failed (fails : script.failOpen = true) :
    negotiate script config device =
      ⟨[.event (.deviceOpened config.deviceArgs config.reference config.swapChannels),
          .logged (.deviceFailed openFault)],
        .failed (.negotiation openFault)⟩ := by
  simp [negotiate, Device.openWith, fails, openFault]

theorem negotiate_done (opens : script.failOpen = false) :
    negotiate script config device =
      ⟨[.event (.deviceOpened config.deviceArgs config.reference config.swapChannels),
          .logged (.deviceOpened (script.capability.getD device.params.hint.code))],
        .done (script.capability.getD device.params.hint.code)⟩ := by
  simp [negotiate, Device.openWith, opens]

end Negotiation

/-! Building the interface. -/

section Building

variable (script : Script) (config : Config) {code : Nat} (table : Nat)

theorem buildInterface_unsupported (unknown : 3 < code) :
    buildInterface script config code table =
      ⟨[.logged (.unsupportedInterface code)], .failed (.unsupportedInterface code)⟩ := by
  rw [buildInterface, Topology.ofCode?_eq_none_iff.mpr unknown]

theorem buildInterface_failed {topology : Topology} (known : Topology.ofCode? code = some topology)
    (fails : script.failInterface = true) :
    buildInterface script config code table =
      ⟨[.event (.interfaceBuilt topology.kind (topology.width config.channels)),
          .logged (.interfaceFailed interfaceFault), .event .interfaceReleased],
        .failed (.interfaceInit interfaceFault)⟩ := by
  simp [buildInterface, known, interfaceFor, Interface.setUp, fails, interfaceFault]

theorem buildInterface_ready {topology : Topology} (known : Topology.ofCode? code = some topology)
    (works : script.failInterface = false)
    (fits : tableFits (topology.width config.channels) = true) :
    buildInterface script config code table =
      ⟨[.event (.interfaceBuilt topology.kind (topology.width config.channels)),
          .event (.interfaceInitialized topology), .logged (.interfaceReady topology)],
        .done { interfaceFor config topology with table := some table }⟩ := by
  simp [buildInterface, known, interfaceFor, Interface.setUp, works, fits]

theorem buildInterface_done {topology : Topology} (known : Topology.ofCode? code = some topology)
    (works : script.failInterface = false) (fits : tableFits config.channels = true) :
    buildInterface script config code table =
      ⟨[.event (.interfaceBuilt topology.kind (topology.width config.channels)),
          .event (.interfaceInitialized topology), .logged (.interfaceReady topology)],
        .done { interfaceFor config topology with table := some table }⟩ :=
  buildInterface_ready script config table known works (tableFits_width topology fits)

theorem buildInterface_overflow {topology : Topology}
    (known : Topology.ofCode? code = some topology) (works : script.failInterface = false)
    (large : tableFits (topology.width config.channels) = false) :
    buildInterface script config code table =
      ⟨[.event (.interfaceBuilt topology.kind (topology.width config.channels)),
          .event .interfaceReleased],
        .overflow⟩ := by
  simp [buildInterface, known, interfaceFor, Interface.setUp, works, large]

end Building

/-! Assembly. -/

section Assembly

variable (script : Script) (config : Config) (interface : Interface)

theorem assemble_failed (fits : tableFits config.channels = true)
    (fails : script.failCore = true) :
    assemble script config interface =
      ⟨[.event (.coreBuilt config.coreParams), .logged (.coreFailed coreFault),
          .event (.coreReleased 0)],
        .failed (.coreInit coreFault)⟩ := by
  have room : tableFits config.coreParams.channels = true := fits
  simp [assemble, Core.construct, room, Core.setUp, fails, coreFault, Core.released,
    Core.attachedCount]

theorem assemble_unattached {channel : Nat} (fits : tableFits config.channels = true)
    (works : script.failCore = false)
    (first : firstUnattached? script interface config.channels = some channel) :
    assemble script config interface =
      ⟨.event (.coreBuilt config.coreParams) :: .event (.coreInitialized config.coreSettings) ::
          attachNotes 0 channel ++
            [.logged (.fifoNotAttached channel), .event (.coreReleased channel)],
        .failed (attachError script interface channel)⟩ := by
  have room : tableFits config.coreParams.channels = true := fits
  have attachment := attachFrom_first { params := config.coreParams } rfl
    (Nat.le_refl config.channels) first
  simp [assemble, Core.construct, room, Core.setUp, works, attachment]

theorem assemble_done (fits : tableFits config.channels = true)
    (works : script.failCore = false)
    (all : firstUnattached? script interface config.channels = none) :
    assemble script config interface =
      ⟨.event (.coreBuilt config.coreParams) :: .event (.coreInitialized config.coreSettings) ::
          attachNotes 0 config.channels,
        .done (Core.withChannels script interface { params := config.coreParams } 0
          config.channels)⟩ := by
  have room : tableFits config.coreParams.channels = true := fits
  have attachment := attachFrom_all { params := config.coreParams } rfl
    (Nat.le_refl config.channels) all
  simp [assemble, Core.construct, room, Core.setUp, works, attachment]

theorem assemble_overflow (large : tableFits config.channels = false) :
    assemble script config interface =
      ⟨[.event (.coreBuilt config.coreParams)], .overflow⟩ := by
  have room : tableFits config.coreParams.channels = false := large
  simp [assemble, Core.construct, room]

theorem assemble_ofCore :
    ∀ event ∈ (assemble script config interface).trace.events, event.ofCore = true := by
  by_cases fits : tableFits config.coreParams.channels = true
  · by_cases fails : script.failCore = true
    · simp [assemble, Core.construct, fits, Core.setUp, fails, Core.released, Event.ofCore]
    · have attachment := attachFrom_ofCore script interface { params := config.coreParams } 0
        config.channels
      simpa [assemble, Core.construct, fits, Core.setUp, fails, Event.ofCore] using attachment
  · simp [assemble, Core.construct, fits, Event.ofCore]

end Assembly

/-- An assembled core has exactly the queues that the interface has for the configured channels. -/
theorem slots_of_assemble {script : Script} {config : Config} {interface : Interface} {core : Core}
    (done : (assemble script config interface).outcome = .done core) :
    core.params = config.coreParams ∧
      (∀ channel < config.channels, (interface.fifo? script channel).isSome = true ∧
        core.slot? channel = interface.fifo? script channel) ∧
      ∀ channel ≥ config.channels, core.slot? channel = none := by
  have fits : tableFits config.channels = true := by
    cases room : tableFits config.channels with
    | true => rfl
    | false =>
        have coreRoom : tableFits config.coreParams.channels = false := room
        simp [assemble, Core.construct, coreRoom] at done
  have works : script.failCore = false := by
    cases fails : script.failCore with
    | false => rfl
    | true =>
        rw [assemble_failed script config interface fits fails] at done
        cases done
  have all : firstUnattached? script interface config.channels = none := by
    cases first : firstUnattached? script interface config.channels with
    | none => rfl
    | some channel =>
        rw [assemble_unattached script config interface fits works first] at done
        cases done
  rw [assemble_done script config interface fits works all] at done
  cases done
  refine ⟨rfl, ?_, ?_⟩
  · intro channel configured
    have attachable := firstUnattached?_eq_none_iff.mp all channel configured
    obtain ⟨⟨fifo, found⟩, _⟩ := attachable_iff.mp attachable
    exact ⟨by simp [found], slot?_withChannels script interface rfl configured⟩
  · intro channel beyond
    simp only [Core.slot?, Core.withChannels, List.append_nil, lookup_slots]
    simp [Nat.not_lt.mpr beyond]

end Transceiver.Pipeline
