import Transceiver.Proofs.Bootstrap.Scopes
import Transceiver.Proofs.Config.Validate

/-!
Where a run of the bootstrap ends. The script, the configuration and the scheduler's answer decide
it alone, each stage ahead of all later ones, and with it the result of the run and every event of
the pipeline: what was built up to there, and its release in reverse order.
-/

namespace Transceiver.Bootstrap

open Lifecycle Pipeline

/-- Where a run ends; `code` is the capability code the device reported. -/
inductive Exit
  | priorityRefused (priority : Int) (cause : String)
  | openFailed
  | codeUnsupported (code : Nat)
  | interfaceFailed (code : Nat)
  | coreFailed (code : Nat)
  | fifoMissing (code channel : Nat)
  | fifoRejected (code channel : Nat)
  | served (code : Nat)
  deriving DecidableEq, Repr

namespace Exit

def reportedCode (script : Script) (config : Config) : Nat :=
  script.capability.getD (if config.multiArfcn then 3 else 0)

def widthOf (code channels : Nat) : Nat :=
  if code = 1 ∨ code = 2 then 1 else channels

def kindOf (code : Nat) : InterfaceKind :=
  if code = 0 then .direct else if code = 1 ∨ code = 2 then .resampling else .multiCarrier

def topologyOf : Nat → Topology
  | 0 => .normal
  | 1 => .resampled64
  | 2 => .resampled100
  | _ => .multiArfcn

def firstUnserved? (script : Script) (width channels : Nat) : Option Nat :=
  (List.range channels).find? fun channel =>
    width ≤ channel ∨ script.missingFifo = some channel ∨ script.rejectedFifo = some channel

def refused? (config : Config) (scheduler : Scheduler) : Option Exit :=
  config.priority.bind fun priority => (scheduler priority).map (priorityRefused priority)

def of (script : Script) (config : Config) (scheduler : Scheduler) : Exit :=
  match refused? config scheduler with
  | some exit => exit
  | none =>
      let code := reportedCode script config
      let width := widthOf code config.channels
      if script.failOpen then openFailed
      else if 3 < code then codeUnsupported code
      else if script.failInterface then interfaceFailed code
      else if script.failCore then coreFailed code
      else
        match firstUnserved? script width config.channels with
        | none => served code
        | some channel =>
            if width ≤ channel ∨ script.missingFifo = some channel then fifoMissing code channel
            else fifoRejected code channel

def result : Exit → Result
  | priorityRefused priority cause => .failed (.scheduling priority cause)
  | openFailed => .failed (.negotiation (.device "mock device refused to open"))
  | codeUnsupported code => .failed (.unsupportedInterface code)
  | interfaceFailed _ => .failed (.interfaceInit (.interface "mock interface init failure"))
  | coreFailed _ => .failed (.coreInit (.core "mock transceiver init failure"))
  | fifoMissing _ channel => .failed (.missingFifo channel)
  | fifoRejected _ channel =>
      .failed (.attachFailed channel
        (.core ("mock transceiver rejected FIFO on channel " ++ toString channel)))
  | served _ => .ok

def opening (config : Config) : List Event :=
  [.deviceMade config.deviceParams,
    .deviceOpened config.deviceArgs config.reference config.swapChannels]

def building (config : Config) (code : Nat) : List Event :=
  opening config ++ [.interfaceBuilt (kindOf code) (widthOf code config.channels)]

def assembling (config : Config) (code : Nat) : List Event :=
  building config code ++ [.interfaceInitialized (topologyOf code), .coreBuilt config.coreParams]

def attaching (config : Config) (code count : Nat) : List Event :=
  assembling config code ++ .coreInitialized config.coreSettings ::
    (List.range count).map .fifoAttached ++
    [.coreReleased count, .interfaceReleased, .deviceReleased]

def events (config : Config) : Exit → List Event
  | priorityRefused _ _ => []
  | openFailed => opening config ++ [.deviceReleased]
  | codeUnsupported _ => opening config ++ [.deviceReleased]
  | interfaceFailed code => building config code ++ [.interfaceReleased, .deviceReleased]
  | coreFailed code =>
      assembling config code ++ [.coreReleased 0, .interfaceReleased, .deviceReleased]
  | fifoMissing code channel => attaching config code channel
  | fifoRejected code channel => attaching config code channel
  | served code => attaching config code config.channels

theorem topologyOf_eq {code : Nat} (known : code ≤ 3) :
    Topology.ofCode? code = some (topologyOf code) := by
  match code with
  | 0 | 1 | 2 | 3 => rfl
  | code + 4 => omega

theorem kind_topologyOf (code : Nat) : (topologyOf code).kind = kindOf code := by
  match code with
  | 0 | 1 | 2 => rfl
  | code + 3 => simp [topologyOf, Topology.kind, kindOf]

theorem width_topologyOf (code channels : Nat) :
    (topologyOf code).width channels = widthOf code channels := by
  match code with
  | 0 | 1 | 2 => rfl
  | code + 3 => simp [topologyOf, Topology.width, Topology.kind, widthOf]

def interface (config : Config) (code : Nat) : Interface :=
  { interfaceFor config (topologyOf code) with table := some 0 }

theorem fifo?_interface (script : Script) (config : Config) (code channel : Nat) :
    (interface config code).fifo? script channel =
      if widthOf code config.channels ≤ channel ∨ script.missingFifo = some channel then none
      else some ⟨0, channel⟩ := by
  have ready : (interface config code).table = some 0 := rfl
  have carries : (interface config code).channels = widthOf code config.channels :=
    width_topologyOf code config.channels
  have served : (channel < widthOf code config.channels ∧ script.missingFifo ≠ some channel) ↔
      ¬(widthOf code config.channels ≤ channel ∨ script.missingFifo = some channel) := by
    rw [not_or, Nat.not_le]
  rw [Interface.fifo?_ready script ready, carries]
  simp only [served, ite_not]

theorem firstUnattached?_interface (script : Script) (config : Config) (code channels : Nat) :
    firstUnattached? script (interface config code) channels =
      firstUnserved? script (widthOf code config.channels) channels := by
  have same : (fun channel => !attachable script (interface config code) channel) =
      fun channel => decide (widthOf code config.channels ≤ channel ∨
        script.missingFifo = some channel ∨ script.rejectedFifo = some channel) := by
    funext channel
    rw [attachable, fifo?_interface]
    by_cases unserved : widthOf code config.channels ≤ channel ∨
        script.missingFifo = some channel
    · simp [unserved, ← or_assoc]
    · simp [unserved, ← or_assoc]
  rw [firstUnattached?, firstUnserved?, same]

end Exit

section

variable (script : Script) (config : Config) {code : Nat} (interval : Nat) (shutdown : Shutdown)
  (phase : Phase) {scheduler : Scheduler}

theorem negotiate_reportedCode (opens : script.failOpen = false) :
    negotiate script config ⟨config.deviceParams⟩ =
      ⟨[.event (.deviceOpened config.deviceArgs config.reference config.swapChannels),
          .logged (.deviceOpened (Exit.reportedCode script config))],
        .done (Exit.reportedCode script config)⟩ := by
  have hint : config.deviceParams.hint.code = if config.multiArfcn then 3 else 0 := by
    simp only [Config.deviceParams, Config.hint]
    split <;> rfl
  rw [negotiate_done script config ⟨config.deviceParams⟩ opens, hint]
  rfl

theorem buildInterface_interface (known : code ≤ 3) (works : script.failInterface = false)
    (fits : tableFits config.channels = true) :
    buildInterface script config code 0 =
      ⟨[.event (.interfaceBuilt (Exit.kindOf code) (Exit.widthOf code config.channels)),
          .event (.interfaceInitialized (Exit.topologyOf code)),
          .logged (.interfaceReady (Exit.topologyOf code))],
        .done (Exit.interface config code)⟩ := by
  rw [buildInterface_done script config 0 (Exit.topologyOf_eq known) works fits,
    Exit.kind_topologyOf, Exit.width_topologyOf]
  rfl

theorem attachError_interface (channel : Nat) :
    attachError script (Exit.interface config code) channel =
      if Exit.widthOf code config.channels ≤ channel ∨ script.missingFifo = some channel then
        .missingFifo channel
      else .attachFailed channel (rejection channel) := by
  rw [attachError, Exit.fifo?_interface]
  split
  next absent => rfl
  next present => simp

theorem ends_refused {exit : Exit} (refused : Exit.refused? config scheduler = some exit) :
    Ends (run script config interval shutdown phase scheduler) exit.result
      (exit.events config) := by
  obtain ⟨priority, asked, cause, answer, rfl⟩ : ∃ priority, config.priority = some priority ∧
      ∃ cause, scheduler priority = some cause ∧ Exit.priorityRefused priority cause = exit := by
    simpa [Exit.refused?, Option.bind_eq_some_iff] using refused
  exact run_refused interval shutdown phase (by simp [startError?, asked, answer])

theorem accepted_of_unrefused (unrefused : Exit.refused? config scheduler = none) :
    startError? config.priority scheduler = none := by
  cases asked : config.priority with
  | none => rfl
  | some priority => simpa [startError?, Exit.refused?, asked] using unrefused

/-! What a run comes to once its request for a priority is accepted, stage by stage: every stage
passed is one more assumption of the statements after it. -/

variable (accepted : startError? config.priority scheduler = none)
include accepted

theorem ends_openFailed (fails : script.failOpen = true) :
    Ends (run script config interval shutdown phase scheduler) Exit.openFailed.result
      (Exit.openFailed.events config) := by
  have negotiated := negotiate_failed script config ⟨config.deviceParams⟩ fails
  exact run_started interval shutdown phase accepted
    (runDevice_unopened interval shutdown phase negotiated)

variable (opens : script.failOpen = false) (reported : Exit.reportedCode script config = code)
include opens reported

theorem ends_codeUnsupported (unknown : 3 < code) :
    Ends (run script config interval shutdown phase scheduler) (Exit.codeUnsupported code).result
      ((Exit.codeUnsupported code).events config) := by
  have negotiated := negotiate_reportedCode script config opens
  rw [reported] at negotiated
  have built := buildInterface_unsupported script config 0 unknown
  exact run_started interval shutdown phase accepted
    (runDevice_unbuilt interval shutdown phase negotiated built)

variable (known : code ≤ 3)
include known

theorem ends_interfaceFailed (fails : script.failInterface = true) :
    Ends (run script config interval shutdown phase scheduler) (Exit.interfaceFailed code).result
      ((Exit.interfaceFailed code).events config) := by
  have negotiated := negotiate_reportedCode script config opens
  rw [reported] at negotiated
  have built := buildInterface_failed script config 0 (Exit.topologyOf_eq known) fails
  rw [Exit.kind_topologyOf, Exit.width_topologyOf] at built
  exact run_started interval shutdown phase accepted
    (runDevice_unbuilt interval shutdown phase negotiated built)

variable (works : script.failInterface = false) (fits : tableFits config.channels = true)
include works fits

theorem ends_built {result : Result} {events : List Event}
    (inner : Ends
      (runInterface script config (Exit.interface config code) interval shutdown phase)
      result (.coreBuilt config.coreParams :: events)) :
    Ends (run script config interval shutdown phase scheduler) result
      (Exit.assembling config code ++ events ++ [.interfaceReleased, .deviceReleased]) := by
  have negotiated := negotiate_reportedCode script config opens
  rw [reported] at negotiated
  have built := buildInterface_interface script config known works fits
  have whole := run_started interval shutdown phase accepted
    (runDevice_built interval shutdown phase negotiated built inner)
  simpa [Exit.assembling, Exit.building, Exit.opening] using whole

theorem ends_coreFailed (fails : script.failCore = true) :
    Ends (run script config interval shutdown phase scheduler) (Exit.coreFailed code).result
      ((Exit.coreFailed code).events config) := by
  have assembled := assemble_failed script config (Exit.interface config code) fits fails
  have inner : Ends
      (runInterface script config (Exit.interface config code) interval shutdown phase)
      (.failed (.coreInit coreFault)) [.coreBuilt config.coreParams, .coreReleased 0] :=
    runInterface_failed interval shutdown phase assembled
  have whole := ends_built script config interval shutdown phase accepted opens reported known
    works fits inner
  rw [List.append_assoc] at whole
  exact whole

variable (starts : script.failCore = false)
include starts

theorem ends_unattached {channel : Nat}
    (first : Exit.firstUnserved? script (Exit.widthOf code config.channels) config.channels =
      some channel) :
    Ends (run script config interval shutdown phase scheduler)
      (.failed (attachError script (Exit.interface config code) channel))
      (Exit.attaching config code channel) := by
  rw [← Exit.firstUnattached?_interface] at first
  have assembled := assemble_unattached script config (Exit.interface config code) fits starts first
  have inner := runInterface_failed interval shutdown phase assembled
  simp only [List.cons_append, Trace.events_event_cons, Trace.events_append, events_attachNotes,
    ← List.range_eq_range'] at inner
  have whole := ends_built script config interval shutdown phase accepted opens reported known
    works fits inner
  simpa [Exit.attaching] using whole

theorem ends_served
    (all : Exit.firstUnserved? script (Exit.widthOf code config.channels) config.channels =
      none) :
    Ends (run script config interval shutdown phase scheduler) (Exit.served code).result
      ((Exit.served code).events config) := by
  rw [← Exit.firstUnattached?_interface] at all
  have each := firstUnattached?_eq_none_iff.mp all
  have count : (Core.withChannels script (Exit.interface config code)
      { params := config.coreParams } 0 config.channels).attachedCount = config.channels :=
    attachedCount_withChannels script (Exit.interface config code) _ 0 config.channels
      fun channel _ upper => each channel (by omega)
  have assembled := assemble_done script config (Exit.interface config code) fits starts all
  have inner := runInterface_done interval shutdown phase assembled
  simp only [List.cons_append, Trace.events_event_cons, events_attachNotes,
    ← List.range_eq_range', count] at inner
  have whole := ends_built script config interval shutdown phase accepted opens reported known
    works fits inner
  simpa [Exit.result, Exit.events, Exit.attaching] using whole

end

theorem ends_at_exit (script : Script) (config : Config) (interval : Nat) (shutdown : Shutdown)
    (phase : Phase) (scheduler : Scheduler) (fits : tableFits config.channels = true) :
    Ends (run script config interval shutdown phase scheduler)
      (Exit.of script config scheduler).result
      ((Exit.of script config scheduler).events config) := by
  unfold Exit.of
  split
  next exit refused => exact ends_refused script config interval shutdown phase refused
  next unrefused =>
    have accepted := accepted_of_unrefused config unrefused
    dsimp only
    generalize reported : Exit.reportedCode script config = code
    split
    next fails => exact ends_openFailed script config interval shutdown phase accepted fails
    next opens =>
      have opens : script.failOpen = false := by simpa using opens
      split
      next unknown =>
        exact ends_codeUnsupported script config interval shutdown phase accepted opens reported
          unknown
      next known =>
        have known : code ≤ 3 := by omega
        split
        next fails =>
          exact ends_interfaceFailed script config interval shutdown phase accepted opens reported
            known fails
        next works =>
          have works : script.failInterface = false := by simpa using works
          split
          next fails =>
            exact ends_coreFailed script config interval shutdown phase accepted opens reported
              known works fits fails
          next starts =>
            have starts : script.failCore = false := by simpa using starts
            split
            next all =>
              exact ends_served script config interval shutdown phase accepted opens reported
                known works fits starts all
            next channel first =>
              have ends := ends_unattached script config interval shutdown phase accepted opens
                reported known works fits starts first
              rw [attachError_interface] at ends
              split
              next absent =>
                rw [if_pos absent] at ends
                exact ends
              next present =>
                rw [if_neg present] at ends
                exact ends

/-- Every run of a configuration whose tables fit ends where its script, its configuration and the
scheduler's answer say, with exactly the result and the events of that end. -/
theorem run_ends_at_exit (script : Script) (config : Config) (interval : Nat)
    (shutdown : Shutdown) (phase : Phase) (scheduler : Scheduler)
    (fits : tableFits config.channels = true) :
    (run script config interval shutdown phase scheduler).result =
        (Exit.of script config scheduler).result ∧
      (run script config interval shutdown phase scheduler).trace.events =
        (Exit.of script config scheduler).events config := by
  have ends := ends_at_exit script config interval shutdown phase scheduler fits
  exact ⟨ends.result, ends.events⟩

/-- The resampling interface carries one channel only, so the second of three is missed ahead of the
core's refusal of it. -/
theorem run_ends_at_resampled_channel :
    ({ channels := 3 } : Options).validate = .ok (Config.shipped 3) ∧
      tableFits (Config.shipped 3).channels = true ∧
      (run { capability := some 2, missingFifo := some 2, rejectedFifo := some 1 }
        (Config.shipped 3) 1000 (.requestedAt 5) .starting Scheduler.privileged).result =
          .failed (.missingFifo 1) ∧
      (run { capability := some 2, missingFifo := some 2, rejectedFifo := some 1 }
          (Config.shipped 3) 1000 (.requestedAt 5) .starting
          Scheduler.privileged).trace.events =
        [.deviceMade (Config.shipped 3).deviceParams, .deviceOpened "" .internal false,
          .interfaceBuilt .resampling 1, .interfaceInitialized .resampled100,
          .coreBuilt (Config.shipped 3).coreParams,
          .coreInitialized (Config.shipped 3).coreSettings, .fifoAttached 0, .coreReleased 1,
          .interfaceReleased, .deviceReleased] :=
  ⟨Options.validate_channels 3, rfl,
    run_ends_at_exit _ (Config.shipped 3) 1000 (.requestedAt 5) .starting _ rfl⟩

-- A priority of the range is refused to a process without the privilege.
example (cause : String) :
    run {} { Config.shipped 3 with priority := some 10 } 1000 (.requestedAt 5) .starting
        (Scheduler.answering (some cause)) =
      ⟨.failed (.scheduling 10 cause), .stopped, 0,
        [.logged (.settingPriority 10), .logged (.priorityRefused cause),
          .logged (.transition .starting .stopped)]⟩ := rfl

end Transceiver.Bootstrap
