import Transceiver.Pipeline.Bench
import Transceiver.Proofs.Config.Validate
import Transceiver.Proofs.Pipeline.Stages

/-!
Assembly is all or nothing: either every channel of the configuration is attached to the core that
is left, or no core is left and all else is as it was. An interface and the core on it may follow
scripts of their own. They read different fields, so that a single script stands for the two.
-/

namespace Transceiver

def Event.attached? : Event → Option Nat
  | fifoAttached channel => some channel
  | _ => none

def LogEntry.attached? : LogEntry → Option Nat
  | fifoAttached channel => some channel
  | _ => none

def Script.withInterface (script own : Script) : Script :=
  { script with failInterface := own.failInterface, missingFifo := own.missingFifo }

namespace Pipeline

@[simp] theorem fifo?_withInterface (script own : Script) (interface : Interface) (channel : Nat) :
    interface.fifo? (script.withInterface own) channel = interface.fifo? own channel := rfl

@[simp] theorem rejectedFifo_withInterface (script own : Script) :
    (script.withInterface own).rejectedFifo = script.rejectedFifo := rfl

def Unattachable (own script : Script) (config : Config) (interface : Interface)
    (channel : Nat) : Prop :=
  ∀ fifo, interface.fifo? own channel = some fifo →
    ∃ fault, ({ params := config.coreParams } : Core).attach script fifo channel = .error fault

structure FirstUnattachable (own script : Script) (config : Config) (interface : Interface)
    (channel : Nat) : Prop where
  configured : channel < config.channels
  unattachable : Unattachable own script config interface channel
  earlier : ∀ other < channel, ¬Unattachable own script config interface other

structure SameUpTo (channel : Nat) (own script : Script) (interface : Interface)
    (otherOwn otherScript : Script) (otherInterface : Interface) : Prop where
  init : otherScript.failCore = script.failCore
  queues : ∀ earlier ≤ channel,
    otherInterface.fifo? otherOwn earlier = interface.fifo? own earlier
  refusals : ∀ earlier ≤ channel,
    (otherScript.rejectedFifo = some earlier ↔ script.rejectedFifo = some earlier)

structure AllOrNothing (own script : Script) (config : Config) (interface : Interface)
    (attempt : Attempt BootstrapError Core) : Prop where
  coreFails : script.failCore = true →
    attempt.trace.events = [.coreBuilt config.coreParams, .coreReleased 0] ∧
      attempt.outcome = .failed (.coreInit coreFault)
  fifoFails : script.failCore = false → ∀ channel,
    FirstUnattachable own script config interface channel →
      attempt.trace.events =
          .coreBuilt config.coreParams :: .coreInitialized config.coreSettings ::
            (List.range channel).map .fifoAttached ++ [.coreReleased channel] ∧
        ∃ error, attempt.outcome = .failed error ∧ error.channel = some channel ∧
          (error = .missingFifo channel ↔ interface.fifo? own channel = none)
  untouched : script.failCore = false → ∀ channel,
    FirstUnattachable own script config interface channel →
      ∀ otherOwn otherScript otherInterface,
        SameUpTo channel own script interface otherOwn otherScript otherInterface →
          assemble (otherScript.withInterface otherOwn) config otherInterface = attempt
  attachesAll : script.failCore = false →
    (∀ channel < config.channels, ¬Unattachable own script config interface channel) →
      attempt.trace.events =
          .coreBuilt config.coreParams :: .coreInitialized config.coreSettings ::
            (List.range config.channels).map .fifoAttached ∧
        ∃ core, attempt.outcome = .done core ∧ core.params = config.coreParams ∧
          core.attachedCount = config.channels ∧
          ∀ channel < config.channels,
            ∃ fifo, core.slot? channel = some fifo ∧ interface.fifo? own channel = some fifo
  logged : attempt.trace.entries.filterMap LogEntry.attached? =
    attempt.trace.events.filterMap Event.attached?

theorem unattachable_iff {own script : Script} {config : Config} {interface : Interface}
    {channel : Nat} (configured : channel < config.channels) :
    Unattachable own script config interface channel ↔
      attachable (script.withInterface own) interface channel = false := by
  have inside : channel < config.coreParams.channels := configured
  cases found : interface.fifo? own channel with
  | none => simp [Unattachable, attachable, found]
  | some fifo =>
      by_cases rejected : script.rejectedFifo = some channel
      · simp [Unattachable, attachable, found, rejected, Core.attach]
      · simp [Unattachable, attachable, found, rejected, Core.attach, inside]

theorem firstUnattached?_iff {own script : Script} {config : Config} {interface : Interface}
    {channel : Nat} :
    firstUnattached? (script.withInterface own) interface config.channels = some channel ↔
      FirstUnattachable own script config interface channel := by
  rw [firstUnattached?_eq_some_iff]
  constructor
  · rintro ⟨configured, refused, earlier⟩
    refine ⟨configured, (unattachable_iff configured).mpr refused, ?_⟩
    intro other before unattachable
    have refusedToo := (unattachable_iff (by omega)).mp unattachable
    rw [earlier other before] at refusedToo
    cases refusedToo
  · intro first
    refine ⟨first.configured, (unattachable_iff first.configured).mp first.unattachable, ?_⟩
    intro other before
    have bound := first.configured
    simpa [unattachable_iff (show other < config.channels by omega)] using
      first.earlier other before

theorem firstUnattached?_none_of {own script : Script} {config : Config} {interface : Interface}
    (each : ∀ channel < config.channels, ¬Unattachable own script config interface channel) :
    firstUnattached? (script.withInterface own) interface config.channels = none := by
  rw [firstUnattached?_eq_none_iff]
  intro channel configured
  simpa [unattachable_iff configured] using each channel configured

theorem FirstUnattachable.other {own script otherOwn otherScript : Script} {config : Config}
    {interface otherInterface : Interface} {channel : Nat}
    (first : FirstUnattachable own script config interface channel)
    (same : SameUpTo channel own script interface otherOwn otherScript otherInterface) :
    FirstUnattachable otherOwn otherScript config otherInterface channel := by
  have agree : ∀ earlier ≤ channel,
      (Unattachable otherOwn otherScript config otherInterface earlier ↔
        Unattachable own script config interface earlier) := by
    intro earlier bound
    have configured : earlier < config.channels := by
      have := first.configured
      omega
    rw [unattachable_iff configured, unattachable_iff configured]
    have refusals := same.refusals earlier bound
    by_cases rejected : script.rejectedFifo = some earlier
    · simp [attachable, same.queues earlier bound, refusals.mpr rejected, rejected]
    · simp [attachable, same.queues earlier bound, refusals, rejected]
  refine ⟨first.configured, (agree channel (Nat.le_refl channel)).mpr first.unattachable, ?_⟩
  intro earlier before
  rw [agree earlier (by omega)]
  exact first.earlier earlier before

theorem channel_attachError (script : Script) (interface : Interface) (channel : Nat) :
    (attachError script interface channel).channel = some channel := by
  unfold attachError
  split
  · rfl
  · rfl

theorem attachError_missing_iff (script : Script) (interface : Interface) (channel : Nat) :
    attachError script interface channel = .missingFifo channel ↔
      interface.fifo? script channel = none := by
  unfold attachError
  split
  next absent => simp [absent]
  next present => simp [present]

theorem attached_logged (script : Script) (config : Config) (interface : Interface)
    (fits : tableFits config.channels = true) :
    (assemble script config interface).trace.entries.filterMap LogEntry.attached? =
      (assemble script config interface).trace.events.filterMap Event.attached? := by
  cases works : script.failCore with
  | true =>
      rw [assemble_failed script config interface fits works]
      rfl
  | false =>
      cases first : firstUnattached? script interface config.channels with
      | none =>
          rw [assemble_done script config interface fits works first]
          simp [List.filterMap_cons, List.filterMap_map, Function.comp_def, LogEntry.attached?,
            Event.attached?]
      | some channel =>
          rw [assemble_unattached script config interface fits works first]
          simp [List.filterMap_cons, List.filterMap_map, Function.comp_def, LogEntry.attached?,
            Event.attached?]

section

variable {own script : Script} {config : Config} {interface : Interface}
  (fits : tableFits config.channels = true)
include fits

theorem assemble_at_first {channel : Nat} (works : script.failCore = false)
    (first : FirstUnattachable own script config interface channel) :
    assemble (script.withInterface own) config interface =
      ⟨.event (.coreBuilt config.coreParams) :: .event (.coreInitialized config.coreSettings) ::
          attachNotes 0 channel ++
            [.logged (.fifoNotAttached channel), .event (.coreReleased channel)],
        .failed (attachError (script.withInterface own) interface channel)⟩ :=
  assemble_unattached _ config interface fits works (firstUnattached?_iff.mpr first)

theorem assemble_at_other {channel : Nat} (works : script.failCore = false)
    (first : FirstUnattachable own script config interface channel)
    {otherOwn otherScript : Script} {otherInterface : Interface}
    (same : SameUpTo channel own script interface otherOwn otherScript otherInterface) :
    assemble (otherScript.withInterface otherOwn) config otherInterface =
      assemble (script.withInterface own) config interface := by
  have sameError : attachError (otherScript.withInterface otherOwn) otherInterface channel =
      attachError (script.withInterface own) interface channel := by
    have sameQueue := same.queues channel (Nat.le_refl channel)
    by_cases absent : interface.fifo? own channel = none
    · simp [attachError, sameQueue, absent]
    · simp [attachError, sameQueue, absent]
  rw [assemble_at_first fits works first,
    assemble_at_first fits (same.init.trans works) (first.other same), sameError]

theorem allOrNothing_assemble :
    AllOrNothing own script config interface
      (assemble (script.withInterface own) config interface) := by
  constructor
  · intro fails
    rw [assemble_failed (script.withInterface own) config interface fits fails]
    exact ⟨rfl, rfl⟩
  · intro works channel first
    rw [assemble_at_first fits works first]
    refine ⟨by simp [List.range_eq_range'], _, rfl, channel_attachError _ _ _, ?_⟩
    rw [attachError_missing_iff, fifo?_withInterface]
  · intro works channel first otherOwn otherScript otherInterface same
    exact assemble_at_other fits works first same
  · intro works each
    have all := firstUnattached?_none_of each
    have attachable := firstUnattached?_eq_none_iff.mp all
    rw [assemble_done (script.withInterface own) config interface fits works all]
    refine ⟨by simp [List.range_eq_range'], _, rfl, rfl, ?_, ?_⟩
    · exact attachedCount_withChannels _ interface _ 0 config.channels
        fun channel _ upper => attachable channel (by omega)
    · intro channel configured
      obtain ⟨⟨fifo, found⟩, _⟩ := attachable_iff.mp (attachable channel configured)
      refine ⟨fifo, ?_, found⟩
      rw [slot?_withChannels (script.withInterface own) interface rfl configured, found]
  · exact attached_logged (script.withInterface own) config interface fits

end

structure Spares (device : Device) (interface : Interface) (bench : Bench)
    (attempt : Attempt BootstrapError Core) (entry : Entry) (next : Bench) : Prop where
  trace : entry.trace = attempt.trace
  queues : ∀ id, next.fifoOf id = bench.fifoOf id
  failed : ∀ error, attempt.outcome = .failed error →
    entry.answer = .failed error ∧ next = bench
  done : ∀ core, attempt.outcome = .done core →
    entry.answer = .assembled core.params.channels ∧
      next = bench.atLevel (.core device interface core)

theorem spares_step {bench : Bench} {device : Device} {interface : Interface}
    (mounted : bench.level = .interface device interface) (config : Config) :
    Spares device interface bench (assemble bench.script config interface)
      (bench.step (.assemble config)).1 (bench.step (.assemble config)).2 := by
  simp only [Bench.step, mounted, Bench.stepInterface]
  generalize assemble bench.script config interface = attempt
  obtain ⟨notes, outcome⟩ := attempt
  cases outcome with
  | done core =>
      refine ⟨rfl, fun id => rfl, ?_, ?_⟩
      · rintro error ⟨⟩
      · rintro assembled ⟨⟩
        exact ⟨rfl, rfl⟩
  | failed error =>
      refine ⟨rfl, fun id => rfl, ?_, ?_⟩
      · rintro same ⟨⟩
        exact ⟨rfl, rfl⟩
      · rintro core ⟨⟩
  | overflow =>
      refine ⟨rfl, fun id => rfl, ?_, ?_⟩
      · rintro error ⟨⟩
      · rintro core ⟨⟩

/-- An assembly whose tables fit either attaches every configured channel or leaves no core, and on
a bench it leaves all that stood before it as it was. -/
theorem assemble_all_or_nothing (own script : Script) (config : Config) (bench : Bench)
    (device : Device) (interface : Interface) (fits : tableFits config.channels = true)
    (followed : bench.script = script.withInterface own)
    (mounted : bench.level = .interface device interface) :
    AllOrNothing own script config interface (assemble bench.script config interface) ∧
      Spares device interface bench (assemble bench.script config interface)
        (bench.step (.assemble config)).1 (bench.step (.assemble config)).2 := by
  refine ⟨?_, spares_step mounted config⟩
  rw [followed]
  exact allOrNothing_assemble fits

/-- Channel 1 is refused before channel 2 is missed, and a reader goes on waiting. -/
theorem assemble_refused_past_reader :
    let own : Script := { missingFifo := some 2 }
    let script : Script := { rejectedFifo := some 1 }
    let device : Device := ⟨(Config.shipped 4).deviceParams⟩
    let interface : Interface :=
      { kind := .direct, txRate := .four, rxRate := .one, channels := 3, table := some 0 }
    let bench : Bench :=
      { script := script.withInterface own
        level := .interface device interface
        tables := 1
        used := [(⟨0, 0⟩, { Fifo.create 0 64 with waiting := [0], started := 1 })]
        held := [⟨0, 0⟩] }
    (tableFits (Config.shipped 4).channels = true ∧
        bench.script = script.withInterface own ∧
        bench.level = .interface device interface) ∧
      AllOrNothing own script (Config.shipped 4) interface
          (assemble bench.script (Config.shipped 4) interface) ∧
        Spares device interface bench (assemble bench.script (Config.shipped 4) interface)
          (bench.step (.assemble (Config.shipped 4))).1
          (bench.step (.assemble (Config.shipped 4))).2 := by
  intro own script device interface bench
  exact ⟨⟨rfl, rfl, rfl⟩,
    assemble_all_or_nothing own script (Config.shipped 4) bench device interface rfl rfl rfl⟩

end Pipeline

end Transceiver
