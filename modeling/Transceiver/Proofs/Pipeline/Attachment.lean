import Transceiver.Pipeline.Stages
import Transceiver.Proofs.Trace

/-!
The attachment of the channels of a core. Channels are attached in order up to the first one that
cannot be; that one decides the error, and the channels before it are the ones the core lets go.
-/

namespace Transceiver

def Event.ofCore : Event → Bool
  | coreBuilt _ | coreInitialized _ | fifoAttached _ | coreReleased _ => true
  | _ => false

namespace Pipeline

theorem Interface.fifo?_bare (script : Script) {interface : Interface}
    (bare : interface.table = none) (channel : Nat) : interface.fifo? script channel = none := by
  simp [fifo?, fifos, bare]

/-- An interface that was set up has a queue for every channel it carries but the missing one. -/
theorem Interface.fifo?_ready (script : Script) {interface : Interface} {table : Nat}
    (ready : interface.table = some table) (channel : Nat) :
    interface.fifo? script channel =
      if channel < interface.channels ∧ script.missingFifo ≠ some channel then
        some ⟨table, channel⟩
      else none := by
  by_cases carried : channel < interface.channels
  · by_cases missing : script.missingFifo = some channel
    · simp [fifo?, fifos, ready, carried, missing]
    · simp [fifo?, fifos, ready, carried, missing]
  · simp [fifo?, fifos, ready, carried]

theorem Interface.fifo?_eq_some_iff {script : Script} {interface : Interface} {channel : Nat}
    {id : FifoId} :
    interface.fifo? script channel = some id ↔
      ∃ table, interface.table = some table ∧ channel < interface.channels ∧
        script.missingFifo ≠ some channel ∧ id = ⟨table, channel⟩ := by
  cases made : interface.table with
  | none => simp [fifo?_bare script made]
  | some table => simp [fifo?_ready script made, and_assoc, eq_comm]

def attachable (script : Script) (interface : Interface) (channel : Nat) : Bool :=
  (interface.fifo? script channel).isSome && script.rejectedFifo ≠ some channel

def firstUnattached? (script : Script) (interface : Interface) (channels : Nat) : Option Nat :=
  (List.range channels).find? fun channel => !attachable script interface channel

def rejection (channel : Nat) : Fault :=
  .core ("mock transceiver rejected FIFO on channel " ++ toString channel)

def attachError (script : Script) (interface : Interface) (channel : Nat) : BootstrapError :=
  if interface.fifo? script channel = none then .missingFifo channel
  else .attachFailed channel (rejection channel)

def attachNotes (channel count : Nat) : Trace :=
  (List.range' channel count).flatMap fun attached =>
    [.event (.fifoAttached attached), .logged (.fifoAttached attached)]

def Core.withChannels (script : Script) (interface : Interface) (core : Core)
    (channel count : Nat) : Core :=
  let attached := (List.range' channel count).reverse.filterMap fun attached =>
    (interface.fifo? script attached).map fun fifo => (attached, fifo)
  { core with slots := attached ++ core.slots }

def Attempt.after {ε α : Type} (notes : Trace) (attempt : Attempt ε α) : Attempt ε α :=
  { attempt with trace := notes ++ attempt.trace }

theorem attachNotes_succ (channel count : Nat) :
    attachNotes channel (count + 1) =
      .event (.fifoAttached channel) :: .logged (.fifoAttached channel) ::
        attachNotes (channel + 1) count := by
  simp [attachNotes, List.range'_succ]

@[simp] theorem events_attachNotes (channel count : Nat) :
    (attachNotes channel count).events = (List.range' channel count).map .fifoAttached := by
  induction count generalizing channel with
  | zero => rfl
  | succ count ih =>
      rw [attachNotes_succ, List.range'_succ]
      simp [ih]

@[simp] theorem entries_attachNotes (channel count : Nat) :
    (attachNotes channel count).entries = (List.range' channel count).map .fifoAttached := by
  induction count generalizing channel with
  | zero => rfl
  | succ count ih =>
      rw [attachNotes_succ, List.range'_succ]
      simp [ih]

theorem attachable_iff {script : Script} {interface : Interface} {channel : Nat} :
    attachable script interface channel = true ↔
      (∃ fifo, interface.fifo? script channel = some fifo) ∧
        script.rejectedFifo ≠ some channel := by
  simp [attachable, Option.isSome_iff_exists]

theorem putSlot_of_below (channel : Nat) (fifo : FifoId) (slots : List (Nat × FifoId))
    (below : ∀ slot ∈ slots, slot.1 < channel) :
    Core.putSlot channel fifo slots = (channel, fifo) :: slots := by
  cases slots with
  | nil => rfl
  | cons slot lower =>
      have first := below slot (by simp)
      simp [Core.putSlot, first]

/-- Attachable channels at the front are attached one after the other, and the attachment goes on
behind them. -/
theorem attachFrom_ready (script : Script) (interface : Interface) (core : Core)
    (channel ready rest : Nat)
    (below : ∀ slot ∈ core.slots, slot.1 < channel)
    (inside : channel + ready ≤ core.params.channels)
    (each : ∀ attached, channel ≤ attached → attached < channel + ready →
      attachable script interface attached = true) :
    attachFrom script interface core channel (ready + rest) =
      (attachFrom script interface (core.withChannels script interface channel ready)
        (channel + ready) rest).after (attachNotes channel ready) := by
  induction ready generalizing core channel with
  | zero => simp [Core.withChannels, attachNotes, Attempt.after]
  | succ ready ih =>
      obtain ⟨⟨fifo, found⟩, accepted⟩ :=
        attachable_iff.mp (each channel (by omega) (by omega))
      have attached : core.attach script fifo channel = .ok (core.withSlot channel fifo) := by
        have bound : channel < core.params.channels := by omega
        simp [Core.attach, accepted, bound]
      have slots : (core.withSlot channel fifo).slots = (channel, fifo) :: core.slots :=
        putSlot_of_below channel fifo core.slots below
      have tail := ih (core.withSlot channel fifo) (channel + 1)
        (by
          intro slot member
          rw [slots] at member
          rcases List.mem_cons.mp member with first | old
          · subst slot
            simp
          · have := below slot old
            omega)
        (by
          change channel + 1 + ready ≤ core.params.channels
          omega)
        (fun other lower upper => each other (by omega) (by omega))
      have same : (core.withSlot channel fifo).withChannels script interface (channel + 1) ready =
          core.withChannels script interface channel (ready + 1) := by
        simp only [Core.withChannels, slots, List.range'_succ, List.reverse_cons,
          List.filterMap_append, List.filterMap_cons, found, Option.map_some,
          List.filterMap_nil, List.append_assoc, List.singleton_append]
        rfl
      rw [same] at tail
      rw [show ready + 1 + rest = (ready + rest) + 1 by omega, attachFrom, found]
      simp only [attached, tail, attachNotes_succ]
      rw [show channel + 1 + ready = channel + (ready + 1) by omega]
      rfl

theorem attachedCount_withChannels (script : Script) (interface : Interface) (core : Core)
    (channel count : Nat)
    (each : ∀ attached, channel ≤ attached → attached < channel + count →
      attachable script interface attached = true) :
    (core.withChannels script interface channel count).attachedCount =
      count + core.attachedCount := by
  have found : ∀ attached ∈ (List.range' channel count).reverse,
      ((interface.fifo? script attached).map fun fifo => (attached, fifo)).isSome = true := by
    intro attached member
    have bounds := List.mem_range'_1.mp (List.mem_reverse.mp member)
    obtain ⟨⟨fifo, known⟩, _⟩ := attachable_iff.mp (each attached bounds.1 bounds.2)
    simp [known]
  have kept := List.filterMap_length_eq_length.mpr found
  simp only [List.length_reverse, List.length_range'] at kept
  simp only [Core.attachedCount, Core.withChannels, List.length_append, kept]

theorem lookup_slots (queues : Nat → Option FifoId) (channels : List Nat) (channel : Nat) :
    (channels.filterMap fun attached =>
        (queues attached).map fun fifo => (attached, fifo)).lookup channel =
      if channel ∈ channels then queues channel else none := by
  induction channels with
  | nil => rfl
  | cons first rest ih =>
      by_cases same : channel = first
      · subst first
        cases found : queues channel with
        | none => simp [found, ih]
        | some fifo => simp [found]
      · have differs : (channel == first) = false := beq_false_of_ne same
        cases found : queues first with
        | none => simp [found, ih, same]
        | some fifo => simp [found, ih, same, List.lookup_cons, differs]

/-- A fresh core holds, for every channel it was given, the queue the interface has for it. -/
theorem slot?_withChannels (script : Script) (interface : Interface) {core : Core}
    (fresh : core.slots = []) {channel count : Nat} (inside : channel < count) :
    (core.withChannels script interface 0 count).slot? channel =
      interface.fifo? script channel := by
  simp only [Core.slot?, Core.withChannels, fresh, List.append_nil, lookup_slots]
  simp [inside]

theorem firstUnattached?_eq_none_iff {script : Script} {interface : Interface} {channels : Nat} :
    firstUnattached? script interface channels = none ↔
      ∀ channel < channels, attachable script interface channel = true := by
  simp [firstUnattached?, List.find?_eq_none]

theorem firstUnattached?_eq_some_iff {script : Script} {interface : Interface}
    {channels channel : Nat} :
    firstUnattached? script interface channels = some channel ↔
      channel < channels ∧ attachable script interface channel = false ∧
        ∀ earlier < channel, attachable script interface earlier = true := by
  simp only [firstUnattached?, List.find?_range_eq_some, List.mem_range, Bool.not_eq_true',
    Bool.not_not]
  exact and_left_comm

/-- A fresh core takes every channel if all of them are attachable. -/
theorem attachFrom_all {script : Script} {interface : Interface} (core : Core) {channels : Nat}
    (fresh : core.slots = []) (inside : channels ≤ core.params.channels)
    (all : firstUnattached? script interface channels = none) :
    attachFrom script interface core 0 channels =
      ⟨attachNotes 0 channels, .done (core.withChannels script interface 0 channels)⟩ := by
  have each := firstUnattached?_eq_none_iff.mp all
  have attached := attachFrom_ready script interface core 0 channels 0 (by simp [fresh])
    (by omega) (fun channel _ upper => each channel (by omega))
  simpa [attachFrom, Attempt.after] using attached

/-- A fresh core is released at the first channel that is not attachable, with the channels before
it attached. -/
theorem attachFrom_first {script : Script} {interface : Interface} (core : Core)
    {channels channel : Nat}
    (fresh : core.slots = []) (inside : channels ≤ core.params.channels)
    (first : firstUnattached? script interface channels = some channel) :
    attachFrom script interface core 0 channels =
      ⟨attachNotes 0 channel ++
          [.logged (.fifoNotAttached channel), .event (.coreReleased channel)],
        .failed (attachError script interface channel)⟩ := by
  obtain ⟨bound, refused, earlier⟩ := firstUnattached?_eq_some_iff.mp first
  obtain ⟨rest, total⟩ : ∃ rest, channels = channel + (rest + 1) :=
    ⟨channels - channel - 1, by omega⟩
  have each : ∀ attached, 0 ≤ attached → attached < 0 + channel →
      attachable script interface attached = true :=
    fun attached _ upper => earlier attached (by omega)
  have attached := attachFrom_ready script interface core 0 channel (rest + 1) (by simp [fresh])
    (by omega) each
  have count := attachedCount_withChannels script interface core 0 channel each
  have empty : core.attachedCount = 0 := by simp [Core.attachedCount, fresh]
  rw [total, attached, Nat.zero_add, attachFrom]
  cases found : interface.fifo? script channel with
  | none =>
      simp [Attempt.after, Core.released, count, empty, attachError, found]
  | some fifo =>
      have rejected : script.rejectedFifo = some channel := by
        simpa [attachable, found] using refused
      simp [Attempt.after, Core.attach, Core.released, count, empty, attachError, found, rejected,
        rejection]

theorem attachFrom_ofCore (script : Script) (interface : Interface) (core : Core)
    (channel count : Nat) :
    ∀ event ∈ (attachFrom script interface core channel count).trace.events,
      event.ofCore = true := by
  induction count generalizing core channel with
  | zero => simp [attachFrom]
  | succ count ih =>
      rw [attachFrom]
      split
      next missing => simp [Core.released, Event.ofCore]
      next fifo found =>
        split
        next fault refused => simp [Core.released, Event.ofCore]
        next attached taken =>
          intro event member
          simp only [Trace.events_event_cons, Trace.events_logged_cons, List.mem_cons] at member
          rcases member with first | later
          · subst event
            rfl
          · exact ih attached (channel + 1) event later

end Pipeline

end Transceiver
