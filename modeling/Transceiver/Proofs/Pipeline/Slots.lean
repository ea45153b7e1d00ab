import Mathlib.Data.Finset.Card
import Mathlib.Data.Finset.Range
import Transceiver.Proofs.Pipeline.Wiring

/-!
The slots of a core against the events it leaves. A channel is attached as often as one likes, with
any queue; a refusal leaves everything as it was. What the core reports when it is let go is counted
from its slots, and comes to the number of channels that were attached since it was built.
-/

namespace Transceiver

def Event.boundsCore : Event → Bool
  | coreBuilt _ | coreReleased _ => true
  | _ => false

structure SinceBuilt (params : CoreParams) (since events : List Event) : Prop where
  built : ∃ earlier, events = earlier ++ .coreBuilt params :: since
  within : ∀ event ∈ since, event.boundsCore = false

def attachedChannels (events : List Event) : Finset Nat :=
  (events.filterMap Event.attached?).toFinset

theorem SinceBuilt.concat {params : CoreParams} {since events : List Event}
    (built : SinceBuilt params since events) {event : Event} (within : event.boundsCore = false) :
    SinceBuilt params (since ++ [event]) (events ++ [event]) := by
  obtain ⟨⟨earlier, rfl⟩, rest⟩ := built
  refine ⟨⟨earlier, by simp⟩, ?_⟩
  intro other member
  rcases List.mem_append.mp member with old | new
  · exact rest other old
  · rw [List.mem_singleton.mp new, within]

namespace Pipeline

namespace Core

def Descending (slots : List (Nat × FifoId)) : Prop :=
  slots.Pairwise fun higher lower => lower.1 < higher.1

theorem mem_putSlot {slots : List (Nat × FifoId)} {channel : Nat} {fifo : FifoId}
    {slot : Nat × FifoId} (member : slot ∈ putSlot channel fifo slots) :
    slot = (channel, fifo) ∨ slot ∈ slots := by
  induction slots with
  | nil => exact .inl (List.mem_singleton.mp member)
  | cons first lower ih =>
      rw [putSlot] at member
      split at member
      · exact List.mem_cons.mp member
      · split at member
        · rcases List.mem_cons.mp member with new | old
          · exact .inl new
          · exact .inr (List.mem_cons_of_mem first old)
        · rcases List.mem_cons.mp member with same | rest
          · exact .inr (same ▸ List.mem_cons_self)
          · rcases ih rest with new | old
            · exact .inl new
            · exact .inr (List.mem_cons_of_mem first old)

theorem descending_putSlot {slots : List (Nat × FifoId)} (ordered : Descending slots)
    (channel : Nat) (fifo : FifoId) : Descending (putSlot channel fifo slots) := by
  induction slots with
  | nil => exact List.pairwise_singleton _ _
  | cons first lower ih =>
      obtain ⟨below, rest⟩ := List.pairwise_cons.mp ordered
      rw [putSlot]
      split
      next higher =>
        refine List.pairwise_cons.mpr ⟨?_, ordered⟩
        intro slot member
        rcases List.mem_cons.mp member with rfl | later
        · exact higher
        · exact lt_trans (below slot later) higher
      next notHigher =>
        split
        next same => exact List.pairwise_cons.mpr ⟨same ▸ below, rest⟩
        next differs =>
          refine List.pairwise_cons.mpr ⟨?_, ih rest⟩
          intro slot member
          rcases mem_putSlot member with rfl | old
          · show channel < first.1
            omega
          · exact below slot old

theorem lookup_slot_cons (slot : Nat × FifoId) (lower : List (Nat × FifoId)) (channel : Nat) :
    (slot :: lower).lookup channel =
      if channel = slot.1 then some slot.2 else lower.lookup channel := by
  by_cases same : channel = slot.1
  · rw [List.lookup_cons, beq_iff_eq.mpr same, if_pos same]
  · rw [List.lookup_cons, beq_false_of_ne same, if_neg same]

theorem isSome_lookup_iff (slots : List (Nat × FifoId)) (channel : Nat) :
    (slots.lookup channel).isSome = true ↔ channel ∈ slots.map Prod.fst := by
  induction slots with
  | nil => simp
  | cons slot lower ih =>
      rw [lookup_slot_cons, List.map_cons, List.mem_cons, ← ih]
      split
      next same => simp [same]
      next differs => simp [differs]

theorem lookup_putSlot (slots : List (Nat × FifoId)) (channel other : Nat) (fifo : FifoId) :
    (putSlot channel fifo slots).lookup other =
      if other = channel then some fifo else slots.lookup other := by
  induction slots with
  | nil => exact lookup_slot_cons (channel, fifo) [] other
  | cons first lower ih =>
      rw [putSlot]
      split
      · exact lookup_slot_cons (channel, fifo) (first :: lower) other
      · split
        next same =>
          rw [lookup_slot_cons, lookup_slot_cons, same]
          split
          · rfl
          · rfl
        next differs =>
          rw [lookup_slot_cons, lookup_slot_cons, ih]
          by_cases taken : other = first.1
          · rw [taken, if_pos rfl, if_neg differs, if_pos rfl]
          · rw [if_neg taken, if_neg taken]

/-- A slot is taken once: another queue for its channel replaces the first. -/
theorem length_putSlot {slots : List (Nat × FifoId)} (ordered : Descending slots) (channel : Nat)
    (fifo : FifoId) :
    (putSlot channel fifo slots).length =
      if (slots.lookup channel).isSome then slots.length else slots.length + 1 := by
  induction slots with
  | nil => rfl
  | cons first lower ih =>
      obtain ⟨below, rest⟩ := List.pairwise_cons.mp ordered
      rw [putSlot, lookup_slot_cons]
      split
      next higher =>
        have free : lower.lookup channel = none := by
          refine List.lookup_eq_none_iff.mpr ?_
          intro slot member
          exact bne_iff_ne.mpr (ne_of_gt (lt_trans (below slot member) higher))
        rw [if_neg (ne_of_gt higher), free]
        rfl
      · split
        next same =>
          rw [if_pos same.symm]
          rfl
        next differs =>
          rw [if_neg (Ne.symm differs), List.length_cons, ih rest]
          split
          · rfl
          · rfl

theorem slot?_withSlot (core : Core) (channel other : Nat) (fifo : FifoId) :
    (core.withSlot channel fifo).slot? other =
      if other = channel then some fifo else core.slot? other :=
  lookup_putSlot core.slots channel other fifo

structure Holds (core : Core) (since : List Event) : Prop where
  ordered : Descending core.slots
  inside : ∀ slot ∈ core.slots, slot.1 < core.params.channels
  filled : ∀ channel, (core.slot? channel).isSome = true ↔ channel ∈ attachedChannels since

theorem Holds.card {core : Core} {since : List Event} (holds : core.Holds since) :
    core.attachedCount = (attachedChannels since).card := by
  have once : (core.slots.map Prod.fst).Nodup :=
    List.pairwise_map.mpr (holds.ordered.imp ne_of_gt)
  have same : attachedChannels since = (core.slots.map Prod.fst).toFinset := by
    ext channel
    rw [← holds.filled, List.mem_toFinset, slot?, isSome_lookup_iff]
  rw [same, List.toFinset_card_of_nodup once, List.length_map, attachedCount]

theorem Holds.card_le {core : Core} {since : List Event} (holds : core.Holds since) :
    core.attachedCount ≤ core.params.channels := by
  have below : attachedChannels since ⊆ Finset.range core.params.channels := by
    intro channel member
    have filled := (holds.filled channel).mpr member
    rw [slot?, isSome_lookup_iff] at filled
    obtain ⟨slot, taken, rfl⟩ := List.mem_map.mp filled
    exact Finset.mem_range.mpr (holds.inside slot taken)
  rw [holds.card, ← Finset.card_range core.params.channels]
  exact Finset.card_le_card below

theorem holds_fresh (params : CoreParams) : ({ params } : Core).Holds [] :=
  ⟨List.Pairwise.nil, by simp, by simp [slot?, attachedChannels]⟩

theorem Holds.other {core : Core} {since : List Event} (holds : core.Holds since) {event : Event}
    (other : event.attached? = none) : core.Holds (since ++ [event]) := by
  refine ⟨holds.ordered, holds.inside, ?_⟩
  intro channel
  rw [holds.filled]
  simp [attachedChannels, other]

theorem Holds.withSlot {core : Core} {since : List Event} (holds : core.Holds since)
    {channel : Nat} (inside : channel < core.params.channels) (fifo : FifoId) :
    (core.withSlot channel fifo).Holds (since ++ [.fifoAttached channel]) := by
  constructor
  · exact descending_putSlot holds.ordered channel fifo
  · intro slot member
    rcases mem_putSlot member with rfl | old
    · exact inside
    · exact holds.inside slot old
  · intro other
    have before := holds.filled other
    rw [slot?_withSlot]
    by_cases same : other = channel
    · simp [attachedChannels, Event.attached?, same]
    · rw [if_neg same, before]
      simp [attachedChannels, Event.attached?, same]

end Core

def Counted (events : List Event) (count : Nat) : Prop :=
  ∃ params since, SinceBuilt params since events ∧ count = (attachedChannels since).card ∧
    count ≤ params.channels

structure Tallied (events : List Event) (core? : Option Core) : Prop where
  standing : ∀ core, core? = some core →
    ∃ since, SinceBuilt core.params since events ∧ core.Holds since
  released : ∀ before count after, events = before ++ .coreReleased count :: after →
    Counted before count

def Outcome.value? {ε α : Type} : Outcome ε α → Option α
  | done value => some value
  | _ => none

namespace Tallied

section Events

variable {events : List Event} {core? : Option Core} (tallied : Tallied events core?)
include tallied

theorem concat {event : Event} {next? : Option Core}
    (standing : ∀ core, next? = some core →
      ∃ since, SinceBuilt core.params since (events ++ [event]) ∧ core.Holds since)
    (released : ∀ count, event = .coreReleased count → Counted events count) :
    Tallied (events ++ [event]) next? := by
  refine ⟨standing, ?_⟩
  intro before count after split
  rcases List.eq_nil_or_concat after with rfl | ⟨earlier, last, rfl⟩
  · obtain ⟨rfl, same⟩ := List.append_inj' split rfl
    exact released count (List.singleton_inj.mp same)
  · rw [List.concat_eq_append, ← List.cons_append, ← List.append_assoc] at split
    exact tallied.released before count earlier (List.append_inj' split rfl).1

theorem aside {event : Event} (within : event.boundsCore = false)
    (other : event.attached? = none) : Tallied (events ++ [event]) core? := by
  refine tallied.concat ?_ ?_
  · intro core live
    obtain ⟨since, built, holds⟩ := tallied.standing core live
    exact ⟨since ++ [event], built.concat within, holds.other other⟩
  · rintro count rfl
    cases within

theorem asides {later : List Event} (outside : ∀ event ∈ later, event.ofCore = false) :
    Tallied (events ++ later) core? := by
  induction later generalizing events with
  | nil =>
      rw [List.append_nil]
      exact tallied
  | cons event rest ih =>
      have first := outside event List.mem_cons_self
      have next : Tallied (events ++ [event]) core? := by
        cases event with
        | coreBuilt | coreInitialized | fifoAttached | coreReleased => cases first
        | _ => exact tallied.aside rfl rfl
      rw [List.append_cons]
      exact ih next fun other member => outside other (List.mem_cons_of_mem event member)

theorem forgotten : Tallied events none :=
  ⟨by rintro core ⟨⟩, tallied.released⟩

theorem built (params : CoreParams) :
    Tallied (events ++ [.coreBuilt params]) (some { params }) := by
  refine tallied.concat ?_ ?_
  · rintro core ⟨⟩
    exact ⟨[], ⟨⟨events, rfl⟩, by simp⟩, Core.holds_fresh params⟩
  · rintro count ⟨⟩

end Events

variable {events : List Event} {core : Core} (tallied : Tallied events (some core))
include tallied

theorem attached {channel : Nat} (inside : channel < core.params.channels) (fifo : FifoId) :
    Tallied (events ++ [.fifoAttached channel]) (some (core.withSlot channel fifo)) := by
  obtain ⟨since, built, holds⟩ := tallied.standing core rfl
  refine tallied.concat ?_ ?_
  · rintro attached ⟨⟩
    exact ⟨_, built.concat rfl, holds.withSlot inside fifo⟩
  · rintro count ⟨⟩

theorem letGo : Tallied (events ++ [.coreReleased core.attachedCount]) none := by
  refine tallied.concat (by rintro core ⟨⟩) ?_
  rintro count ⟨⟩
  obtain ⟨since, built, holds⟩ := tallied.standing core rfl
  exact ⟨core.params, since, built, holds.card, holds.card_le⟩

end Tallied

theorem attach_eq_ok_iff {script : Script} {core attached : Core} {fifo : FifoId} {channel : Nat} :
    core.attach script fifo channel = .ok attached ↔
      script.rejectedFifo ≠ some channel ∧ channel < core.params.channels ∧
        attached = core.withSlot channel fifo := by
  unfold Core.attach
  split
  next refused => simp [refused]
  next accepted =>
    split
    next inside => simp [accepted, inside, eq_comm]
    next beyond => simp [beyond]

theorem tallied_attachFrom (script : Script) (interface : Interface) {core : Core}
    {events : List Event} (tallied : Tallied events (some core)) (channel count : Nat) :
    Tallied (events ++ (attachFrom script interface core channel count).trace.events)
      (attachFrom script interface core channel count).outcome.value? := by
  induction count generalizing core events channel with
  | zero => simpa [attachFrom, Outcome.value?] using tallied
  | succ count ih =>
      rw [attachFrom]
      split
      · exact tallied.letGo
      next fifo found =>
        split
        · exact tallied.letGo
        next attached taken =>
          obtain ⟨_, inside, rfl⟩ := attach_eq_ok_iff.mp taken
          have rest := ih (tallied.attached inside fifo) (channel + 1)
          rw [List.append_assoc] at rest
          exact rest

theorem tallied_assemble (script : Script) (config : Config) (interface : Interface)
    {events : List Event} (tallied : Tallied events none) :
    Tallied (events ++ (assemble script config interface).trace.events)
      (assemble script config interface).outcome.value? := by
  have built := tallied.built config.coreParams
  cases fits : tableFits config.coreParams.channels with
  | false =>
      simpa [assemble, Core.construct, fits, Outcome.value?] using built.forgotten
  | true =>
      cases fails : script.failCore with
      | true =>
          have released := built.letGo
          rw [List.append_assoc] at released
          simpa [assemble, Core.construct, fits, Core.setUp, fails, Outcome.value?, Core.released]
            using released
      | false =>
          have initialized : Tallied (events ++ [.coreBuilt config.coreParams] ++
              [.coreInitialized config.coreSettings]) (some { params := config.coreParams }) :=
            built.aside rfl rfl
          have attachment := tallied_attachFrom script interface initialized 0 config.channels
          simpa [assemble, Core.construct, fits, Core.setUp, fails] using attachment

def outOfRange (channel channels : Nat) : Fault :=
  .invalidParameter ("channel " ++ toString channel ++ " out of range (core has " ++
    toString channels ++ ")")

namespace Bench

def core? (bench : Bench) : Option Core :=
  match bench.level with
  | .core _ _ core => some core
  | _ => none

structure Serves (bench : Bench) (core : Core) : Prop where
  channels : bench.step .channelCount = ({ answer := .channelCount core.params.channels }, bench)
  initialized : ∀ settings, bench.script.failCore = false →
    bench.step (.initCore settings) =
      ({ answer := .done, trace := [.event (.coreInitialized settings)] }, bench)
  uninitialized : ∀ settings, bench.script.failCore = true →
    bench.step (.initCore settings) = ({ answer := .fault coreFault }, bench)
  accepts : ∀ handle id channel, bench.held[handle]? = some id →
    ((bench.step (.attach handle channel)).1.answer = .done ↔
      bench.script.rejectedFifo ≠ some channel ∧ channel < core.params.channels)
  rejects : ∀ handle id channel, bench.held[handle]? = some id →
    bench.script.rejectedFifo = some channel →
      (bench.step (.attach handle channel)).1.answer = .fault (rejection channel)
  misses : ∀ handle id channel, bench.held[handle]? = some id →
    bench.script.rejectedFifo ≠ some channel → core.params.channels ≤ channel →
      (bench.step (.attach handle channel)).1.answer =
        .fault (outOfRange channel core.params.channels)
  refused : ∀ handle channel, (bench.step (.attach handle channel)).1.answer ≠ .done →
    (bench.step (.attach handle channel)).1.trace = [] ∧
      (bench.step (.attach handle channel)).2 = bench
  attached : ∀ handle id channel, bench.held[handle]? = some id →
    (bench.step (.attach handle channel)).1.answer = .done →
      (bench.step (.attach handle channel)).1.trace = [.event (.fifoAttached channel)] ∧
        ∃ next, (bench.step (.attach handle channel)).2.core? = some next ∧
          next.params = core.params ∧
          (∀ other, next.slot? other = if other = channel then some id else core.slot? other) ∧
          next.attachedCount =
            if (core.slot? channel).isSome then core.attachedCount else core.attachedCount + 1

structure SlotsKept (events : List Event) (bench : Bench) : Prop where
  standing : ∀ core, bench.core? = some core → ∃ since, SinceBuilt core.params since events ∧
    (∀ channel, (core.slot? channel).isSome = true ↔ channel ∈ attachedChannels since) ∧
    core.attachedCount = (attachedChannels since).card ∧ core.attachedCount ≤ core.params.channels
  serves : ∀ core, bench.core? = some core → bench.Serves core
  released : ∀ before count after, events = before ++ .coreReleased count :: after →
    Counted before count

section Attachment

variable {bench : Bench} {device : Device} {interface : Interface} {core : Core}
  (level : bench.level = .core device interface core) (handle channel : Nat)
include level

theorem step_attach :
    bench.step (.attach handle channel) =
      match bench.held[handle]? with
      | none => ({ answer := .misplaced }, bench)
      | some id =>
          if bench.script.rejectedFifo = some channel then
            ({ answer := .fault (rejection channel) }, bench)
          else if channel < core.params.channels then
            ({ answer := .done, trace := [.event (.fifoAttached channel)] },
              bench.atLevel (.core device interface (core.withSlot channel id)))
          else ({ answer := .fault (outOfRange channel core.params.channels) }, bench) := by
  simp only [Bench.step, level, stepCore]
  cases bench.held[handle]? with
  | none => rfl
  | some id =>
      simp only [Core.attach]
      by_cases rejected : bench.script.rejectedFifo = some channel
      · rw [if_pos rejected, if_pos rejected]
        rfl
      · rw [if_neg rejected, if_neg rejected]
        by_cases inside : channel < core.params.channels
        · rw [if_pos inside, if_pos inside]
        · rw [if_neg inside, if_neg inside]
          rfl

theorem serves_of_core {since : List Event} (holds : core.Holds since) : bench.Serves core where
  channels := by simp only [Bench.step, level, stepCore]
  initialized := by
    intro settings works
    simp [Bench.step, level, stepCore, Core.setUp, works]
  uninitialized := by
    intro settings fails
    simp [Bench.step, level, stepCore, Core.setUp, fails, coreFault]
  accepts := by
    intro handle id channel found
    rw [step_attach level, found]
    by_cases rejected : bench.script.rejectedFifo = some channel
    · simp [rejected]
    · by_cases inside : channel < core.params.channels
      · simp [rejected, inside]
      · simp [rejected, inside]
  rejects := by
    intro handle id channel found rejected
    simp [step_attach level, found, rejected]
  misses := by
    intro handle id channel found accepted beyond
    simp [step_attach level, found, accepted, Nat.not_lt.mpr beyond]
  refused := by
    intro handle channel
    rw [step_attach level]
    split
    · exact fun _ => ⟨rfl, rfl⟩
    · split
      · exact fun _ => ⟨rfl, rfl⟩
      · split
        · exact fun refusal => absurd rfl refusal
        · exact fun _ => ⟨rfl, rfl⟩
  attached := by
    intro handle id channel found
    rw [step_attach level, found]
    dsimp only
    split
    · rintro ⟨⟩
    · split
      · intro _
        exact ⟨rfl, core.withSlot channel id, rfl, rfl,
          fun other => core.slot?_withSlot channel other id,
          Core.length_putSlot holds.ordered channel id⟩
      · rintro ⟨⟩

end Attachment

/-! What a step does to the core. -/

theorem core?_of_core {bench : Bench} {device : Device} {interface : Interface} {core : Core}
    (level : bench.level = .core device interface core) : bench.core? = some core := by
  simp only [core?, level]

theorem level_of_core? {bench : Bench} {core : Core} (live : bench.core? = some core) :
    ∃ device interface, bench.level = .core device interface core := by
  cases level : bench.level with
  | core device interface other =>
      rw [core?_of_core level] at live
      cases live
      exact ⟨device, interface, rfl⟩
  | _ => simp [core?, level] at live

structure Aside (bench next : Bench) (events : List Event) : Prop where
  core : next.core? = bench.core?
  outside : ∀ event ∈ events, event.ofCore = false

theorem aside_idle (bench : Bench) : Aside bench bench [] :=
  ⟨rfl, by simp⟩

theorem aside_write (bench : Bench) (handle : Nat) (vector : SampleVector) :
    Aside bench (bench.write handle vector).2 (bench.write handle vector).1.trace.events := by
  unfold write
  split
  · exact bench.aside_idle
  · split
    · exact bench.aside_idle
    · exact ⟨rfl, by simp⟩

theorem aside_read (bench : Bench) (handle : Nat) :
    Aside bench (bench.read handle).2 (bench.read handle).1.trace.events := by
  unfold read
  split
  · exact bench.aside_idle
  · exact ⟨rfl, by simp⟩

theorem aside_receiveFifo (bench : Bench) (interface : Interface) (channel : Nat) :
    Aside bench (bench.receiveFifo interface channel).2
      (bench.receiveFifo interface channel).1.trace.events := by
  unfold receiveFifo
  split
  · exact bench.aside_idle
  · exact ⟨rfl, by simp⟩

theorem negotiate_outside (script : Script) (config : Config) (device : Device) :
    ∀ event ∈ (negotiate script config device).trace.events, event.ofCore = false := by
  cases opens : script.failOpen with
  | true => simp [negotiate_failed script config device opens, Event.ofCore]
  | false => simp [negotiate_done script config device opens, Event.ofCore]

theorem buildInterface_outside (script : Script) (config : Config) (code table : Nat) :
    ∀ event ∈ (buildInterface script config code table).trace.events, event.ofCore = false := by
  rcases buildInterface_cases script config code table with
    ⟨interface, kind, topology, _, _, left⟩ | ⟨_, left | ⟨kind, channels, left⟩⟩
  · simp [left, Event.ofCore]
  · simp [left]
  · simp [left, Event.ofCore]

theorem aside_stepOutside {bench : Bench} (level : bench.level = .outside) (step : Step) :
    Aside bench (bench.stepOutside step).2 (bench.stepOutside step).1.trace.events := by
  cases step with
  | makeDevice | device =>
      exact ⟨by simp [core?, level, stepOutside, atLevel],
        by simp [stepOutside, makeDevice, Event.ofCore]⟩
  | _ => exact bench.aside_idle

theorem aside_stepDevice {bench : Bench} {device : Device} (level : bench.level = .device device)
    (step : Step) :
    Aside bench (bench.stepDevice device step).2
      (bench.stepDevice device step).1.trace.events := by
  cases step with
  | openDevice args reference swapChannels =>
      simp only [stepDevice]
      split
      all_goals exact ⟨rfl, by simp [Device.openWith, Event.ofCore]⟩
  | negotiate config =>
      simp only [stepDevice]
      split
      all_goals exact ⟨rfl, negotiate_outside bench.script config device⟩
  | buildInterface code config =>
      have outside := buildInterface_outside bench.script config code bench.tables
      simp only [stepDevice]
      split
      · exact ⟨by simp [core?, level], outside⟩
      · exact ⟨rfl, outside⟩
      · exact ⟨rfl, outside⟩
  | interface kind txRate rxRate channels =>
      exact ⟨by simp [core?, level, stepDevice, atLevel], by simp [stepDevice, Event.ofCore]⟩
  | _ => exact bench.aside_idle

theorem tallied_aside {bench next : Bench} {past later : List Event}
    (tallied : Tallied past bench.core?) (aside : Aside bench next later) :
    Tallied (past ++ later) next.core? := by
  rw [aside.core]
  exact tallied.asides aside.outside

theorem tallied_drop {bench : Bench} {past : List Event} (tallied : Tallied past bench.core?) :
    Tallied (past ++ bench.drop.1.trace.events) bench.drop.2.core? := by
  cases level : bench.level with
  | outside =>
      simp only [drop, level]
      exact tallied_aside tallied bench.aside_idle
  | device | interface =>
      refine tallied_aside tallied ⟨?_, ?_⟩
      · simp [core?, drop, level, atLevel]
      · simp [drop, level, Event.ofCore]
  | core device interface core =>
      rw [core?_of_core level] at tallied
      simp only [drop, level]
      exact tallied.letGo

theorem tallied_stepInterface {bench : Bench} {device : Device} {interface : Interface}
    (level : bench.level = .interface device interface) {past : List Event}
    (tallied : Tallied past bench.core?) (step : Step) :
    Tallied (past ++ (bench.stepInterface device interface step).1.trace.events)
      (bench.stepInterface device interface step).2.core? := by
  have bare : bench.core? = none := by simp only [core?, level]
  cases step with
  | initInterface topology =>
      refine tallied_aside tallied ?_
      simp only [stepInterface]
      rcases setUp_cases bench.script interface topology bench.tables with
        ⟨done, left⟩ | ⟨undone, left⟩
      · simp only [done]
        exact ⟨by simp [core?, level], by simp [left, Event.ofCore]⟩
      · split
        next ready done => exact absurd done (undone ready)
        next => exact ⟨rfl, by simp [left]⟩
        next => exact ⟨rfl, by simp [left]⟩
  | assemble config =>
      rw [bare] at tallied
      have assembled := tallied_assemble bench.script config interface tallied
      simp only [stepInterface]
      split
      next core done =>
        rw [done] at assembled
        exact assembled
      next error failed =>
        rw [failed] at assembled
        rw [bare]
        exact assembled
      next overflow =>
        rw [overflow] at assembled
        rw [bare]
        exact assembled
  | core params =>
      rw [bare] at tallied
      have built := tallied.built params
      simp only [stepInterface, Core.construct]
      by_cases fits : tableFits params.channels = true
      · rw [if_pos fits]
        exact built
      · rw [if_neg fits]
        rw [bare]
        exact built.forgotten
  | receiveFifo channel => exact tallied_aside tallied (bench.aside_receiveFifo interface channel)
  | _ => exact tallied_aside tallied bench.aside_idle

theorem tallied_stepCore {bench : Bench} {device : Device} {interface : Interface} {core : Core}
    (level : bench.level = .core device interface core) {past : List Event}
    (tallied : Tallied past bench.core?) (step : Step) :
    Tallied (past ++ (bench.stepCore device interface core step).1.trace.events)
      (bench.stepCore device interface core step).2.core? := by
  cases step with
  | initCore settings =>
      simp only [stepCore, Core.setUp]
      by_cases fails : bench.script.failCore = true
      · rw [if_pos fails]
        exact tallied_aside tallied bench.aside_idle
      · rw [if_neg fails]
        exact tallied.aside rfl rfl
  | attach handle channel =>
      simp only [stepCore]
      split
      · exact tallied_aside tallied bench.aside_idle
      next id found =>
        split
        · exact tallied_aside tallied bench.aside_idle
        next attached taken =>
          obtain ⟨_, inside, rfl⟩ := attach_eq_ok_iff.mp taken
          rw [core?_of_core level] at tallied
          exact tallied.attached inside id
  | receiveFifo channel => exact tallied_aside tallied (bench.aside_receiveFifo interface channel)
  | _ => exact tallied_aside tallied bench.aside_idle

theorem tallied_step {bench : Bench} {past : List Event} (tallied : Tallied past bench.core?)
    (step : Step) :
    Tallied (past ++ (bench.step step).1.trace.events) (bench.step step).2.core? := by
  cases step with
  | drop => exact tallied_drop tallied
  | write handle vector => exact tallied_aside tallied (bench.aside_write handle vector)
  | read handle => exact tallied_aside tallied (bench.aside_read handle)
  | _ =>
      cases level : bench.level with
      | outside =>
          simp only [Bench.step, level]
          exact tallied_aside tallied (aside_stepOutside level _)
      | device device =>
          simp only [Bench.step, level]
          exact tallied_aside tallied (aside_stepDevice level _)
      | interface device interface =>
          simp only [Bench.step, level]
          exact tallied_stepInterface level tallied _
      | core device interface core =>
          simp only [Bench.step, level]
          exact tallied_stepCore level tallied _

theorem tallied_moved {bench : Bench} {past : List Event} (tallied : Tallied past bench.core?)
    (move : Move) : Tallied (past ++ bench.events move) (bench.moved move).core? := by
  cases move with
  | step step => exact tallied_step tallied step
  | through | attached =>
      refine tallied_aside tallied ⟨?_, by simp [events]⟩
      simp only [moved]
      split
      · rfl
      · rfl

theorem tallied_run {bench : Bench} {past : List Event} (tallied : Tallied past bench.core?)
    (moves : List Move) :
    Tallied (past ++ bench.gather events moves) (moves.foldl moved bench).core? := by
  induction moves generalizing bench past with
  | nil => simpa [gather] using tallied
  | cons move rest ih =>
      rw [gather, ← List.append_assoc, List.foldl_cons]
      exact ih (tallied_moved tallied move)

end Bench

/-- From a bench with nothing on it, whatever queues it holds, any moves keep the slots of the core
and its events together. -/
theorem slots_of_moves (bench : Bench) (moves : List Move) :
    (moves.foldl Bench.moved (bench.atLevel .outside)).SlotsKept
      ((bench.atLevel .outside).gather Bench.events moves) := by
  have start : Tallied [] (bench.atLevel .outside).core? := by
    refine ⟨by rintro core ⟨⟩, ?_⟩
    intro before count after split
    simp at split
  have tallied := Bench.tallied_run start moves
  rw [List.nil_append] at tallied
  refine ⟨?_, ?_, tallied.released⟩
  · intro core live
    obtain ⟨since, built, holds⟩ := tallied.standing core live
    exact ⟨since, built, holds.filled, holds.card, holds.card_le⟩
  · intro core live
    obtain ⟨since, _, holds⟩ := tallied.standing core live
    obtain ⟨device, interface, level⟩ := Bench.level_of_core? live
    exact Bench.serves_of_core level holds

/-- A channel that is attached twice counts once, with the later queue in its slot. The refusal of a
channel comes ahead of the answer that there is no such channel. -/
theorem slots_of_moves_of_attached_twice :
    let script : Script := { rejectedFifo := some 5 }
    let params : CoreParams := Config.coreParams (Config.shipped 2)
    let moves : List Move :=
      [.step (.makeDevice (Config.shipped 2)), .step (.buildInterface 0 (Config.shipped 2)),
        .step (.receiveFifo 0), .step (.receiveFifo 1), .step (.core params),
        .step (.attach 1 1), .step (.attach 0 1)]
    let bench := Bench.reached script moves
    bench.core? = some { params, slots := [(1, ⟨0, 0⟩)] } ∧
      bench.SlotsKept (Bench.recorded script moves) ∧
      (bench.step (.attach 0 5)).1.answer = .fault (rejection 5) ∧
      (bench.step (.attach 0 2)).1.answer = .fault (outOfRange 2 2) ∧
      Bench.recorded script (moves ++ [.step .drop]) =
        Bench.recorded script moves ++ [.coreReleased 1] ∧
      Counted (Bench.recorded script moves) 1 := by
  intro script params moves bench
  have live : bench.core? = some { params, slots := [(1, ⟨0, 0⟩)] } := by decide
  have kept : bench.SlotsKept (Bench.recorded script moves) := slots_of_moves { script } moves
  have dropped := slots_of_moves { script } (moves ++ [.step .drop])
  have serves := kept.serves _ live
  have held : bench.held[0]? = some ⟨0, 0⟩ := by decide
  have released : Bench.recorded script (moves ++ [.step .drop]) =
      Bench.recorded script moves ++ [.coreReleased 1] := by decide
  exact ⟨live, kept, serves.rejects 0 _ 5 held rfl,
    serves.misses 0 _ 2 held (by decide) (by decide), released,
    dropped.released _ 1 [] released⟩

end Pipeline

end Transceiver
