import Transceiver.Pipeline.Bench
import Transceiver.Proofs.Pipeline.Stages

/-!
What a step of the bench can do. Only writes, reads and requests for a queue touch the queues and
the handles; every other step leaves them, and does one of few things to the interface.
-/

namespace Transceiver

def Event.ofInterface : Event → Bool
  | interfaceBuilt _ _ | interfaceInitialized _ | interfaceReleased => true
  | _ => false

theorem Event.ofInterface_of_ofCore {event : Event} (core : event.ofCore = true) :
    event.ofInterface = false := by
  cases event with
  | coreBuilt | coreInitialized | fifoAttached | coreReleased => rfl
  | _ => cases core

namespace Pipeline

def Bench.interface? (bench : Bench) : Option Interface :=
  match bench.level with
  | .interface _ interface | .core _ interface _ => some interface
  | _ => none

structure Frames (bench next : Bench) : Prop where
  script : next.script = bench.script
  used : next.used = bench.used
  held : next.held = bench.held

inductive Turn (bench next : Bench) (events : List Event) : Prop
  | kept (tables : next.tables = bench.tables) (interface : next.interface? = bench.interface?)
      (silent : ∀ event ∈ events, event.ofInterface = false)
  | mounted (interface : Interface) (kind : InterfaceKind) (tables : next.tables = bench.tables)
      (stands : next.interface? = some interface) (bare : interface.table = none)
      (left : events = [.interfaceBuilt kind interface.channels])
  | built (interface : Interface) (kind : InterfaceKind) (topology : Topology)
      (tables : next.tables = bench.tables + 1) (stands : next.interface? = some interface)
      (table : interface.table = some bench.tables)
      (left : events = [.interfaceBuilt kind interface.channels, .interfaceInitialized topology])
  | initialized (interface : Interface) (topology : Topology)
      (tables : next.tables = bench.tables + 1) (before : bench.interface? = some interface)
      (stands : next.interface? = some { interface with table := some bench.tables })
      (left : events = [.interfaceInitialized topology])
  | dismounted (tables : next.tables = bench.tables) (gone : next.interface? = none)
      (left : events = [.interfaceReleased] ∨
        ∃ kind channels, events = [.interfaceBuilt kind channels, .interfaceReleased])

structure Effect (bench next : Bench) (events : List Event) : Prop where
  frames : Frames bench next
  turn : Turn bench next events

def Step.handles : Step → Bool
  | .write _ _ | .read _ | .receiveFifo _ => true
  | _ => false

section Stages

variable (script : Script)

theorem setUp_cases (interface : Interface) (topology : Topology) (table : Nat) :
    (interface.setUp script topology table).outcome =
          .done { interface with table := some table } ∧
        (interface.setUp script topology table).trace.events =
          [.interfaceInitialized topology] ∨
      (∀ ready, (interface.setUp script topology table).outcome ≠ .done ready) ∧
        (interface.setUp script topology table).trace.events = [] := by
  unfold Interface.setUp
  split
  · exact .inr ⟨by simp, rfl⟩
  · split
    · exact .inl ⟨rfl, rfl⟩
    · exact .inr ⟨by simp, rfl⟩

theorem buildInterface_cases (config : Config) (code table : Nat) :
    (∃ interface kind topology,
        (buildInterface script config code table).outcome = .done interface ∧
          interface.table = some table ∧
          (buildInterface script config code table).trace.events =
            [.interfaceBuilt kind interface.channels, .interfaceInitialized topology]) ∨
      (∀ interface, (buildInterface script config code table).outcome ≠ .done interface) ∧
        ((buildInterface script config code table).trace.events = [] ∨
          ∃ kind channels, (buildInterface script config code table).trace.events =
            [.interfaceBuilt kind channels, .interfaceReleased]) := by
  unfold buildInterface
  split
  next unknown => exact .inr ⟨by simp, .inl rfl⟩
  next topology known =>
    have cases := setUp_cases script (interfaceFor config topology) topology table
    simp only
    generalize (interfaceFor config topology).setUp script topology table = attempt at cases
    obtain ⟨notes, outcome⟩ := attempt
    rcases cases with ⟨done, left⟩ | ⟨undone, left⟩
    · simp only at done left
      subst outcome
      exact .inl ⟨{ interfaceFor config topology with table := some table }, topology.kind,
        topology, rfl, rfl, by simp [left, interfaceFor]⟩
    · simp only at undone left
      cases outcome with
      | done ready => exact absurd rfl (undone ready)
      | failed fault =>
          exact .inr ⟨by simp, .inr ⟨topology.kind, topology.width config.channels,
            by simp [left, interfaceFor]⟩⟩
      | overflow =>
          exact .inr ⟨by simp, .inr ⟨topology.kind, topology.width config.channels,
            by simp [left, interfaceFor]⟩⟩

theorem negotiate_silent (config : Config) (device : Device) :
    ∀ event ∈ (negotiate script config device).trace.events, event.ofInterface = false := by
  cases opens : script.failOpen with
  | true => simp [negotiate_failed script config device opens, Event.ofInterface]
  | false => simp [negotiate_done script config device opens, Event.ofInterface]

end Stages

namespace Bench

theorem interface?_of_interface {bench : Bench} {device : Device} {interface : Interface}
    (level : bench.level = .interface device interface) : bench.interface? = some interface := by
  simp only [interface?, level]

theorem interface?_of_core {bench : Bench} {device : Device} {interface : Interface} {core : Core}
    (level : bench.level = .core device interface core) : bench.interface? = some interface := by
  simp only [interface?, level]

theorem frames_refl (bench : Bench) : Frames bench bench :=
  ⟨rfl, rfl, rfl⟩

theorem turn_idle (bench : Bench) : Turn bench bench [] :=
  .kept rfl rfl (by simp)

theorem effect_idle (bench : Bench) : Effect bench bench [] :=
  ⟨bench.frames_refl, bench.turn_idle⟩

theorem effect_silent {bench : Bench} {events : List Event}
    (silent : ∀ event ∈ events, event.ofInterface = false) : Effect bench bench events :=
  ⟨bench.frames_refl, .kept rfl rfl silent⟩

/-- A step to a level with the same interface. -/
theorem effect_atLevel {bench : Bench} {level : Level} {events : List Event}
    (interface : (bench.atLevel level).interface? = bench.interface?)
    (silent : ∀ event ∈ events, event.ofInterface = false) :
    Effect bench (bench.atLevel level) events :=
  ⟨⟨rfl, rfl, rfl⟩, .kept rfl interface silent⟩

theorem effect_drop (bench : Bench) :
    Effect bench bench.drop.2 bench.drop.1.trace.events := by
  cases level : bench.level with
  | outside =>
      simp only [drop, level]
      exact bench.effect_idle
  | device device =>
      simp only [drop, level]
      exact effect_atLevel (by simp [interface?, level, atLevel]) (by simp [Event.ofInterface])
  | interface device interface =>
      simp only [drop, level]
      exact ⟨⟨rfl, rfl, rfl⟩, .dismounted rfl rfl (.inl rfl)⟩
  | core device interface core =>
      simp only [drop, level]
      exact effect_atLevel (by simp [interface?, level, atLevel])
        (by simp [Core.released, Event.ofInterface])

theorem effect_stepOutside {bench : Bench} (level : bench.level = .outside) (step : Step) :
    Effect bench (bench.stepOutside step).2 (bench.stepOutside step).1.trace.events := by
  cases step with
  | makeDevice | device =>
      exact effect_atLevel (by simp [interface?, level, atLevel])
        (by simp [stepOutside, makeDevice, Event.ofInterface])
  | _ => exact bench.effect_idle

theorem effect_stepDevice {bench : Bench} {device : Device} (level : bench.level = .device device)
    (step : Step) :
    Effect bench (bench.stepDevice device step).2
      (bench.stepDevice device step).1.trace.events := by
  have bare : bench.interface? = none := by simp only [interface?, level]
  cases step with
  | openDevice args reference swapChannels =>
      simp only [stepDevice]
      split
      all_goals exact effect_silent (by simp [Device.openWith, Event.ofInterface])
  | negotiate config =>
      simp only [stepDevice]
      split
      all_goals exact effect_silent (negotiate_silent bench.script config device)
  | buildInterface code config =>
      simp only [stepDevice]
      rcases buildInterface_cases bench.script config code bench.tables with
        ⟨interface, kind, topology, done, table, left⟩ | ⟨undone, left⟩
      · simp only [done]
        exact ⟨⟨rfl, rfl, rfl⟩, .built interface kind topology rfl rfl table left⟩
      · have unbuilt : Effect bench bench
            (buildInterface bench.script config code bench.tables).trace.events := by
          rcases left with nothing | released
          · rw [nothing]
            exact bench.effect_idle
          · exact ⟨bench.frames_refl, .dismounted rfl bare (.inr released)⟩
        split
        next interface done => exact absurd done (undone interface)
        next => exact unbuilt
        next => exact unbuilt
  | interface kind txRate rxRate channels =>
      exact ⟨⟨rfl, rfl, rfl⟩, .mounted { kind, txRate, rxRate, channels } kind rfl rfl rfl rfl⟩
  | _ => exact bench.effect_idle

theorem effect_stepInterface {bench : Bench} {device : Device} {interface : Interface}
    (level : bench.level = .interface device interface) (step : Step)
    (other : step.handles = false) :
    Effect bench (bench.stepInterface device interface step).2
      (bench.stepInterface device interface step).1.trace.events := by
  have mounted := interface?_of_interface level
  cases step with
  | initInterface topology =>
      simp only [stepInterface]
      rcases setUp_cases bench.script interface topology bench.tables with
        ⟨done, left⟩ | ⟨undone, left⟩
      · simp only [done]
        exact ⟨⟨rfl, rfl, rfl⟩, .initialized interface topology rfl mounted rfl left⟩
      · split
        next ready done => exact absurd done (undone ready)
        next => exact effect_silent (by simp [left])
        next => exact effect_silent (by simp [left])
  | assemble config =>
      have silent : ∀ event ∈ (Pipeline.assemble bench.script config interface).trace.events,
          event.ofInterface = false :=
        fun event member =>
          Event.ofInterface_of_ofCore (assemble_ofCore bench.script config interface event member)
      simp only [stepInterface]
      split
      · exact effect_atLevel mounted.symm silent
      · exact effect_silent silent
      · exact effect_silent silent
  | core params =>
      simp only [stepInterface]
      split
      · exact effect_atLevel mounted.symm (by simp [Core.construct, Event.ofInterface])
      · exact effect_silent (by simp [Core.construct, Event.ofInterface])
      · exact effect_silent (by simp [Core.construct, Event.ofInterface])
  | receiveFifo channel => cases other
  | _ => exact bench.effect_idle

theorem effect_stepCore {bench : Bench} {device : Device} {interface : Interface} {core : Core}
    (level : bench.level = .core device interface core) (step : Step)
    (other : step.handles = false) :
    Effect bench (bench.stepCore device interface core step).2
      (bench.stepCore device interface core step).1.trace.events := by
  cases step with
  | initCore settings =>
      have silent : ∀ event ∈ (Core.setUp bench.script settings).trace.events,
          event.ofInterface = false := by
        unfold Core.setUp
        split
        · simp
        · simp [Event.ofInterface]
      simp only [stepCore]
      split
      all_goals exact effect_silent silent
  | attach handle channel =>
      simp only [stepCore]
      split
      · exact bench.effect_idle
      · split
        · exact bench.effect_idle
        · exact effect_atLevel (interface?_of_core level).symm (by simp [Event.ofInterface])
  | receiveFifo channel => cases other
  | _ => exact bench.effect_idle

theorem effect_step (bench : Bench) (step : Step) (other : step.handles = false) :
    Effect bench (bench.step step).2 (bench.step step).1.trace.events := by
  cases step with
  | drop => exact bench.effect_drop
  | write | read | receiveFifo => cases other
  | _ =>
      cases level : bench.level with
      | outside =>
          simp only [Bench.step, level]
          exact effect_stepOutside level _
      | device device =>
          simp only [Bench.step, level]
          exact effect_stepDevice level _
      | interface device interface =>
          simp only [Bench.step, level]
          exact effect_stepInterface level _ other
      | core device interface core =>
          simp only [Bench.step, level]
          exact effect_stepCore level _ other

end Bench

end Pipeline

end Transceiver
