import Transceiver.Proofs.Pipeline.Attachment
import Transceiver.Proofs.Pipeline.Brackets

/-!
What the steps of a bench do to the open constructions. Each event finds the components it belongs
to, and each step leads from the constructions of the components it found to those of the components
it leaves.
-/

namespace Transceiver

open Pipeline (Part)

def Event.place : Event → List Part
  | deviceMade _ => []
  | deviceOpened _ _ _ | interfaceBuilt _ _ | deviceReleased => [.device]
  | interfaceInitialized _ | coreBuilt _ | interfaceReleased => [.interface, .device]
  | coreInitialized _ | fifoAttached _ | coreReleased _ => [.core, .interface, .device]

namespace Brackets

def kinds (live : List Event) : List Part :=
  live.filterMap Event.opens

def Walks (live : List Event) : List Event → List Event → Prop
  | [], last => live = last
  | event :: rest, last =>
      kinds live = event.place ∧ ∃ next, enter live event = some next ∧ Walks next rest last

theorem Walks.append {live middle last first second : List Event} (walks : Walks live first middle)
    (follows : Walks middle second last) : Walks live (first ++ second) last := by
  induction first generalizing live with
  | nil =>
      cases walks
      exact follows
  | cons event rest ih =>
      obtain ⟨placed, next, entered, later⟩ := walks
      exact ⟨placed, next, entered, ih later⟩

theorem Walks.scan {live last events : List Event} (walks : Walks live events last) :
    scan live events = some last := by
  induction events generalizing live with
  | nil => exact congrArg some walks
  | cons event rest ih =>
      obtain ⟨_, next, entered, later⟩ := walks
      rw [Brackets.scan, entered]
      exact ih later

theorem Walks.placed {live last before after : List Event} {event : Event}
    (walks : Walks live (before ++ event :: after) last) :
    ∃ found, Brackets.scan live before = some found ∧ kinds found = event.place := by
  induction before generalizing live with
  | nil => exact ⟨live, rfl, walks.1⟩
  | cons first rest ih =>
      obtain ⟨_, next, entered, later⟩ := walks
      obtain ⟨found, scanned, placed⟩ := ih later
      exact ⟨found, by rw [Brackets.scan, entered]; exact scanned, placed⟩

theorem walks_nil (live : List Event) : Walks live [] live := rfl

theorem walks_inert {live : List Event} {event : Event} (opens : event.opens = none)
    (closes : event.closes = none) (placed : kinds live = event.place) :
    Walks live [event] live :=
  ⟨placed, live, by simp [enter, opens, closes], rfl⟩

theorem walks_opening {live : List Event} {event : Event} {part : Part}
    (opens : event.opens = some part) (placed : kinds live = event.place) :
    Walks live [event] (event :: live) :=
  ⟨placed, event :: live, by simp [enter, opens], rfl⟩

theorem walks_closing {below : List Event} {top event : Event} {part : Part}
    (opens : event.opens = none) (closes : event.closes = some part)
    (opened : top.opens = some part) (placed : kinds (top :: below) = event.place) :
    Walks (top :: below) [event] below :=
  ⟨placed, below, by simp [enter, opens, closes, opened], rfl⟩

end Brackets

namespace Pipeline

open Brackets

def Level.constructions : Level → List Event
  | .outside => []
  | .device made => [.deviceMade made.params]
  | .interface made built => [.interfaceBuilt built.kind built.channels, .deviceMade made.params]
  | .core made built assembled =>
      [.coreBuilt assembled.params, .interfaceBuilt built.kind built.channels,
        .deviceMade made.params]

def Attempt.Leads {ε α : Type} (attempt : Attempt ε α) (live : List Event)
    (reached : α → List Event) (left : List Event) : Prop :=
  match attempt.outcome with
  | .done value => Walks live attempt.trace.events (reached value)
  | .failed _ => Walks live attempt.trace.events left
  | .overflow => True

theorem Attempt.Leads.after {ε α : Type} {attempt : Attempt ε α} {live middle left : List Event}
    {reached : α → List Event} (leads : attempt.Leads middle reached left) (notes : Trace)
    (walks : Walks live notes.events middle) : (attempt.after notes).Leads live reached left := by
  obtain ⟨trace, outcome⟩ := attempt
  cases outcome with
  | done value | failed error =>
      simp only [Attempt.Leads, Attempt.after, Trace.events_append] at leads ⊢
      exact walks.append leads
  | overflow => trivial

section

variable (script : Script) {outer : List Event}

theorem leads_openWith (device : Device) (args : String) (reference : Reference)
    (swapChannels : Bool) (placed : kinds outer = [.device]) :
    (device.openWith script args reference swapChannels).Leads outer (fun _ => outer) outer := by
  have opened : Walks outer [.deviceOpened args reference swapChannels] outer :=
    walks_inert rfl rfl placed
  by_cases fails : script.failOpen = true
  · simpa [Attempt.Leads, Device.openWith, fails] using opened
  · simpa [Attempt.Leads, Device.openWith, fails] using opened

theorem leads_negotiate (config : Config) (device : Device) (placed : kinds outer = [.device]) :
    (negotiate script config device).Leads outer (fun _ => outer) outer := by
  have opened : Walks outer
      [.deviceOpened config.deviceArgs config.reference config.swapChannels] outer :=
    walks_inert rfl rfl placed
  by_cases fails : script.failOpen = true
  · simpa [Attempt.Leads, negotiate, Device.openWith, fails] using opened
  · simpa [Attempt.Leads, negotiate, Device.openWith, fails] using opened

theorem leads_setUp (interface : Interface) (topology : Topology) (table : Nat)
    (placed : kinds outer = [.device]) :
    (interface.setUp script topology table).Leads
      (.interfaceBuilt interface.kind interface.channels :: outer)
      (fun ready => .interfaceBuilt ready.kind ready.channels :: outer)
      (.interfaceBuilt interface.kind interface.channels :: outer) := by
  by_cases fails : script.failInterface = true
  · simp [Attempt.Leads, Interface.setUp, fails, walks_nil]
  · by_cases fits : tableFits interface.channels = true
    · have mounted : kinds (.interfaceBuilt interface.kind interface.channels :: outer) =
          [.interface, .device] := congrArg (Part.interface :: ·) placed
      have set : Walks (.interfaceBuilt interface.kind interface.channels :: outer)
          [.interfaceInitialized topology]
          (.interfaceBuilt interface.kind interface.channels :: outer) :=
        walks_inert rfl rfl mounted
      simpa [Attempt.Leads, Interface.setUp, fails, fits] using set
    · simp [Attempt.Leads, Interface.setUp, fails, fits]

theorem leads_buildInterface (config : Config) (code table : Nat)
    (placed : kinds outer = [.device]) :
    (buildInterface script config code table).Leads outer
      (fun built => .interfaceBuilt built.kind built.channels :: outer) outer := by
  cases known : Topology.ofCode? code with
  | none =>
      simp only [buildInterface, known]
      exact walks_nil outer
  | some topology =>
      let construction := Event.interfaceBuilt topology.kind (topology.width config.channels)
      have opened : Walks outer [construction] (construction :: outer) := walks_opening rfl placed
      have mounted : kinds (construction :: outer) = [.interface, .device] :=
        congrArg (Part.interface :: ·) placed
      by_cases fails : script.failInterface = true
      · have closed : Walks (construction :: outer) [.interfaceReleased] outer :=
          walks_closing rfl rfl rfl mounted
        simpa [Attempt.Leads, buildInterface, known, Interface.setUp, fails, interfaceFor] using
          opened.append closed
      · by_cases fits : tableFits (topology.width config.channels) = true
        · have set : Walks (construction :: outer) [.interfaceInitialized topology]
              (construction :: outer) := walks_inert rfl rfl mounted
          simpa [Attempt.Leads, buildInterface, known, Interface.setUp, fails, interfaceFor, fits]
            using opened.append set
        · simp [Attempt.Leads, buildInterface, known, Interface.setUp, fails, interfaceFor, fits]

theorem walks_released (core : Core) (mounted : kinds outer = [.interface, .device]) :
    Walks (.coreBuilt core.params :: outer) (Trace.events [core.released]) outer :=
  walks_closing rfl rfl rfl (congrArg (Part.core :: ·) mounted)

theorem params_attach {core attached : Core} {fifo : FifoId} {channel : Nat}
    (taken : core.attach script fifo channel = .ok attached) : attached.params = core.params := by
  unfold Core.attach at taken
  split at taken
  · cases taken
  · split at taken
    · cases taken
      rfl
    · cases taken

theorem leads_attachFrom (interface : Interface) (core : Core) (channel count : Nat)
    (mounted : kinds outer = [.interface, .device]) :
    (attachFrom script interface core channel count).Leads (.coreBuilt core.params :: outer)
      (fun attached => .coreBuilt attached.params :: outer) outer := by
  induction count generalizing core channel with
  | zero => exact walks_nil _
  | succ count ih =>
      rw [attachFrom]
      cases interface.fifo? script channel with
      | none => exact walks_released core mounted
      | some fifo =>
          cases taken : core.attach script fifo channel with
          | error fault =>
              simp only [taken]
              exact walks_released core mounted
          | ok attached =>
              simp only [taken]
              have same := params_attach script taken
              have others := ih attached (channel + 1)
              rw [same] at others
              have put : Walks (.coreBuilt core.params :: outer) [.fifoAttached channel]
                  (.coreBuilt core.params :: outer) :=
                walks_inert rfl rfl (congrArg (Part.core :: ·) mounted)
              exact others.after
                [.event (.fifoAttached channel), .logged (.fifoAttached channel)] put

theorem leads_assemble (config : Config) (interface : Interface)
    (mounted : kinds outer = [.interface, .device]) :
    (assemble script config interface).Leads outer
      (fun core => .coreBuilt core.params :: outer) outer := by
  have opened : Walks outer [.coreBuilt config.coreParams]
      (.coreBuilt config.coreParams :: outer) := walks_opening rfl mounted
  have placed : kinds (.coreBuilt config.coreParams :: outer) = [.core, .interface, .device] :=
    congrArg (Part.core :: ·) mounted
  by_cases fits : tableFits config.coreParams.channels = true
  · by_cases fails : script.failCore = true
    · have closed := walks_released { params := config.coreParams } mounted
      simpa [Attempt.Leads, assemble, Core.construct, fits, Core.setUp, fails] using
        opened.append closed
    · have set : Walks (.coreBuilt config.coreParams :: outer)
          [.coreInitialized config.coreSettings] (.coreBuilt config.coreParams :: outer) :=
        walks_inert rfl rfl placed
      have attached := leads_attachFrom script interface { params := config.coreParams } 0
        config.channels mounted
      simp only [assemble, Core.construct, fits, Core.setUp, fails]
      exact attached.after
        [.event (.coreBuilt config.coreParams), .event (.coreInitialized config.coreSettings)]
        (opened.append set)
  · simp [Attempt.Leads, assemble, Core.construct, fits]

end

section

variable (bench : Bench)

theorem walks_drop :
    Walks bench.level.constructions bench.drop.1.trace.events
      bench.drop.2.level.constructions := by
  cases level : bench.level with
  | outside =>
      simp only [Bench.drop, level]
      exact walks_nil _
  | device made | interface made built | core made built assembled =>
      simp only [Bench.drop, level]
      exact walks_closing rfl rfl rfl rfl

theorem walks_stepOutside (step : Step) (outside : bench.level = .outside) :
    Walks [] (bench.stepOutside step).1.trace.events
      (bench.stepOutside step).2.level.constructions := by
  cases step with
  | makeDevice config => exact walks_opening rfl rfl
  | device params => exact walks_opening rfl rfl
  | _ => exact congrArg Level.constructions outside.symm

theorem walks_stepDevice (device : Device) (step : Step) (held : bench.level = .device device)
    (allocated : (bench.stepDevice device step).1.answer ≠ .overflow) :
    Walks (Level.device device).constructions (bench.stepDevice device step).1.trace.events
      (bench.stepDevice device step).2.level.constructions := by
  have placed : kinds (Level.device device).constructions = [.device] := rfl
  cases step with
  | openDevice args reference swapChannels =>
      have leads := leads_openWith bench.script device args reference swapChannels placed
      simp only [Bench.stepDevice] at allocated ⊢
      generalize device.openWith bench.script args reference swapChannels = attempt
        at leads allocated ⊢
      obtain ⟨notes, outcome⟩ := attempt
      cases outcome with
      | done code | failed fault =>
          simp only [held]
          exact leads
      | overflow => exact absurd rfl allocated
  | negotiate config =>
      have leads := leads_negotiate bench.script config device placed
      simp only [Bench.stepDevice] at allocated ⊢
      generalize negotiate bench.script config device = attempt at leads allocated ⊢
      obtain ⟨notes, outcome⟩ := attempt
      cases outcome with
      | done code | failed error =>
          simp only [held]
          exact leads
      | overflow => exact absurd rfl allocated
  | buildInterface code config =>
      have leads := leads_buildInterface bench.script config code bench.tables placed
      simp only [Bench.stepDevice] at allocated ⊢
      generalize buildInterface bench.script config code bench.tables = attempt at leads allocated ⊢
      obtain ⟨notes, outcome⟩ := attempt
      cases outcome with
      | done interface => exact leads
      | failed error =>
          simp only [held]
          exact leads
      | overflow => exact absurd rfl allocated
  | interface kind txRate rxRate channels => exact walks_opening rfl rfl
  | _ => exact congrArg Level.constructions held.symm

theorem walks_receiveFifo (interface : Interface) (channel : Nat) :
    Walks bench.level.constructions (bench.receiveFifo interface channel).1.trace.events
      (bench.receiveFifo interface channel).2.level.constructions := by
  unfold Bench.receiveFifo
  split
  · exact walks_nil _
  · exact walks_nil _

theorem walks_stepInterface (device : Device) (interface : Interface) (step : Step)
    (held : bench.level = .interface device interface)
    (allocated : (bench.stepInterface device interface step).1.answer ≠ .overflow) :
    Walks (Level.interface device interface).constructions
      (bench.stepInterface device interface step).1.trace.events
      (bench.stepInterface device interface step).2.level.constructions := by
  have placed : kinds (Level.device device).constructions = [.device] := rfl
  have mounted : kinds (Level.interface device interface).constructions =
      [.interface, .device] := rfl
  cases step with
  | initInterface topology =>
      have leads := leads_setUp bench.script interface topology bench.tables placed
      simp only [Bench.stepInterface] at allocated ⊢
      generalize interface.setUp bench.script topology bench.tables = attempt at leads allocated ⊢
      obtain ⟨notes, outcome⟩ := attempt
      cases outcome with
      | done ready => exact leads
      | failed fault =>
          simp only [held]
          exact leads
      | overflow => exact absurd rfl allocated
  | assemble config =>
      have leads := leads_assemble bench.script config interface mounted
      simp only [Bench.stepInterface] at allocated ⊢
      generalize assemble bench.script config interface = attempt at leads allocated ⊢
      obtain ⟨notes, outcome⟩ := attempt
      cases outcome with
      | done core => exact leads
      | failed error =>
          simp only [held]
          exact leads
      | overflow => exact absurd rfl allocated
  | core params =>
      by_cases fits : tableFits params.channels = true
      · simp only [Bench.stepInterface, Core.construct, fits, if_true]
        exact walks_opening rfl mounted
      · simp [Bench.stepInterface, Core.construct, fits] at allocated
  | receiveFifo channel => exact held ▸ walks_receiveFifo bench interface channel
  | _ => exact congrArg Level.constructions held.symm

theorem walks_write (handle : Nat) (vector : SampleVector) :
    Walks bench.level.constructions (bench.write handle vector).1.trace.events
      (bench.write handle vector).2.level.constructions := by
  unfold Bench.write
  split
  · exact walks_nil _
  · split
    · exact walks_nil _
    · exact walks_nil _

theorem walks_read (handle : Nat) :
    Walks bench.level.constructions (bench.read handle).1.trace.events
      (bench.read handle).2.level.constructions := by
  unfold Bench.read
  split
  · exact walks_nil _
  · exact walks_nil _

theorem walks_stepCore (device : Device) (interface : Interface) (core : Core) (step : Step)
    (held : bench.level = .core device interface core)
    (allocated : (bench.stepCore device interface core step).1.answer ≠ .overflow) :
    Walks (Level.core device interface core).constructions
      (bench.stepCore device interface core step).1.trace.events
      (bench.stepCore device interface core step).2.level.constructions := by
  have placed : kinds (Level.core device interface core).constructions =
      [.core, .interface, .device] := rfl
  rw [← held] at placed ⊢
  cases step with
  | initCore settings =>
      by_cases fails : bench.script.failCore = true
      · simp only [Bench.stepCore, Core.setUp, fails, if_true]
        exact walks_nil _
      · simp only [Bench.stepCore, Core.setUp, fails]
        exact walks_inert rfl rfl placed
  | attach handle channel =>
      simp only [Bench.stepCore]
      cases bench.held[handle]? with
      | none => exact walks_nil _
      | some fifo =>
          cases taken : core.attach bench.script fifo channel with
          | error fault => simp only [taken, walks_nil, Trace.events_nil]
          | ok attached =>
              have same := params_attach bench.script taken
              simp only [taken, Bench.atLevel, Level.constructions, same]
              rw [held] at placed ⊢
              exact walks_inert rfl rfl placed
  | receiveFifo channel => exact walks_receiveFifo bench interface channel
  | _ => exact walks_nil _

end

theorem walks_step (bench : Bench) (step : Step)
    (allocated : (bench.step step).1.answer ≠ .overflow) :
    Walks bench.level.constructions (bench.step step).1.trace.events
      (bench.step step).2.level.constructions := by
  cases step with
  | drop => exact walks_drop bench
  | write handle vector => exact walks_write bench handle vector
  | read handle => exact walks_read bench handle
  | _ =>
      cases level : bench.level with
      | outside =>
          simp only [Bench.step, level]
          exact walks_stepOutside bench _ level
      | device made =>
          simp only [Bench.step, level] at allocated ⊢
          exact walks_stepDevice bench made _ level allocated
      | interface made built =>
          simp only [Bench.step, level] at allocated ⊢
          exact walks_stepInterface bench made built _ level allocated
      | core made built assembled =>
          simp only [Bench.step, level] at allocated ⊢
          exact walks_stepCore bench made built assembled _ level allocated

end Pipeline

end Transceiver
