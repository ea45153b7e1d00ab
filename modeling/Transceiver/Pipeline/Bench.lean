import Transceiver.Pipeline.Stages

/-!
A bench on which a pipeline is built and taken down step by step. Components nest: a device holds at
most one interface and an interface at most one core, and only the innermost can be released. Queues
outlive the interface that made them while someone holds them.
-/

namespace Transceiver.Pipeline

inductive Level
  | outside
  | device (device : Device)
  | interface (device : Device) (interface : Interface)
  | core (device : Device) (interface : Interface) (core : Core)
  deriving DecidableEq, Repr

structure Bench where
  script : Script
  level : Level := .outside
  tables : Nat := 0
  /-- The queues that were written to or read from; all others are as they were made. -/
  used : List (FifoId × Fifo) := []
  held : List FifoId := []
  deriving Repr

inductive Step
  | makeDevice (config : Config)
  | device (params : DeviceParams)
  | openDevice (args : String) (reference : Reference) (swapChannels : Bool)
  | negotiate (config : Config)
  | buildInterface (code : Nat) (config : Config)
  | interface (kind : InterfaceKind) (txRate rxRate : Rate) (channels : Nat)
  | initInterface (topology : Topology)
  | assemble (config : Config)
  | core (params : CoreParams)
  | initCore (settings : CoreSettings)
  | attach (handle channel : Nat)
  | channelCount
  | receiveFifo (channel : Nat)
  | write (handle : Nat) (vector : SampleVector)
  | read (handle : Nat)
  | drop
  deriving DecidableEq, Repr

inductive Part
  | core
  | interface
  | device
  deriving DecidableEq, Repr

inductive Answer
  | done
  | device (channels : Nat)
  | capability (code : Nat)
  | interface (kind : InterfaceKind) (txRate rxRate : Rate)
  | core (attached : Nat)
  | assembled (channels : Nat)
  | channelCount (channels : Nat)
  | fifo (handle channel : Nat)
  | vector (vector : Option SampleVector)
  | fault (fault : Fault)
  | failed (error : BootstrapError)
  | dropped (part : Part)
  | nothing
  | overflow
  | misplaced
  deriving DecidableEq, Repr

structure Entry where
  answer : Answer
  trace : Trace := []

namespace Bench

def fifoOf (bench : Bench) (id : FifoId) : Fifo :=
  (bench.used.lookup id).getD (Fifo.create id.channel Fifo.defaultDepth)

def withFifo (bench : Bench) (id : FifoId) (fifo : Fifo) : Bench :=
  { bench with used := (id, fifo) :: bench.used.filter (·.1 ≠ id) }

def atLevel (bench : Bench) (level : Level) : Bench :=
  { bench with level }

def drop (bench : Bench) : Entry × Bench :=
  match bench.level with
  | .outside => ({ answer := .nothing }, bench)
  | .device _ =>
      ({ answer := .dropped .device, trace := [.event .deviceReleased] }, bench.atLevel .outside)
  | .interface device _ =>
      ({ answer := .dropped .interface, trace := [.event .interfaceReleased] },
        bench.atLevel (.device device))
  | .core device interface core =>
      ({ answer := .dropped .core, trace := [core.released] },
        bench.atLevel (.interface device interface))

def receiveFifo (bench : Bench) (interface : Interface) (channel : Nat) : Entry × Bench :=
  match interface.fifo? bench.script channel with
  | none => ({ answer := .nothing }, bench)
  | some id =>
      ({ answer := .fifo bench.held.length id.channel }, { bench with held := bench.held ++ [id] })

def write (bench : Bench) (handle : Nat) (vector : SampleVector) : Entry × Bench :=
  match bench.held[handle]? with
  | none => ({ answer := .misplaced }, bench)
  | some id =>
      match (bench.fifoOf id).write? vector with
      | none => ({ answer := .fault .fifoFull }, bench)
      | some fifo => ({ answer := .done }, bench.withFifo id fifo)

def read (bench : Bench) (handle : Nat) : Entry × Bench :=
  match bench.held[handle]? with
  | none => ({ answer := .misplaced }, bench)
  | some id =>
      let (vector, fifo) := (bench.fifoOf id).tryRead
      ({ answer := .vector vector }, bench.withFifo id fifo)

def stepOutside (bench : Bench) : Step → Entry × Bench
  | .makeDevice config =>
      let (trace, device) := makeDevice config
      ({ answer := .done, trace }, bench.atLevel (.device device))
  | .device params =>
      ({ answer := .device params.channels, trace := [.event (.deviceMade params)] },
        bench.atLevel (.device ⟨params⟩))
  | _ => ({ answer := .misplaced }, bench)

def stepDevice (bench : Bench) (device : Device) : Step → Entry × Bench
  | .openDevice args reference swapChannels =>
      let opened := device.openWith bench.script args reference swapChannels
      match opened.outcome with
      | .done code => ({ answer := .capability code, trace := opened.trace }, bench)
      | .failed fault => ({ answer := .fault fault, trace := opened.trace }, bench)
      | .overflow => ({ answer := .overflow, trace := opened.trace }, bench)
  | .negotiate config =>
      let negotiated := negotiate bench.script config device
      match negotiated.outcome with
      | .done code => ({ answer := .capability code, trace := negotiated.trace }, bench)
      | .failed error => ({ answer := .failed error, trace := negotiated.trace }, bench)
      | .overflow => ({ answer := .overflow, trace := negotiated.trace }, bench)
  | .buildInterface code config =>
      let built := buildInterface bench.script config code bench.tables
      match built.outcome with
      | .done interface =>
          ({ answer := .done, trace := built.trace },
            { bench with level := .interface device interface, tables := bench.tables + 1 })
      | .failed error => ({ answer := .failed error, trace := built.trace }, bench)
      | .overflow => ({ answer := .overflow, trace := built.trace }, bench)
  | .interface kind txRate rxRate channels =>
      ({ answer := .interface kind txRate rxRate
         trace := [.event (.interfaceBuilt kind channels)] },
        bench.atLevel (.interface device { kind, txRate, rxRate, channels }))
  | _ => ({ answer := .misplaced }, bench)

def stepInterface (bench : Bench) (device : Device) (interface : Interface) :
    Step → Entry × Bench
  | .initInterface topology =>
      let attempt := interface.setUp bench.script topology bench.tables
      match attempt.outcome with
      | .done ready =>
          ({ answer := .done, trace := attempt.trace },
            { bench with level := .interface device ready, tables := bench.tables + 1 })
      | .failed fault => ({ answer := .fault fault, trace := attempt.trace }, bench)
      | .overflow => ({ answer := .overflow, trace := attempt.trace }, bench)
  | .assemble config =>
      let assembled := assemble bench.script config interface
      match assembled.outcome with
      | .done core =>
          ({ answer := .assembled core.params.channels, trace := assembled.trace },
            bench.atLevel (.core device interface core))
      | .failed error => ({ answer := .failed error, trace := assembled.trace }, bench)
      | .overflow => ({ answer := .overflow, trace := assembled.trace }, bench)
  | .core params =>
      let construction := Core.construct params
      match construction.outcome with
      | .done core =>
          ({ answer := .core core.attachedCount, trace := construction.trace },
            bench.atLevel (.core device interface core))
      | .failed fault => ({ answer := .fault fault, trace := construction.trace }, bench)
      | .overflow => ({ answer := .overflow, trace := construction.trace }, bench)
  | .receiveFifo channel => bench.receiveFifo interface channel
  | _ => ({ answer := .misplaced }, bench)

def stepCore (bench : Bench) (device : Device) (interface : Interface) (core : Core) :
    Step → Entry × Bench
  | .initCore settings =>
      let attempt := Core.setUp bench.script settings
      match attempt.outcome with
      | .done () => ({ answer := .done, trace := attempt.trace }, bench)
      | .failed fault => ({ answer := .fault fault, trace := attempt.trace }, bench)
      | .overflow => ({ answer := .overflow, trace := attempt.trace }, bench)
  | .attach handle channel =>
      match bench.held[handle]? with
      | none => ({ answer := .misplaced }, bench)
      | some id =>
          match core.attach bench.script id channel with
          | .error fault => ({ answer := .fault fault }, bench)
          | .ok attached =>
              ({ answer := .done, trace := [.event (.fifoAttached channel)] },
                bench.atLevel (.core device interface attached))
  | .channelCount => ({ answer := .channelCount core.params.channels }, bench)
  | .receiveFifo channel => bench.receiveFifo interface channel
  | _ => ({ answer := .misplaced }, bench)

def step (bench : Bench) (step : Step) : Entry × Bench :=
  match step with
  | .drop => bench.drop
  | .write handle vector => bench.write handle vector
  | .read handle => bench.read handle
  | step =>
      match bench.level with
      | .outside => bench.stepOutside step
      | .device device => bench.stepDevice device step
      | .interface device interface => bench.stepInterface device interface step
      | .core device interface core => bench.stepCore device interface core step

def run (bench : Bench) : List Step → List Entry × Bench
  | [] => ([], bench)
  | step :: rest =>
      let (entry, next) := bench.step step
      let (entries, last) := next.run rest
      (entry :: entries, last)

def close (bench : Bench) : List Entry :=
  match bench.level with
  | .outside => []
  | .device _ => [bench.drop.1]
  | .interface _ _ =>
      let (inner, outer) := bench.drop
      [inner, outer.drop.1]
  | .core _ _ _ =>
      let (inner, middle) := bench.drop
      let (second, outer) := middle.drop
      [inner, second, outer.drop.1]

end Bench

end Transceiver.Pipeline
