import Transceiver.Fifo.Basic
import Transceiver.Script
import Transceiver.Trace

/-!
The simulated components of a pipeline: a device, a radio interface over it, and a transceiver core
over the interface. All of them follow one script. Tables with a slot for each channel must fit into
the address space; a component that cannot hold its table stops the process.
-/

namespace Transceiver.Pipeline

inductive Outcome (ε α : Type)
  | done (value : α)
  | failed (error : ε)
  | overflow
  deriving DecidableEq, Repr

structure Attempt (ε α : Type) where
  trace : Trace
  outcome : Outcome ε α

def maxTableBytes : Nat := 2 ^ 63 - 1

def slotBytes : Nat := 8

def tableFits (slots : Nat) : Bool :=
  slots * slotBytes ≤ maxTableBytes

/-- The name of a receive queue: the table it was made for, and its channel. Every initialization of
an interface makes a new table. -/
structure FifoId where
  table : Nat
  channel : Nat
  deriving DecidableEq, Repr

structure Device where
  params : DeviceParams
  deriving DecidableEq, Repr

structure Interface where
  kind : InterfaceKind
  txRate : Rate
  rxRate : Rate
  channels : Nat
  /-- The table of receive queues, once the interface is initialized. -/
  table : Option Nat := none
  deriving DecidableEq, Repr

structure Core where
  params : CoreParams
  /-- The attached channels with their queues, each channel once and the highest first. -/
  slots : List (Nat × FifoId) := []
  deriving DecidableEq, Repr

namespace Device

def openWith (script : Script) (device : Device) (args : String) (reference : Reference)
    (swapChannels : Bool) : Attempt Fault Nat where
  trace := [.event (.deviceOpened args reference swapChannels)]
  outcome :=
    if script.failOpen then .failed (.device "mock device refused to open")
    else .done (script.capability.getD device.params.hint.code)

end Device

namespace Interface

def setUp (script : Script) (interface : Interface) (topology : Topology) (table : Nat) :
    Attempt Fault Interface :=
  if script.failInterface then
    ⟨[], .failed (.interface "mock interface init failure")⟩
  else if tableFits interface.channels then
    ⟨[.event (.interfaceInitialized topology)], .done { interface with table := some table }⟩
  else ⟨[], .overflow⟩

def fifos (script : Script) (interface : Interface) : List (Option FifoId) :=
  match interface.table with
  | none => []
  | some table =>
      (List.range interface.channels).map fun channel =>
        if script.missingFifo = some channel then none else some ⟨table, channel⟩

def fifo? (script : Script) (interface : Interface) (channel : Nat) : Option FifoId :=
  ((interface.fifos script)[channel]?).join

end Interface

namespace Core

def construct (params : CoreParams) : Attempt Fault Core where
  trace := [.event (.coreBuilt params)]
  outcome := if tableFits params.channels then .done { params } else .overflow

def setUp (script : Script) (settings : CoreSettings) : Attempt Fault Unit :=
  if script.failCore then ⟨[], .failed (.core "mock transceiver init failure")⟩
  else ⟨[.event (.coreInitialized settings)], .done ()⟩

def putSlot (channel : Nat) (fifo : FifoId) : List (Nat × FifoId) → List (Nat × FifoId)
  | [] => [(channel, fifo)]
  | slot :: lower =>
      if slot.1 < channel then (channel, fifo) :: slot :: lower
      else if slot.1 = channel then (channel, fifo) :: lower
      else slot :: putSlot channel fifo lower

def withSlot (core : Core) (channel : Nat) (fifo : FifoId) : Core :=
  { core with slots := putSlot channel fifo core.slots }

/-- Attaches a queue. The scripted refusal comes before the check of the channel number. -/
def attach (script : Script) (core : Core) (fifo : FifoId) (channel : Nat) :
    Except Fault Core :=
  if script.rejectedFifo = some channel then
    .error (.core ("mock transceiver rejected FIFO on channel " ++ toString channel))
  else if channel < core.params.channels then .ok (core.withSlot channel fifo)
  else
    .error (.invalidParameter ("channel " ++ toString channel ++ " out of range (core has " ++
      toString core.params.channels ++ ")"))

def slot? (core : Core) (channel : Nat) : Option FifoId :=
  core.slots.lookup channel

def attachedCount (core : Core) : Nat :=
  core.slots.length

def released (core : Core) : Note :=
  .event (.coreReleased core.attachedCount)

end Core

end Transceiver.Pipeline
