import Transceiver.Config.Basic

/-!
The steps of the pipeline that its simulated components record: constructions, initializations,
attachments and releases.
-/

namespace Transceiver

inductive Event
  | deviceMade (params : DeviceParams)
  | deviceOpened (args : String) (reference : Reference) (swapChannels : Bool)
  | interfaceBuilt (kind : InterfaceKind) (channels : Nat)
  | interfaceInitialized (topology : Topology)
  | coreBuilt (params : CoreParams)
  | coreInitialized (settings : CoreSettings)
  | fifoAttached (channel : Nat)
  | coreReleased (attached : Nat)
  | interfaceReleased
  | deviceReleased
  deriving DecidableEq, Repr

namespace Event

def isRelease : Event → Bool
  | coreReleased _ | interfaceReleased | deviceReleased => true
  | _ => false

def agrees (left right : Event) : Bool :=
  match left, right with
  | deviceMade left, deviceMade right => left.agrees right
  | coreBuilt left, coreBuilt right => left.agrees right
  | left, right => left = right

end Event

end Transceiver
