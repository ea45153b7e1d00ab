import Transceiver.Options

/-!
A validated configuration, which every later stage of the bootstrap reads, and the parameters it
hands to the device and to the transceiver core.
-/

namespace Transceiver

open Number (Binary64)

structure Config where
  logLevel : LogLevel
  deviceArgs : String
  localAddress : Address
  remoteAddress : Address
  port : UInt16
  txRate : Rate
  rxRate : Rate
  channels : Nat
  trainingSequence : UInt8
  rachDelay : UInt8
  reference : Reference
  filler : Filler
  multiArfcn : Bool
  offset : Binary64
  rssiOffset : Binary64
  swapChannels : Bool
  edge : Bool
  priority : Option Int
  deriving DecidableEq, Repr

structure DeviceParams where
  txRate : Rate
  rxRate : Rate
  hint : Topology
  channels : Nat
  offset : Binary64
  deriving DecidableEq, Repr

structure CoreParams where
  port : UInt16
  localAddress : Address
  remoteAddress : Address
  txRate : Rate
  rxRate : Rate
  channels : Nat
  rssiOffset : Binary64
  deriving DecidableEq, Repr

structure CoreSettings where
  filler : Filler
  trainingSequence : UInt8
  rachDelay : UInt8
  edge : Bool
  deriving DecidableEq, Repr

def DeviceParams.agrees (left right : DeviceParams) : Bool :=
  left.offset.agrees right.offset &&
    { left with offset := .zero } = { right with offset := .zero }

def CoreParams.agrees (left right : CoreParams) : Bool :=
  left.rssiOffset.agrees right.rssiOffset &&
    { left with rssiOffset := .zero } = { right with rssiOffset := .zero }

namespace Config

def hint (config : Config) : Topology :=
  if config.multiArfcn then .multiArfcn else .normal

def deviceParams (config : Config) : DeviceParams where
  txRate := config.txRate
  rxRate := config.rxRate
  hint := config.hint
  channels := config.channels
  offset := config.offset

def coreParams (config : Config) : CoreParams where
  port := config.port
  localAddress := config.localAddress
  remoteAddress := config.remoteAddress
  txRate := config.txRate
  rxRate := config.rxRate
  channels := config.channels
  rssiOffset := config.rssiOffset

def coreSettings (config : Config) : CoreSettings where
  filler := config.filler
  trainingSequence := config.trainingSequence
  rachDelay := config.rachDelay
  edge := config.edge

def agrees (left right : Config) : Bool :=
  left.offset.agrees right.offset && left.rssiOffset.agrees right.rssiOffset &&
    { left with offset := .zero, rssiOffset := .zero } =
      { right with offset := .zero, rssiOffset := .zero }

end Config

end Transceiver
