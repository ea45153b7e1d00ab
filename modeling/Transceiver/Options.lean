import Transceiver.Address.Basic
import Transceiver.LogLevel
import Transceiver.Number.Binary64
import Transceiver.Radio

/-!
What an operator asks of the transceiver, unchecked. `Options` starts from the shipped defaults and
is changed by `Setting`s, each of which overwrites what earlier ones of its name wrote. The three
filler settings share the filler field and keep a number of their own beside it.
-/

namespace Transceiver

open Number (Binary64)

structure Options where
  logLevel : String := LogLevel.name default
  deviceArgs : String := ""
  localAddress : Address := Address.loopback
  remoteAddress : Address := Address.loopback
  port : UInt16 := 5700
  txRate : Nat := 4
  rxRate : Nat := 1
  channels : Nat := 1
  trainingSequence : Nat := 0
  rachDelay : Nat := 0
  externalReference : Bool := false
  gpsReference : Bool := false
  filler : Filler := default
  multiArfcn : Bool := false
  offset : Binary64 := Binary64.zero
  rssiOffset : Binary64 := Binary64.zero
  swapChannels : Bool := false
  edge : Bool := false
  priority : Option Int := none
  deriving DecidableEq, Repr

inductive Setting
  | logLevel (name : String)
  | deviceArgs (text : String)
  | localAddress (address : Address)
  | remoteAddress (address : Address)
  | port (number : UInt16)
  | txRate (samples : Nat)
  | rxRate (samples : Nat)
  | channels (count : Nat)
  | edge (enabled : Bool)
  | multiArfcn (enabled : Bool)
  | externalReference (enabled : Bool)
  | gpsReference (enabled : Bool)
  | fillerTable
  | normalBurstTest (trainingSequence : Nat)
  | accessBurstTest (delay : Nat)
  | offset (hertz : Binary64)
  | rssiOffset (decibels : Binary64)
  | swapChannels (enabled : Bool)
  | priority (level : Int)
  deriving DecidableEq, Repr

namespace Options

def set (options : Options) : Setting → Options
  | .logLevel name => { options with logLevel := name }
  | .deviceArgs text => { options with deviceArgs := text }
  | .localAddress address => { options with localAddress := address }
  | .remoteAddress address => { options with remoteAddress := address }
  | .port number => { options with port := number }
  | .txRate samples => { options with txRate := samples }
  | .rxRate samples => { options with rxRate := samples }
  | .channels count => { options with channels := count }
  | .edge enabled => { options with edge := enabled }
  | .multiArfcn enabled => { options with multiArfcn := enabled }
  | .externalReference enabled => { options with externalReference := enabled }
  | .gpsReference enabled => { options with gpsReference := enabled }
  | .fillerTable => { options with filler := .dummy }
  | .normalBurstTest trainingSequence =>
      { options with trainingSequence, filler := .normalRandom }
  | .accessBurstTest delay => { options with rachDelay := delay, filler := .accessRandom }
  | .offset hertz => { options with offset := hertz }
  | .rssiOffset decibels => { options with rssiOffset := decibels }
  | .swapChannels enabled => { options with swapChannels := enabled }
  | .priority level => { options with priority := some level }

def ofSettings (settings : List Setting) : Options :=
  settings.foldl set {}

def agrees (left right : Options) : Bool :=
  left.offset.agrees right.offset && left.rssiOffset.agrees right.rssiOffset &&
    { left with offset := .zero, rssiOffset := .zero } =
      { right with offset := .zero, rssiOffset := .zero }

end Options

end Transceiver
