import Transceiver.Pipeline.Components

/-!
The stages that build a pipeline from a configuration: the device is made and opened, the interface
its capability asks for is built and initialized, and a core is assembled on it with every channel
attached. A stage that fails releases what it built itself and nothing else.
-/

namespace Transceiver.Pipeline

def makeDevice (config : Config) : Trace × Device :=
  ([.logged (.constructingDevice config.deviceParams), .event (.deviceMade config.deviceParams)],
    ⟨config.deviceParams⟩)

def negotiate (script : Script) (config : Config) (device : Device) : Attempt BootstrapError Nat :=
  let opened := device.openWith script config.deviceArgs config.reference config.swapChannels
  match opened.outcome with
  | .done code => ⟨opened.trace ++ [.logged (.deviceOpened code)], .done code⟩
  | .failed fault =>
      ⟨opened.trace ++ [.logged (.deviceFailed fault)], .failed (.negotiation fault)⟩
  | .overflow => ⟨opened.trace, .overflow⟩

def interfaceFor (config : Config) (topology : Topology) : Interface where
  kind := topology.kind
  txRate := config.txRate
  rxRate := config.rxRate
  channels := topology.width config.channels

def buildInterface (script : Script) (config : Config) (code table : Nat) :
    Attempt BootstrapError Interface :=
  match Topology.ofCode? code with
  | none => ⟨[.logged (.unsupportedInterface code)], .failed (.unsupportedInterface code)⟩
  | some topology =>
      let interface := interfaceFor config topology
      let built : Note := .event (.interfaceBuilt interface.kind interface.channels)
      let attempt := interface.setUp script topology table
      match attempt.outcome with
      | .done ready =>
          ⟨built :: attempt.trace ++ [.logged (.interfaceReady topology)], .done ready⟩
      | .failed fault =>
          ⟨built :: attempt.trace ++
              [.logged (.interfaceFailed fault), .event .interfaceReleased],
            .failed (.interfaceInit fault)⟩
      | .overflow => ⟨built :: attempt.trace ++ [.event .interfaceReleased], .overflow⟩

def attachFrom (script : Script) (interface : Interface) (core : Core) (channel : Nat) :
    Nat → Attempt BootstrapError Core
  | 0 => ⟨[], .done core⟩
  | count + 1 =>
      match interface.fifo? script channel with
      | none =>
          ⟨[.logged (.fifoNotAttached channel), core.released], .failed (.missingFifo channel)⟩
      | some fifo =>
          match core.attach script fifo channel with
          | .error fault =>
              ⟨[.logged (.fifoNotAttached channel), core.released],
                .failed (.attachFailed channel fault)⟩
          | .ok attached =>
              let others := attachFrom script interface attached (channel + 1) count
              ⟨.event (.fifoAttached channel) :: .logged (.fifoAttached channel) :: others.trace,
                others.outcome⟩

def assemble (script : Script) (config : Config) (interface : Interface) :
    Attempt BootstrapError Core :=
  let construction := Core.construct config.coreParams
  match construction.outcome with
  | .done core =>
      let initialization := Core.setUp script config.coreSettings
      match initialization.outcome with
      | .done () =>
          let attachment := attachFrom script interface core 0 config.channels
          ⟨construction.trace ++ initialization.trace ++ attachment.trace, attachment.outcome⟩
      | .failed fault =>
          ⟨construction.trace ++ initialization.trace ++
              [.logged (.coreFailed fault), core.released],
            .failed (.coreInit fault)⟩
      | .overflow => ⟨construction.trace ++ initialization.trace, .overflow⟩
  | .failed fault => ⟨construction.trace, .failed (.coreInit fault)⟩
  | .overflow => ⟨construction.trace, .overflow⟩

end Transceiver.Pipeline
