/-!
Why the bootstrap stops. A `Fault` is what a collaborator of the pipeline reports; a
`BootstrapError` says which stage failed and, where one did, what fault it failed with.
-/

namespace Transceiver

inductive Fault
  | device (text : String)
  | interface (text : String)
  | core (text : String)
  | fifoClosed
  | fifoFull
  | invalidParameter (text : String)
  | inputOutput (text : String)
  deriving DecidableEq, Repr

namespace Fault

def message : Fault → String
  | device text => "device error: " ++ text
  | interface text => "radio interface error: " ++ text
  | core text => "transceiver error: " ++ text
  | fifoClosed => "FIFO closed"
  | fifoFull => "FIFO full"
  | invalidParameter text => "invalid parameter: " ++ text
  | inputOutput text => "I/O error: " ++ text

def sources : Fault → List String
  | inputOutput text => [text]
  | _ => []

end Fault

inductive Signal
  | interrupt
  | terminate
  deriving DecidableEq, Repr

def Signal.name : Signal → String
  | interrupt => "SIGINT"
  | terminate => "SIGTERM"

inductive BootstrapError
  | scheduling (priority : Int) (cause : String)
  | signalHandler (signal : Signal) (cause : String)
  | negotiation (fault : Fault)
  | unsupportedInterface (code : Nat)
  | interfaceInit (fault : Fault)
  | coreInit (fault : Fault)
  | missingFifo (channel : Nat)
  | attachFailed (channel : Nat) (fault : Fault)
  deriving DecidableEq, Repr

namespace BootstrapError

def message : BootstrapError → String
  | scheduling priority cause =>
      "Setting SCHED_RR priority " ++ toString priority ++ " failed: " ++ cause
  | signalHandler signal cause =>
      "Failed to install " ++ signal.name ++ " signal handler: " ++ cause
  | negotiation fault => "Failed to create radio device: " ++ fault.message
  | unsupportedInterface code =>
      "Unsupported radio interface configuration (type code " ++ toString code ++ ")"
  | interfaceInit fault => "Failed to initialize radio interface: " ++ fault.message
  | coreInit fault => "Failed to initialize transceiver: " ++ fault.message
  | missingFifo channel =>
      "Could not attach FIFO to channel " ++ toString channel ++ ": no receive FIFO"
  | attachFailed channel fault =>
      "Could not attach FIFO to channel " ++ toString channel ++ ": " ++ fault.message

def channel : BootstrapError → Option Nat
  | missingFifo channel => some channel
  | attachFailed channel _ => some channel
  | _ => none

def sources : BootstrapError → List String
  | scheduling _ cause => [cause]
  | signalHandler _ cause => [cause]
  | negotiation fault => fault.message :: fault.sources
  | unsupportedInterface _ => []
  | interfaceInit fault => fault.message :: fault.sources
  | coreInit fault => fault.message :: fault.sources
  | missingFifo _ => []
  | attachFailed _ fault => fault.message :: fault.sources

end BootstrapError

end Transceiver
