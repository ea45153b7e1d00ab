import Transceiver.Config.Summary
import Transceiver.Event
import Transceiver.Fault
import Transceiver.Lifecycle.Phase
import Transceiver.LogLevel

/-!
What a process leaves behind, in the order in which it happens: events of the pipeline, log entries,
and lines printed for the operator.
-/

namespace Transceiver

inductive LogEntry
  | settingPriority (priority : Int)
  | priorityRefused (cause : String)
  | settings (config : Config)
  | constructingDevice (params : DeviceParams)
  | deviceOpened (code : Nat)
  | deviceFailed (fault : Fault)
  | unsupportedInterface (code : Nat)
  | interfaceFailed (fault : Fault)
  | interfaceReady (topology : Topology)
  | coreFailed (fault : Fault)
  | fifoAttached (channel : Nat)
  | fifoNotAttached (channel : Nat)
  | transition (source target : Phase)
  | announced (announcement : Announcement)
  | shutdownReceived
  | badDeviceArgs (text : String)
  deriving DecidableEq, Repr

namespace LogEntry

def severity : LogEntry → Severity
  | settingPriority _ | settings _ | interfaceReady _ | announced _ | shutdownReceived => .info
  | constructingDevice _ | deviceOpened _ | fifoAttached _ | transition _ _ => .debug
  | priorityRefused _ | deviceFailed _ | unsupportedInterface _ | interfaceFailed _
  | coreFailed _ | fifoNotAttached _ | badDeviceArgs _ => .error

def text : LogEntry → String
  | settingPriority priority => "Setting SCHED_RR priority(" ++ toString priority ++ ")"
  | priorityRefused cause => "Setting SCHED_RR failed: " ++ cause
  | settings config => config.summary
  | constructingDevice params =>
      "constructing radio device tx_sps=" ++ params.txRate.name ++ " rx_sps=" ++
        params.rxRate.name ++ " hint=" ++ params.hint.name ++ " chans=" ++
        toString params.channels
  | deviceOpened code => "radio device opened code=" ++ toString code
  | deviceFailed fault => (BootstrapError.negotiation fault).message
  | unsupportedInterface code => (BootstrapError.unsupportedInterface code).message
  | interfaceFailed fault => (BootstrapError.interfaceInit fault).message
  | interfaceReady topology => "radio interface initialized iface=" ++ topology.name
  | coreFailed fault => (BootstrapError.coreInit fault).message
  | fifoAttached channel => "receive FIFO attached chan=" ++ toString channel
  | fifoNotAttached channel => "Could not attach FIFO to channel " ++ toString channel
  | transition source target =>
      "lifecycle transition from=" ++ source.name ++ " to=" ++ target.name
  | announced announcement => announcement.text
  | shutdownReceived => "Received shutdown signal"
  | badDeviceArgs text => text

def line (entry : LogEntry) : String :=
  entry.severity.name ++ " " ++ entry.text

end LogEntry

inductive Note
  | event (event : Event)
  | logged (entry : LogEntry)
  | printed (announcement : Announcement)
  deriving DecidableEq, Repr

namespace Note

def event? : Note → Option Event
  | event recorded => some recorded
  | _ => none

def entry? : Note → Option LogEntry
  | logged entry => some entry
  | _ => none

def announcement? : Note → Option Announcement
  | printed announcement => some announcement
  | _ => none

end Note

abbrev Trace := List Note

namespace Trace

def events (trace : Trace) : List Event :=
  trace.filterMap Note.event?

def entries (trace : Trace) : List LogEntry :=
  trace.filterMap Note.entry?

def announcements (trace : Trace) : List Announcement :=
  trace.filterMap Note.announcement?

def printedText (trace : Trace) : String :=
  trace.announcements.foldl (fun text announcement => text ++ announcement.text ++ "\n") ""

end Trace

end Transceiver
