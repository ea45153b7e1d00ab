/-!
The phases of a process that runs a transceiver, and the lines it prints on the way.
-/

namespace Transceiver

inductive Phase
  | starting
  | running
  | shuttingDown
  | stopped
  deriving DecidableEq, Repr

namespace Phase

def name : Phase → String
  | starting => "Starting"
  | running => "Running"
  | shuttingDown => "ShuttingDown"
  | stopped => "Stopped"

def awaitsShutdown : Phase → Bool
  | starting | running => true
  | shuttingDown | stopped => false

end Phase

inductive Announcement
  | active (channels : Nat)
  | shuttingDown
  deriving DecidableEq, Repr

def Announcement.text : Announcement → String
  | active channels => "-- Transceiver active with " ++ toString channels ++ " channel(s)"
  | shuttingDown => "Shutting down transceiver..."

end Transceiver
