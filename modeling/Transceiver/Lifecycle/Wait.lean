/-!
Waiting for a shutdown by polling. The flag is looked at once before the first sleep and then after
every interval; a request made at time zero is seen after the first sleep.
-/

namespace Transceiver.Lifecycle

def defaultPollInterval : Nat := 1000

def longestSleep : Nat := 30 * 365 * 24 * 60 * 60 * 1000

def pollInterval (milliseconds : Nat) : Nat :=
  min (max milliseconds 1) longestSleep

def waitFrom (interval requested now : Nat) : Nat :=
  if requested ≤ now then now
  else waitFrom interval requested (now + pollInterval interval)
termination_by requested - now
decreasing_by simp only [pollInterval, longestSleep]; omega

def waitTime (interval requested : Nat) : Nat :=
  waitFrom interval requested (pollInterval interval)

end Transceiver.Lifecycle
