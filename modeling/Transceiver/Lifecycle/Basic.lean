import Transceiver.Trace

/-!
The operations on a lifecycle: each moves the phase on and leaves its notes. A lifecycle that has
begun to shut down does not announce the shutdown again.
-/

namespace Transceiver.Lifecycle

def moved (source target : Phase) : Note :=
  .logged (.transition source target)

def announce (announcement : Announcement) : Trace :=
  [.logged (.announced announcement), .printed announcement]

/-- What the system answers to a request for a real-time priority: nothing if it grants it, else why
not. -/
abbrev Scheduler := Int → Option String

namespace Scheduler

/-- Grants a privileged process every priority of the range. -/
def privileged : Scheduler := fun priority =>
  if 1 ≤ priority ∧ priority ≤ 99 then none else some "Invalid argument (os error 22)"

def answering (refusal? : Option String) : Scheduler := fun _ => refusal?

end Scheduler

def startError? (priority : Option Int) (scheduler : Scheduler) : Option BootstrapError :=
  match priority with
  | none => none
  | some level => (scheduler level).map (.scheduling level)

def start (phase : Phase) (priority : Option Int) (scheduler : Scheduler) : Trace × Phase :=
  -- Unless the priority is refused, the handlers for the signals are taken to be installed.
  match priority with
  | none => ([], phase)
  | some level =>
      match scheduler level with
      | none => ([.logged (.settingPriority level)], phase)
      | some cause =>
          ([.logged (.settingPriority level), .logged (.priorityRefused cause),
            moved phase .stopped], .stopped)

def enterRunning (phase : Phase) (channels : Nat) : Trace × Phase :=
  (moved phase .running :: announce (.active channels), .running)

def beginShutdown (phase : Phase) : Trace × Phase :=
  if phase.awaitsShutdown then
    (moved phase .shuttingDown :: announce .shuttingDown, .shuttingDown)
  else ([], phase)

def stop (phase : Phase) : Trace × Phase :=
  let (shutdown, before) := beginShutdown phase
  (shutdown ++ [moved before .stopped], .stopped)

end Transceiver.Lifecycle
