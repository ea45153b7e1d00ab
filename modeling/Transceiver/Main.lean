import Std.Async.Signal
import Transceiver.Program

/-!
The executable. Whatever the shutdown's time, a run leaves the same notes in the same order; so the
notes up to the shutdown are printed at once, and the rest once a signal has arrived. The system is
not asked for a real-time priority: what it grants a privileged process is taken as its answer.
-/

namespace Transceiver.Program

def printNotes (level : LogLevel) (trace : Trace) : IO Unit := do
  for text in shownTexts level trace do
    IO.println text
  (← IO.getStdout).flush

partial def pollTasks (tasks : List (Task (Except IO.Error Int))) : IO Unit := do
  for task in tasks do
    if ← IO.hasFinished task then
      return
  IO.sleep (UInt32.ofNat Lifecycle.defaultPollInterval)
  pollTasks tasks

def signalTasks : IO (List (Task (Except IO.Error Int))) := do
  let interrupt ← Std.Async.Signal.Waiter.mk .sigint false
  let terminate ← Std.Async.Signal.Waiter.mk .sigterm false
  return [← interrupt.wait, ← terminate.wait]

def start (arguments : List String) : IO UInt32 := do
  let process := execute arguments (.signalledAt 0 .terminate) Lifecycle.Scheduler.privileged
  let (before, after) := process.trace.span fun note => note ≠ .logged .shutdownReceived
  IO.print process.output
  IO.eprint process.errors
  if after.isEmpty then
    printNotes process.level before
  else
    let signals ← signalTasks
    printNotes process.level before
    pollTasks signals
    printNotes process.level after
  return UInt32.ofNat (process.exitCode?.getD 101)

end Transceiver.Program

def main (arguments : List String) : IO UInt32 :=
  Transceiver.Program.start arguments
