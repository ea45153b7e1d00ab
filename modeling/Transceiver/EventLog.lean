import Transceiver.Event

/-!
Append-only event logs reached through handles. Cloning a handle gives another handle to the same
log, so what is recorded through one is seen through all of them.
-/

namespace Transceiver

structure EventLogs where
  logs : List (List Event) := [[]]
  handles : List Nat := [0]
  deriving Repr

namespace EventLogs

inductive Step
  | create
  | clone (handle : Nat)
  | record (handle : Nat) (event : Event)
  | contains (handle : Nat) (event : Event)
  | isEmpty (handle : Nat)
  | events (handle : Nat)
  | releases (handle : Nat)
  deriving DecidableEq, Repr

inductive Answer
  | handle (index : Nat)
  | recorded (isRelease : Bool) (count : Nat)
  | truth (value : Bool)
  | events (events : List Event)
  | unknown
  deriving DecidableEq, Repr

def logOf? (state : EventLogs) (handle : Nat) : Option (Nat × List Event) := do
  let log ← state.handles[handle]?
  let events ← state.logs[log]?
  return (log, events)

def step (state : EventLogs) (step : Step) : Answer × EventLogs :=
  match step with
  | .create =>
      (.handle state.handles.length,
        { logs := state.logs ++ [[]], handles := state.handles ++ [state.logs.length] })
  | .clone handle =>
      match state.logOf? handle with
      | none => (.unknown, state)
      | some (log, _) =>
          (.handle state.handles.length, { state with handles := state.handles ++ [log] })
  | .record handle event =>
      match state.logOf? handle with
      | none => (.unknown, state)
      | some (log, events) =>
          (.recorded event.isRelease (events.length + 1),
            { state with logs := state.logs.set log (events ++ [event]) })
  | .contains handle event =>
      match state.logOf? handle with
      | none => (.unknown, state)
      | some (_, events) => (.truth (events.any (·.agrees event)), state)
  | .isEmpty handle =>
      match state.logOf? handle with
      | none => (.unknown, state)
      | some (_, events) => (.truth events.isEmpty, state)
  | .events handle =>
      match state.logOf? handle with
      | none => (.unknown, state)
      | some (_, events) => (.events events, state)
  | .releases handle =>
      match state.logOf? handle with
      | none => (.unknown, state)
      | some (_, events) => (.events (events.filter Event.isRelease), state)

def run (state : EventLogs) : List Step → List Answer × EventLogs
  | [] => ([], state)
  | step :: rest =>
      let (answer, next) := state.step step
      let (answers, last) := next.run rest
      (answer :: answers, last)

end EventLogs

end Transceiver
