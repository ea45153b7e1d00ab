import Transceiver.Lifecycle.Basic
import Transceiver.Lifecycle.Wait

/-!
Shutdown flags, the signals that set them, and the lifecycles that watch them. Handles to a flag
share one cell; a signal sets every cell that was registered before it. A registration is taken to
succeed, and a start comes with the scheduler's answer to the priority it asks for.
-/

namespace Transceiver.Lifecycle

structure Watcher where
  phase : Phase := .starting
  cell : Nat
  interval : Nat := defaultPollInterval
  deriving DecidableEq, Repr

structure Switchboard where
  cells : List Bool := [false]
  flags : List Nat := [0]
  registered : List Nat := []
  watchers : List Watcher := [{ cell := 0 }]
  deriving Repr

inductive Step
  | newFlag
  | cloneFlag (flag : Nat)
  | newLifecycle (flag interval : Nat)
  | request (flag : Nat)
  | register (flag : Nat)
  | raise (signal : Signal)
  | start (lifecycle : Nat) (priority : Option Int)
      (refusal? : Option String := priority.bind Scheduler.privileged)
  | enterRunning (lifecycle channels : Nat)
  | beginShutdown (lifecycle : Nat)
  | stop (lifecycle : Nat)
  | wait (lifecycle : Nat) (requested : Option Nat)
  deriving DecidableEq, Repr

inductive Answer
  | index (number : Nat)
  | done
  | accepted
  | refused (error : BootstrapError)
  | truth (value : Bool)
  | elapsed (milliseconds : Nat)
  | endless
  | unknown
  deriving DecidableEq, Repr

structure Outcome where
  answer : Answer
  trace : Trace := []
  next : Switchboard

namespace Switchboard

def isSet (board : Switchboard) (cell : Nat) : Bool :=
  board.cells.getD cell false

def flagStates (board : Switchboard) : List Bool :=
  board.flags.map board.isSet

def phases (board : Switchboard) : List Phase :=
  board.watchers.map Watcher.phase

def watchedStates (board : Switchboard) : List Bool :=
  board.watchers.map fun watcher => board.isSet watcher.cell

def setCell (board : Switchboard) (cell : Nat) : Switchboard :=
  { board with cells := board.cells.set cell true }

def registerCell (board : Switchboard) (cell : Nat) : Switchboard :=
  { board with registered := cell :: board.registered }

def setRegistered (board : Switchboard) : Switchboard :=
  { board with
    cells := board.cells.mapIdx fun cell value => value || board.registered.contains cell }

def advance (board : Switchboard) (lifecycle : Nat) (watcher : Watcher) (answer : Answer)
    (notes : Trace × Phase) : Outcome where
  answer
  trace := notes.1
  next := { board with
    watchers := board.watchers.set lifecycle { watcher with phase := notes.2 } }

def wait (board : Switchboard) (watcher : Watcher) (requested : Option Nat) : Outcome :=
  if board.isSet watcher.cell then
    { answer := .elapsed 0, trace := [.logged .shutdownReceived], next := board }
  else
    match requested with
    | none => { answer := .endless, next := board }
    | some time =>
        { answer := .elapsed (waitTime watcher.interval time)
          trace := [.logged .shutdownReceived]
          next := board.setCell watcher.cell }

def step (board : Switchboard) : Step → Outcome
  | .newFlag =>
      { answer := .index board.flags.length
        next := { board with
          cells := board.cells ++ [false]
          flags := board.flags ++ [board.cells.length] } }
  | .cloneFlag flag =>
      match board.flags[flag]? with
      | none => { answer := .unknown, next := board }
      | some cell =>
          { answer := .index board.flags.length
            next := { board with flags := board.flags ++ [cell] } }
  | .newLifecycle flag interval =>
      match board.flags[flag]? with
      | none => { answer := .unknown, next := board }
      | some cell =>
          { answer := .index board.watchers.length
            next := { board with watchers := board.watchers ++ [{ cell, interval }] } }
  | .request flag =>
      match board.flags[flag]? with
      | none => { answer := .unknown, next := board }
      | some cell => { answer := .done, next := board.setCell cell }
  | .register flag =>
      match board.flags[flag]? with
      | none => { answer := .unknown, next := board }
      | some cell => { answer := .accepted, next := board.registerCell cell }
  | .raise _ => { answer := .done, next := board.setRegistered }
  | .start lifecycle priority refusal? =>
      match board.watchers[lifecycle]? with
      | none => { answer := .unknown, next := board }
      | some watcher =>
          let notes := Lifecycle.start watcher.phase priority (Scheduler.answering refusal?)
          match startError? priority (Scheduler.answering refusal?) with
          | some error => board.advance lifecycle watcher (.refused error) notes
          | none =>
              (board.registerCell watcher.cell).advance lifecycle watcher .accepted notes
  | .enterRunning lifecycle channels =>
      match board.watchers[lifecycle]? with
      | none => { answer := .unknown, next := board }
      | some watcher =>
          board.advance lifecycle watcher .done (Lifecycle.enterRunning watcher.phase channels)
  | .beginShutdown lifecycle =>
      match board.watchers[lifecycle]? with
      | none => { answer := .unknown, next := board }
      | some watcher =>
          board.advance lifecycle watcher (.truth watcher.phase.awaitsShutdown)
            (Lifecycle.beginShutdown watcher.phase)
  | .stop lifecycle =>
      match board.watchers[lifecycle]? with
      | none => { answer := .unknown, next := board }
      | some watcher => board.advance lifecycle watcher .done (Lifecycle.stop watcher.phase)
  | .wait lifecycle requested =>
      match board.watchers[lifecycle]? with
      | none => { answer := .unknown, next := board }
      | some watcher => board.wait watcher requested

def run (board : Switchboard) : List Step → List Outcome
  | [] => []
  | step :: rest =>
      let outcome := board.step step
      outcome :: outcome.next.run rest

end Switchboard

end Transceiver.Lifecycle
