import Transceiver.Fifo.Basic

/-!
Several queues reached through handles. A handle names a queue and a clone of it names the same one;
a started reader is numbered across the exchange and keeps its own number in its queue. Every step
but those that make handles is one operation on one queue.
-/

namespace Transceiver.Fifo

structure ReaderRef where
  queue : Nat
  reader : Nat
  deriving DecidableEq, Repr

structure Exchange where
  queues : List Fifo := []
  handles : List Nat := []
  readers : List ReaderRef := []
  deriving Repr

inductive Step
  | create (channel depth : Nat)
  | clone (handle : Nat)
  | write (handle : Nat) (vector : SampleVector)
  | fill (handle : Nat) (timestamp : UInt64) (count : Nat)
  | tryRead (handle : Nat)
  | drain (handle : Nat)
  | read (handle : Nat)
  | poll (reader : Nat)
  | cancel (reader : Nat)
  deriving DecidableEq, Repr

inductive Answer
  | created (handle channel : Nat)
  | tooDeep
  | replied (reply : Reply)
  | unknown
  deriving DecidableEq, Repr

namespace Exchange

def onHandle? (exchange : Exchange) (handle : Nat) (op : Op) : Option (Nat × Op) :=
  (exchange.handles[handle]?).map fun queue => (queue, op)

def target? (exchange : Exchange) : Step → Option (Nat × Op)
  | .create _ _ | .clone _ => none
  | .write handle vector => exchange.onHandle? handle (.write vector)
  | .fill handle timestamp count => exchange.onHandle? handle (.fill timestamp count)
  | .tryRead handle => exchange.onHandle? handle .tryRead
  | .drain handle => exchange.onHandle? handle .drain
  | .read handle => exchange.onHandle? handle .read
  | .poll reader => (exchange.readers[reader]?).map fun ref => (ref.queue, .poll ref.reader)
  | .cancel reader => (exchange.readers[reader]?).map fun ref => (ref.queue, .cancel ref.reader)

def numbered (exchange : Exchange) : Reply → Reply
  | .started _ poll => .started exchange.readers.length poll
  | reply => reply

def readersAfter (exchange : Exchange) (queue : Nat) : Reply → List ReaderRef
  | .started reader _ => exchange.readers ++ [⟨queue, reader⟩]
  | _ => exchange.readers

def perform (exchange : Exchange) (queue : Nat) (op : Op) : Answer × Exchange :=
  match exchange.queues[queue]? with
  | none => (.unknown, exchange)
  | some fifo =>
      let (reply, next) := fifo.apply op
      (.replied (exchange.numbered reply),
        { exchange with
          queues := exchange.queues.set queue next
          readers := exchange.readersAfter queue reply })

def create (exchange : Exchange) (channel depth : Nat) : Answer × Exchange :=
  if maxDepth < depth then (.tooDeep, exchange)
  else
    (.created exchange.handles.length channel,
      { exchange with
        queues := exchange.queues ++ [Fifo.create channel depth]
        handles := exchange.handles ++ [exchange.queues.length] })

def clone (exchange : Exchange) (handle : Nat) : Answer × Exchange :=
  match exchange.handles[handle]? with
  | none => (.unknown, exchange)
  | some queue =>
      match exchange.queues[queue]? with
      | none => (.unknown, exchange)
      | some fifo =>
          (.created exchange.handles.length fifo.channel,
            { exchange with handles := exchange.handles ++ [queue] })

def step (exchange : Exchange) (step : Step) : Answer × Exchange :=
  match step with
  | .create channel depth => exchange.create channel depth
  | .clone handle => exchange.clone handle
  | step =>
      match exchange.target? step with
      | none => (.unknown, exchange)
      | some (queue, op) => exchange.perform queue op

def run (exchange : Exchange) : List Step → List Answer × Exchange
  | [] => ([], exchange)
  | step :: rest =>
      let (answer, next) := exchange.step step
      let (answers, last) := next.run rest
      (answer :: answers, last)

end Exchange

end Transceiver.Fifo
