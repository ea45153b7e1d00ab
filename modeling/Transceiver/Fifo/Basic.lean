import Transceiver.SampleVector

/-!
The bounded receive queue of one channel. Readers that wait are served strictly in the order in
which they started: only the earliest unfinished one takes vectors, and no immediate read takes one
past them.
-/

namespace Transceiver

structure Fifo where
  channel : Nat
  capacity : Nat
  queued : List SampleVector := []
  /-- The unfinished readers in the order in which they started. -/
  waiting : List Nat := []
  /-- How many readers were ever started; the next one takes this number. -/
  started : Nat := 0
  deriving DecidableEq, Repr

inductive Poll
  | pending
  | item (vector : SampleVector)
  | gone
  deriving DecidableEq, Repr

namespace Fifo

def defaultDepth : Nat := 64

def maxDepth : Nat := 2 ^ 61 - 1

def create (channel depth : Nat) : Fifo where
  channel
  capacity := max depth 1

def room (fifo : Fifo) : Nat :=
  fifo.capacity - fifo.queued.length

def write? (fifo : Fifo) (vector : SampleVector) : Option Fifo :=
  if fifo.queued.length < fifo.capacity then
    some { fifo with queued := fifo.queued ++ [vector] }
  else none

def tryRead (fifo : Fifo) : Option SampleVector × Fifo :=
  match fifo.waiting, fifo.queued with
  | [], vector :: rest => (some vector, { fifo with queued := rest })
  | _, _ => (none, fifo)

def drain (fifo : Fifo) : List SampleVector × Fifo :=
  match fifo.waiting with
  | [] => (fifo.queued, { fifo with queued := [] })
  | _ :: _ => ([], fifo)

/-- Looks at a reader: the earliest unfinished one takes the oldest vector and is finished. -/
def poll (fifo : Fifo) (reader : Nat) : Poll × Fifo :=
  if reader ∈ fifo.waiting then
    match fifo.queued with
    | vector :: rest =>
        if fifo.waiting.head? = some reader then
          (.item vector, { fifo with queued := rest, waiting := fifo.waiting.tail })
        else (.pending, fifo)
    | [] => (.pending, fifo)
  else (.gone, fifo)

def start (fifo : Fifo) : Nat × Fifo :=
  (fifo.started,
    { fifo with waiting := fifo.waiting ++ [fifo.started], started := fifo.started + 1 })

def cancel (fifo : Fifo) (reader : Nat) : Fifo :=
  { fifo with waiting := fifo.waiting.filter (· ≠ reader) }

def writeAll (fifo : Fifo) (vectors : List SampleVector) : Nat × Fifo :=
  let accepted := vectors.take fifo.room
  (accepted.length, { fifo with queued := fifo.queued ++ accepted })

inductive Op
  | write (vector : SampleVector)
  | fill (timestamp : UInt64) (count : Nat)
  | tryRead
  | drain
  | read
  | poll (reader : Nat)
  | cancel (reader : Nat)
  deriving DecidableEq, Repr

inductive Reply
  | accepted
  | full
  | filled (accepted refused : Nat)
  | vector (vector : Option SampleVector)
  | drained (vectors : List SampleVector)
  | started (reader : Nat) (poll : Poll)
  | polled (poll : Poll)
  | cancelled
  deriving DecidableEq, Repr

def consecutive (timestamp : UInt64) (count : Nat) : List SampleVector :=
  (List.range count).map fun index => ⟨timestamp + UInt64.ofNat index, []⟩

def apply (fifo : Fifo) : Op → Reply × Fifo
  | .write vector =>
      match fifo.write? vector with
      | some written => (.accepted, written)
      | none => (.full, fifo)
  | .fill timestamp count =>
      let (accepted, written) := fifo.writeAll (consecutive timestamp (min count fifo.room))
      (.filled accepted (count - accepted), written)
  | .tryRead =>
      let (vector, rest) := fifo.tryRead
      (.vector vector, rest)
  | .drain =>
      let (vectors, rest) := fifo.drain
      (.drained vectors, rest)
  | .read =>
      let (reader, begun) := fifo.start
      let (poll, rest) := begun.poll reader
      (.started reader poll, rest)
  | .poll reader =>
      let (poll, rest) := fifo.poll reader
      (.polled poll, rest)
  | .cancel reader => (.cancelled, fifo.cancel reader)

def applyAll (fifo : Fifo) : List Op → List Reply × Fifo
  | [] => ([], fifo)
  | op :: rest =>
      let (reply, next) := fifo.apply op
      let (replies, last) := next.applyAll rest
      (reply :: replies, last)

end Fifo

end Transceiver
