import Transceiver.Fault
import Transceiver.Proofs.Fifo.Basic

/-!
A queue by its two ends: a bounded channel that knows whether its receiver and any sender are left,
and a fair lock around the receiver. A queue keeps both ends for itself, so no operation ever finds
the channel closed, and it answers as the queue does.
-/

namespace Transceiver.Fifo

/-- A bounded channel. Without a receiver it takes nothing more; without a sender it ends once it is
empty. -/
structure Channel where
  capacity : Nat
  buffer : List SampleVector := []
  senders : Nat := 1
  receiver : Bool := true

namespace Channel

inductive Refusal
  | full
  | closed

inductive Receipt
  | item (vector : SampleVector)
  | empty
  | closed

def send (channel : Channel) (vector : SampleVector) : Except Refusal Channel :=
  if channel.receiver then
    if channel.buffer.length < channel.capacity then
      .ok { channel with buffer := channel.buffer ++ [vector] }
    else .error .full
  else .error .closed

def receive (channel : Channel) : Receipt × Channel :=
  match channel.buffer with
  | vector :: rest => (.item vector, { channel with buffer := rest })
  | [] => (if channel.senders = 0 then .closed else .empty, channel)

end Channel

structure Endpoints where
  number : Nat
  channel : Channel
  /-- The reader that holds the receiver's lock, and behind it those in line for the lock. -/
  line : List Nat := []
  started : Nat := 0

inductive Progress
  | pending
  | finished (found : Option SampleVector)
  | gone

inductive Response
  | written (result : Except Fault Unit)
  | filled (accepted : Nat) (refusals : List Fault)
  | found (vector : Option SampleVector)
  | drained (vectors : List SampleVector)
  | started (reader : Nat) (progress : Progress)
  | polled (progress : Progress)
  | cancelled

namespace Endpoints

def create (number depth : Nat) : Endpoints where
  number
  channel := { capacity := max depth 1 }

def write (ends : Endpoints) (vector : SampleVector) : Except Fault Unit × Endpoints :=
  match ends.channel.send vector with
  | .ok sent => (.ok (), { ends with channel := sent })
  | .error .full => (.error .fifoFull, ends)
  | .error .closed => (.error .fifoClosed, ends)

def writeEach (ends : Endpoints) : List SampleVector → Nat × List Fault × Endpoints
  | [] => (0, [], ends)
  | vector :: later =>
      let (result, next) := ends.write vector
      let (accepted, refusals, last) := next.writeEach later
      match result with
      | .ok _ => (accepted + 1, refusals, last)
      | .error fault => (accepted, fault :: refusals, last)

def tryRead (ends : Endpoints) : Option SampleVector × Endpoints :=
  match ends.line with
  | _ :: _ => (none, ends)
  | [] =>
      match ends.channel.receive with
      | (.item vector, rest) => (some vector, { ends with channel := rest })
      | (_, _) => (none, ends)

def drain (ends : Endpoints) : Nat → List SampleVector × Endpoints
  | 0 => ([], ends)
  | tries + 1 =>
      match ends.tryRead with
      | (none, next) => ([], next)
      | (some vector, next) =>
          let (vectors, last) := next.drain tries
          (vector :: vectors, last)

def poll (ends : Endpoints) (reader : Nat) : Progress × Endpoints :=
  if reader ∈ ends.line then
    if ends.line.head? = some reader then
      match ends.channel.receive with
      | (.item vector, rest) =>
          (.finished (some vector), { ends with channel := rest, line := ends.line.tail })
      | (.closed, _) => (.finished none, { ends with line := ends.line.tail })
      | (.empty, _) => (.pending, ends)
    else (.pending, ends)
  else (.gone, ends)

def apply (ends : Endpoints) : Op → Response × Endpoints
  | .write vector =>
      let (result, next) := ends.write vector
      (.written result, next)
  | .fill timestamp count =>
      let (accepted, refusals, next) := ends.writeEach (consecutive timestamp count)
      (.filled accepted refusals, next)
  | .tryRead =>
      let (vector, next) := ends.tryRead
      (.found vector, next)
  | .drain =>
      let (vectors, next) := ends.drain (ends.channel.buffer.length + 1)
      (.drained vectors, next)
  | .read =>
      let reader := ends.started
      let (progress, next) :=
        { ends with line := ends.line ++ [reader], started := reader + 1 }.poll reader
      (.started reader progress, next)
  | .poll reader =>
      let (progress, next) := ends.poll reader
      (.polled progress, next)
  | .cancel reader => (.cancelled, { ends with line := ends.line.filter (· ≠ reader) })

def applyAll (ends : Endpoints) : List Op → List Response × Endpoints
  | [] => ([], ends)
  | op :: rest =>
      let (response, next) := ends.apply op
      let (responses, last) := next.applyAll rest
      (response :: responses, last)

end Endpoints

def Progress.of : Poll → Progress
  | .pending => .pending
  | .item vector => .finished (some vector)
  | .gone => .gone

def Response.of : Reply → Response
  | .accepted => .written (.ok ())
  | .full => .written (.error .fifoFull)
  | .filled accepted refused => .filled accepted (List.replicate refused .fifoFull)
  | .vector vector => .found vector
  | .drained vectors => .drained vectors
  | .started reader poll => .started reader (.of poll)
  | .polled poll => .polled (.of poll)
  | .cancelled => .cancelled

def ends (fifo : Fifo) : Endpoints where
  number := fifo.channel
  channel := { capacity := fifo.capacity, buffer := fifo.queued }
  line := fifo.waiting
  started := fifo.started

theorem ends_write (fifo : Fifo) (vector : SampleVector) :
    fifo.ends.write vector =
      match fifo.write? vector with
      | some written => (.ok (), written.ends)
      | none => (.error .fifoFull, fifo.ends) := by
  by_cases space : fifo.queued.length < fifo.capacity
  · simp [Endpoints.write, Channel.send, ends, write?, space]
  · simp [Endpoints.write, Channel.send, ends, write?, space]

theorem writeAll_cons (fifo : Fifo) (vector : SampleVector) (later : List SampleVector)
    (space : fifo.queued.length < fifo.capacity) :
    fifo.writeAll (vector :: later) =
      let next := { fifo with queued := fifo.queued ++ [vector] }
      ((next.writeAll later).1 + 1, (next.writeAll later).2) := by
  simp [writeAll, fifo.room_of_space vector space]

theorem writeAll_full (fifo : Fifo) (vectors : List SampleVector)
    (full : ¬fifo.queued.length < fifo.capacity) : fifo.writeAll vectors = (0, fifo) := by
  simp [writeAll, fifo.room_of_full full]

theorem ends_writeEach (fifo : Fifo) (vectors : List SampleVector) :
    fifo.ends.writeEach vectors =
      ((fifo.writeAll vectors).1,
        List.replicate (vectors.length - (fifo.writeAll vectors).1) .fifoFull,
        (fifo.writeAll vectors).2.ends) := by
  induction vectors generalizing fifo with
  | nil => simp [Endpoints.writeEach, writeAll]
  | cons vector later ih =>
      rw [Endpoints.writeEach, ends_write]
      by_cases space : fifo.queued.length < fifo.capacity
      · simp [write?, space, ih, writeAll_cons]
      · simp [write?, space, ih, writeAll_full, List.replicate_succ]

theorem ends_tryRead (fifo : Fifo) :
    fifo.ends.tryRead = (fifo.tryRead.1, fifo.tryRead.2.ends) := by
  cases waiting : fifo.waiting with
  | nil =>
      cases queued : fifo.queued with
      | nil => simp [Endpoints.tryRead, Channel.receive, ends, tryRead, waiting, queued]
      | cons vector rest =>
          simp [Endpoints.tryRead, Channel.receive, ends, tryRead, waiting, queued]
  | cons first later => simp [Endpoints.tryRead, ends, tryRead, waiting]

theorem ends_drain (fifo : Fifo) (tries : Nat) (enough : fifo.queued.length < tries) :
    fifo.ends.drain tries = (fifo.drain.1, fifo.drain.2.ends) := by
  induction tries generalizing fifo with
  | zero => omega
  | succ tries ih =>
      rw [Endpoints.drain, ends_tryRead]
      obtain ⟨channel, capacity, queued, waiting, started⟩ := fifo
      cases waiting with
      | nil =>
          cases queued with
          | nil => rfl
          | cons vector rest =>
              have shorter := ih ⟨channel, capacity, rest, [], started⟩
                (Nat.lt_of_succ_lt_succ enough)
              simp [tryRead, shorter, drain]
      | cons first later => rfl

theorem ends_poll (fifo : Fifo) (reader : Nat) :
    fifo.ends.poll reader = (.of (fifo.poll reader).1, (fifo.poll reader).2.ends) := by
  rcases fifo.poll_cases reader with
    ⟨vector, rest, later, queued, waiting, polled⟩ | ⟨member, idle, polled⟩ | ⟨absent, polled⟩
  · simp [Endpoints.poll, Channel.receive, ends, queued, waiting, polled, Progress.of]
  · rcases idle with empty | behind
    · simp [Endpoints.poll, Channel.receive, ends, member, empty, polled, Progress.of]
    · simp [Endpoints.poll, ends, member, behind, polled, Progress.of]
  · simp [Endpoints.poll, ends, absent, polled, Progress.of]

/-- Every operation finds both ends kept, answers as the queue does, and keeps both ends. -/
theorem ends_apply (fifo : Fifo) (op : Op) :
    fifo.ends.apply op = (.of (fifo.apply op).1, (fifo.apply op).2.ends) := by
  cases op with
  | write vector =>
      by_cases space : fifo.queued.length < fifo.capacity
      · simp [Endpoints.apply, ends_write, apply, write?, space, Response.of]
      · simp [Endpoints.apply, ends_write, apply, write?, space, Response.of]
  | fill timestamp count =>
      -- The queue makes only the vectors it has room for.
      have enough : fifo.writeAll (consecutive timestamp count) =
          fifo.writeAll (consecutive timestamp (min count fifo.room)) := by
        simp only [writeAll, take_consecutive]
        rw [Nat.min_comm count, ← Nat.min_assoc, Nat.min_self]
      simp [Endpoints.apply, ends_writeEach, apply, Response.of, enough]
  | tryRead => simp [Endpoints.apply, ends_tryRead, apply, Response.of]
  | drain =>
      have drained := fifo.ends_drain (fifo.queued.length + 1) (Nat.lt_succ_self _)
      simp only [Endpoints.apply, apply, Response.of]
      rw [show fifo.ends.channel.buffer = fifo.queued from rfl, drained]
  | read =>
      have polled := fifo.start.2.ends_poll fifo.started
      simp only [Endpoints.apply, apply, Response.of]
      exact congrArg (fun found => (Response.started fifo.started found.1, found.2)) polled
  | poll reader => simp [Endpoints.apply, ends_poll, apply, Response.of]
  | cancel reader => rfl

theorem ends_applyAll (fifo : Fifo) (ops : List Op) :
    fifo.ends.applyAll ops =
      ((fifo.applyAll ops).1.map .of, (fifo.applyAll ops).2.ends) := by
  induction ops generalizing fifo with
  | nil => rfl
  | cons op rest ih => simp [Endpoints.applyAll, applyAll, ends_apply, ih]

end Transceiver.Fifo
