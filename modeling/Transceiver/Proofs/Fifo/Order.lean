import Transceiver.Proofs.Fifo.Endpoints
import Transceiver.Proofs.Fifo.Exchange

/-!
The order of service of one queue: what any run of writes, immediate reads, waiting reads and
cancellations through its handles gives.
-/

namespace Transceiver.Fifo

def Response.closed : Response → Bool
  | .written (.error fault) => fault = .fifoClosed
  | .filled _ refusals => refusals.contains .fifoClosed
  | .started _ (.finished vector) => vector.isNone
  | .polled (.finished vector) => vector.isNone
  | _ => false

theorem closed_of (reply : Reply) : (Response.of reply).closed = false := by
  cases reply with
  | filled accepted refused => simp [Response.of, Response.closed]
  | started reader poll | polled poll =>
      cases poll with
      | _ => rfl
  | _ => rfl

structure Exchange.Orderly (exchange : Exchange) (fifo : Fifo) (channel depth : Nat)
    (history : History) : Prop where
  only : exchange.queues = [fifo]
  ordered : history.accepted = history.delivered ++ fifo.queued
  bounded : fifo.queued.length ≤ max depth 1
  unclosed : ∃ responses,
    (Endpoints.create channel depth).applyAll (history.map Prod.fst) = (responses, fifo.ends) ∧
      responses = history.map (fun (_, reply) => Response.of reply) ∧
      ∀ response ∈ responses, response.closed = false
  settled : ∀ reader < fifo.started, reader ∈ fifo.waiting ∨ history.settles reader = true
  answered : ∀ step op, step.op? = some op →
    exchange.step step =
      if step.known exchange then exchange.perform 0 op else (.unknown, exchange)
  cloned : ∀ handle < exchange.handles.length,
    exchange.step (.clone handle) = (.created exchange.handles.length channel,
      { exchange with handles := exchange.handles ++ [0] })
  write : ∀ handle < exchange.handles.length, ∀ vector,
    exchange.step (.write handle vector) =
      if fifo.queued.length < max depth 1 then
        (.replied .accepted,
          { exchange with queues := [{ fifo with queued := fifo.queued ++ [vector] }] })
      else (.replied .full, exchange)
  writes : ∀ writes : List (Nat × SampleVector),
    (∀ write ∈ writes, write.1 < exchange.handles.length) →
    exchange.run (writes.map fun (handle, vector) => .write handle vector) =
      (List.replicate (min writes.length (max depth 1 - fifo.queued.length)) (.replied .accepted) ++
          List.replicate (writes.length - (max depth 1 - fifo.queued.length)) (.replied .full),
        { exchange with
          queues := [{ fifo with
            queued := fifo.queued ++
              (writes.map Prod.snd).take (max depth 1 - fifo.queued.length) }] })

/-- Whatever is done with the only queue through its handles, it hands out what it accepted, in that
order and without loss, and answers as its two ends do, which never close. -/
theorem run_orderly (channel depth : Nat) (shallow : depth ≤ maxDepth) (steps : List Step)
    (single : ∀ step ∈ steps, step.creates = false) :
    ∃ fifo answers last,
      ({} : Exchange).run (.create channel depth :: steps) =
          (.created 0 channel :: answers, last) ∧
        last.Orderly fifo channel depth (history steps answers) := by
  have sole : Exchange.Sole ⟨[create channel depth], [0], []⟩ (create channel depth) :=
    ⟨rfl, by simp, by simp [create], sound_create channel depth⟩
  have created : ({} : Exchange).step (.create channel depth) =
      (.created 0 channel, ⟨[create channel depth], [0], []⟩) := by
    simp [Exchange.step, Exchange.create, Nat.not_lt.mpr shallow]
  obtain ⟨fifo, final, answers⟩ := sole.run steps single
  obtain ⟨sameChannel, sameCapacity⟩ := answers.keeps
  refine ⟨fifo, _, _, by rw [Exchange.run, created], ?_⟩
  constructor
  · exact final.queue
  · exact answers.conserves
  · rw [← show fifo.capacity = max depth 1 from sameCapacity]
    exact final.sound.bounded
  · refine ⟨_, ?_, rfl, ?_⟩
    · rw [show Endpoints.create channel depth = (create channel depth).ends from rfl,
        ends_applyAll, answers, List.map_map]
      rfl
    · intro response member
      obtain ⟨⟨_, reply⟩, _, rfl⟩ := List.mem_map.mp member
      exact closed_of reply
  · intro reader begun
    rcases answers.settles (sound_create channel depth) reader begun with
      waits | settled | ⟨earlier, _⟩
    · exact .inl waits
    · exact .inr settled
    · exact absurd earlier (Nat.not_lt_zero reader)
  · exact fun step op asked => final.answered asked
  · intro handle known
    rw [final.cloned, if_pos known, show fifo.channel = channel from sameChannel]
  · intro handle known vector
    rw [final.write handle known vector, show fifo.capacity = max depth 1 from sameCapacity]
  · intro writes known
    rw [final.writes writes known, room, show fifo.capacity = max depth 1 from sameCapacity]

theorem run_orderly_past_reader :
    let vector : SampleVector := ⟨7, []⟩
    let steps : List Step :=
      [.clone 0, .read 0, .write 1 vector, .write 0 vector, .tryRead 1, .poll 0]
    1 ≤ maxDepth ∧ (∀ step ∈ steps, step.creates = false) ∧
      ∃ fifo answers last,
        ({} : Exchange).run (.create 3 1 :: steps) = (.created 0 3 :: answers, last) ∧
          last.Orderly fifo 3 1 (history steps answers) := by
  intro vector steps
  have single : ∀ step ∈ steps, step.creates = false := by decide
  exact ⟨by decide, single, run_orderly 3 1 (by decide) steps single⟩

end Transceiver.Fifo
