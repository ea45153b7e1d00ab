import Transceiver.Proofs.Fifo.Basic
import Transceiver.Proofs.Pipeline.Steps

/-!
Traffic through the queues of a pipeline while it is built, used and taken down. An operation
reaches its queue through a handle that was taken from an interface, or through the slot of the core
that the queue is attached to. Every queue answers as if it were alone: what reaches it is a history
of its own, and nothing else changes it.
-/

namespace Transceiver.Pipeline

inductive Move
  | step (step : Step)
  | through (handle : Nat) (op : Fifo.Op)
  | attached (channel : Nat) (op : Fifo.Op)

structure Dealing where
  queue : FifoId
  op : Fifo.Op
  reply : Fifo.Reply

def Answer.ofReply : Fifo.Reply → Answer
  | .accepted => .done
  | .full => .fault .fifoFull
  | .vector found => .vector found
  | _ => .nothing

namespace Bench

def slot? (bench : Bench) (channel : Nat) : Option FifoId :=
  match bench.level with
  | .core _ _ core => core.slot? channel
  | _ => none

def target? (bench : Bench) : Move → Option (FifoId × Fifo.Op)
  | .step (.write handle vector) => (bench.held[handle]?).map fun id => (id, .write vector)
  | .step (.read handle) => (bench.held[handle]?).map fun id => (id, .tryRead)
  | .step _ => none
  | .through handle op => (bench.held[handle]?).map fun id => (id, op)
  | .attached channel op => (bench.slot? channel).map fun id => (id, op)

def operate (bench : Bench) (id : FifoId) (op : Fifo.Op) : Bench :=
  bench.withFifo id ((bench.fifoOf id).apply op).2

def moved (bench : Bench) (move : Move) : Bench :=
  match move with
  | .step step => (bench.step step).2
  | move =>
      match bench.target? move with
      | none => bench
      | some (id, op) => bench.operate id op

def dealings (bench : Bench) (move : Move) : List Dealing :=
  (bench.target? move).toList.map fun (id, op) => ⟨id, op, ((bench.fifoOf id).apply op).1⟩

def events (bench : Bench) : Move → List Event
  | .step step => (bench.step step).1.trace.events
  | _ => []

def gather {α : Type} (leaves : Bench → Move → List α) (bench : Bench) : List Move → List α
  | [] => []
  | move :: rest => leaves bench move ++ gather leaves (bench.moved move) rest

end Bench

def historyOf (id : FifoId) (dealings : List Dealing) : Fifo.History :=
  dealings.filterMap fun dealing =>
    if dealing.queue = id then some (dealing.op, dealing.reply) else none

namespace Bench

theorem lookup_without {target id : FifoId} (differs : target ≠ id)
    (used : List (FifoId × Fifo)) :
    (used.filter (·.1 ≠ target)).lookup id = used.lookup id := by
  induction used with
  | nil => rfl
  | cons entry rest ih =>
      obtain ⟨key, fifo⟩ := entry
      by_cases dropped : key = target
      · subst key
        have other : (id == target) = false := beq_false_of_ne differs.symm
        rw [List.filter_cons_of_neg (by simp), ih, List.lookup_cons, other]
      · rw [List.filter_cons_of_pos (by simpa using dropped), List.lookup_cons, List.lookup_cons,
          ih]

theorem fifoOf_withFifo (bench : Bench) (target id : FifoId) (fifo : Fifo) :
    (bench.withFifo target fifo).fifoOf id = if target = id then fifo else bench.fifoOf id := by
  by_cases same : target = id
  · subst target
    simp [withFifo, fifoOf]
  · have other : (id == target) = false := beq_false_of_ne (Ne.symm same)
    rw [if_neg same]
    simp only [withFifo, fifoOf, List.lookup_cons, other, lookup_without same]

theorem fifoOf_operate (bench : Bench) (target id : FifoId) (op : Fifo.Op) :
    (bench.operate target op).fifoOf id =
      if target = id then ((bench.fifoOf id).apply op).2 else bench.fifoOf id := by
  rw [operate, fifoOf_withFifo]
  by_cases same : target = id
  · subst target
    simp
  · simp [same]

theorem fifoOf_write (bench : Bench) (handle : Nat) (vector : SampleVector) (id : FifoId) :
    (bench.write handle vector).2.fifoOf id =
      if bench.held[handle]? = some id then ((bench.fifoOf id).apply (.write vector)).2
      else bench.fifoOf id := by
  cases found : bench.held[handle]? with
  | none => simp [write, found]
  | some target =>
      cases written : (bench.fifoOf target).write? vector with
      | none =>
          by_cases same : target = id
          · subst target
            simp [write, found, written, Fifo.apply]
          · simp [write, found, written, same]
      | some fifo =>
          by_cases same : target = id
          · subst target
            simp [write, found, written, Fifo.apply, fifoOf_withFifo]
          · simp [write, found, written, fifoOf_withFifo, same]

theorem fifoOf_read (bench : Bench) (handle : Nat) (id : FifoId) :
    (bench.read handle).2.fifoOf id =
      if bench.held[handle]? = some id then ((bench.fifoOf id).apply .tryRead).2
      else bench.fifoOf id := by
  cases found : bench.held[handle]? with
  | none => simp [read, found]
  | some target =>
      by_cases same : target = id
      · subst target
        simp [read, found, Fifo.apply, fifoOf_withFifo]
      · simp [read, found, fifoOf_withFifo, same]

/-- A write or read on the bench is answered by the queue it reaches. -/
theorem answer_step (bench : Bench) (step : Step) :
    ∀ dealing ∈ bench.dealings (.step step),
      (bench.step step).1.answer = .ofReply dealing.reply := by
  intro dealing member
  obtain ⟨⟨id, op⟩, reached, rfl⟩ := List.mem_map.mp member
  rw [Option.mem_toList] at reached
  cases step with
  | write handle vector =>
      obtain ⟨same, found, rfl, rfl⟩ : ∃ same, bench.held[handle]? = some same ∧
          same = id ∧ .write vector = op := by simpa [target?] using reached
      cases written : (bench.fifoOf same).write? vector with
      | none => simp [Bench.step, write, found, written, Fifo.apply, Answer.ofReply]
      | some fifo => simp [Bench.step, write, found, written, Fifo.apply, Answer.ofReply]
  | read handle =>
      obtain ⟨same, found, rfl, rfl⟩ : ∃ same, bench.held[handle]? = some same ∧
          same = id ∧ .tryRead = op := by simpa [target?] using reached
      simp [Bench.step, read, found, Fifo.apply, Answer.ofReply]
  | _ => cases reached

theorem step_receiveFifo (bench : Bench) (channel : Nat) :
    bench.step (.receiveFifo channel) =
      match bench.interface? with
      | none => ({ answer := .misplaced }, bench)
      | some interface => bench.receiveFifo interface channel := by
  cases level : bench.level with
  | outside | device | interface | core => simp [Bench.step, interface?, level, stepOutside,
      stepDevice, stepInterface, stepCore]

theorem fifoOf_step (bench : Bench) {step : Step} (idle : bench.target? (.step step) = none)
    (id : FifoId) : (bench.step step).2.fifoOf id = bench.fifoOf id := by
  have same : (bench.step step).2.used = bench.used := by
    cases step with
    | write handle vector =>
        have unknown : bench.held[handle]? = none := by simpa [target?] using idle
        simp only [Bench.step, write, unknown]
    | read handle =>
        have unknown : bench.held[handle]? = none := by simpa [target?] using idle
        simp only [Bench.step, read, unknown]
    | receiveFifo channel =>
        rw [step_receiveFifo]
        split
        · rfl
        · unfold receiveFifo
          split
          · rfl
          · rfl
    | _ => exact (bench.effect_step _ rfl).frames.used
  simp only [fifoOf, same]

/-- A move applies its operation to the queue it reaches, and does nothing to any other queue. -/
theorem fifoOf_moved (bench : Bench) (move : Move) (id : FifoId) :
    (bench.moved move).fifoOf id =
      match bench.target? move with
      | none => bench.fifoOf id
      | some (target, op) =>
          if target = id then ((bench.fifoOf id).apply op).2 else bench.fifoOf id := by
  cases reached : bench.target? move with
  | none =>
      cases move with
      | step step => exact bench.fifoOf_step reached id
      | through handle op => simp [moved, reached]
      | attached channel op => simp [moved, reached]
  | some target =>
      obtain ⟨target, op⟩ := target
      cases move with
      | step step =>
          cases step with
          | write handle vector =>
              obtain ⟨same, found, rfl, rfl⟩ : ∃ same, bench.held[handle]? = some same ∧
                  same = target ∧ .write vector = op := by simpa [target?] using reached
              have written := bench.fifoOf_write handle vector id
              simp only [found, Option.some.injEq] at written
              exact written
          | read handle =>
              obtain ⟨same, found, rfl, rfl⟩ : ∃ same, bench.held[handle]? = some same ∧
                  same = target ∧ .tryRead = op := by simpa [target?] using reached
              have taken := bench.fifoOf_read handle id
              simp only [found, Option.some.injEq] at taken
              exact taken
          | _ => cases reached
      | through handle other =>
          simp only [moved, reached]
          exact bench.fifoOf_operate target id op
      | attached channel other =>
          simp only [moved, reached]
          exact bench.fifoOf_operate target id op

theorem answers_moved (bench : Bench) (move : Move) (id : FifoId) :
    (bench.fifoOf id).Answers (historyOf id (bench.dealings move))
      ((bench.moved move).fifoOf id) := by
  rw [fifoOf_moved]
  cases reached : bench.target? move with
  | none =>
      simp only [dealings, reached]
      rfl
  | some target =>
      obtain ⟨target, op⟩ := target
      by_cases same : target = id
      · subst target
        simp only [dealings, reached, historyOf, Option.toList_some, List.map_cons, List.map_nil,
          List.filterMap_cons, List.filterMap_nil, if_true]
        rfl
      · simp only [dealings, reached, historyOf, Option.toList_some, List.map_cons, List.map_nil,
          List.filterMap_cons, List.filterMap_nil, if_neg same]
        rfl

/-- Every queue answers its own history, whatever is done with the others and with the pipeline. -/
theorem answers_historyOf (bench : Bench) (moves : List Move) (id : FifoId) :
    (bench.fifoOf id).Answers (historyOf id (bench.gather dealings moves))
      ((moves.foldl moved bench).fifoOf id) := by
  induction moves generalizing bench with
  | nil => rfl
  | cons move rest ih =>
      have split : historyOf id (bench.gather dealings (move :: rest)) =
          historyOf id (bench.dealings move) ++
            historyOf id ((bench.moved move).gather dealings rest) := List.filterMap_append
      rw [split]
      exact (bench.answers_moved move id).append (ih (bench.moved move))

end Bench

end Transceiver.Pipeline
