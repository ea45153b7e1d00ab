import Transceiver.Fifo.Exchange
import Transceiver.Proofs.Fifo.Basic

/-!
One queue behind any number of handles. As long as no other queue is made, every step on a known
handle or reader is one operation on that queue, so what a step preserves there holds after every
run.
-/

namespace Transceiver.Fifo

namespace Step

def creates : Step → Bool
  | .create _ _ => true
  | _ => false

def op? : Step → Option Op
  | .create _ _ | .clone _ => none
  | .write _ vector => some (.write vector)
  | .fill _ timestamp count => some (.fill timestamp count)
  | .tryRead _ => some .tryRead
  | .drain _ => some .drain
  | .read _ => some .read
  | .poll reader => some (.poll reader)
  | .cancel reader => some (.cancel reader)

def known (exchange : Exchange) : Step → Bool
  | .create _ _ => true
  | .clone handle | .write handle _ | .fill handle _ _ | .tryRead handle | .drain handle
  | .read handle => handle < exchange.handles.length
  | .poll reader | .cancel reader => reader < exchange.readers.length

end Step

def history (steps : List Step) (answers : List Answer) : History :=
  (steps.zip answers).filterMap fun (step, answer) =>
    match answer with
    | .replied reply => step.op?.map (·, reply)
    | _ => none

namespace Exchange

structure Sole (exchange : Exchange) (fifo : Fifo) : Prop where
  queue : exchange.queues = [fifo]
  named : ∀ handle ∈ exchange.handles, handle = 0
  numbered : exchange.readers = (List.range fifo.started).map (⟨0, ·⟩)
  sound : fifo.Sound

theorem sole_create (channel depth : Nat) :
    Sole ⟨[Fifo.create channel depth], [0], []⟩ (Fifo.create channel depth) := by
  constructor
  · rfl
  · simp
  · simp [Fifo.create]
  · exact sound_create channel depth

theorem step_create {channel depth : Nat} (shallow : depth ≤ maxDepth) :
    ({} : Exchange).step (.create channel depth) =
      (.created 0 channel, ⟨[Fifo.create channel depth], [0], []⟩) := by
  simp [step, create, Nat.not_lt.mpr shallow]

theorem Sole.handle {exchange : Exchange} {fifo : Fifo} (sole : exchange.Sole fifo)
    (handle : Nat) :
    exchange.handles[handle]? = if handle < exchange.handles.length then some 0 else none := by
  by_cases bound : handle < exchange.handles.length
  · have first := sole.named _ (List.getElem_mem bound)
    simp [bound, first]
  · simp [bound]

theorem Sole.reader {exchange : Exchange} {fifo : Fifo} (sole : exchange.Sole fifo)
    (reader : Nat) :
    exchange.readers[reader]? =
      if reader < exchange.readers.length then some ⟨0, reader⟩ else none := by
  rw [sole.numbered]
  by_cases bound : reader < fifo.started
  · simp [bound]
  · simp [bound]

theorem Sole.same {exchange : Exchange} {fifo : Fifo} (sole : exchange.Sole fifo) :
    { exchange with queues := [fifo] } = exchange := by
  rw [← sole.queue]

theorem Sole.count {exchange : Exchange} {fifo : Fifo} (sole : exchange.Sole fifo) :
    exchange.readers.length = fifo.started := by
  simp [sole.numbered]

theorem Sole.performed {exchange : Exchange} {fifo : Fifo} (sole : exchange.Sole fifo) (op : Op) :
    exchange.perform 0 op =
      (.replied (exchange.numbered (fifo.apply op).1),
        { exchange with
          queues := [(fifo.apply op).2]
          readers := exchange.readersAfter 0 (fifo.apply op).1 }) := by
  simp [Exchange.perform, sole.queue]

theorem Sole.perform {exchange : Exchange} {fifo : Fifo} (sole : exchange.Sole fifo) (op : Op) :
    (exchange.perform 0 op).1 = .replied (fifo.apply op).1 ∧
      (exchange.perform 0 op).2.Sole (fifo.apply op).2 := by
  have count := sole.count
  have sound := sole.sound.apply op
  rw [sole.performed]
  by_cases begins : op = .read
  · subst begins
    rcases fifo.apply_read sole.sound.numbered with applied | ⟨_, _, _, _, applied⟩
    · rw [applied] at sound ⊢
      refine ⟨by simp [Exchange.numbered, count], rfl, sole.named, ?_, sound⟩
      simp [readersAfter, sole.numbered, List.range_succ]
    · rw [applied] at sound ⊢
      refine ⟨by simp [Exchange.numbered, count], rfl, sole.named, ?_, sound⟩
      simp [readersAfter, sole.numbered, List.range_succ]
  · obtain ⟨started, unnumbered, _, _⟩ := fifo.apply_readers op begins
    refine ⟨by simp only [Exchange.numbered], rfl, sole.named, ?_, sound⟩
    simp only [readersAfter, started]
    exact sole.numbered

theorem Sole.target {exchange : Exchange} {fifo : Fifo} (sole : exchange.Sole fifo)
    {step : Step} {op : Op} (asked : step.op? = some op) :
    exchange.target? step = if step.known exchange then some (0, op) else none := by
  have onHandle (handle : Nat) : exchange.onHandle? handle op =
      if handle < exchange.handles.length then some (0, op) else none := by
    rw [onHandle?, sole.handle]
    split
    · rfl
    · rfl
  have onReader (reader : Nat) (look : Nat → Op) :
      (exchange.readers[reader]?).map (fun ref => (ref.queue, look ref.reader)) =
        if reader < exchange.readers.length then some (0, look reader) else none := by
    rw [sole.reader]
    split
    · rfl
    · rfl
  cases step with
  | create | clone => cases asked
  | poll reader =>
      cases asked
      simpa [target?, Step.known] using onReader reader .poll
  | cancel reader =>
      cases asked
      simpa [target?, Step.known] using onReader reader .cancel
  | write handle | fill handle | tryRead handle | drain handle | read handle =>
      cases asked
      simpa [target?, Step.known] using onHandle handle

theorem step_of_op (exchange : Exchange) {step : Step} {op : Op} (asked : step.op? = some op) :
    exchange.step step =
      match exchange.target? step with
      | none => (.unknown, exchange)
      | some (queue, op) => exchange.perform queue op := by
  cases step with
  | create | clone => cases asked
  | _ => rfl

theorem Sole.answered {exchange : Exchange} {fifo : Fifo} (sole : exchange.Sole fifo)
    {step : Step} {op : Op} (asked : step.op? = some op) :
    exchange.step step =
      if step.known exchange then exchange.perform 0 op else (.unknown, exchange) := by
  rw [exchange.step_of_op asked, sole.target asked]
  by_cases known : step.known exchange = true
  · simp [known]
  · simp [known]

theorem Sole.cloned {exchange : Exchange} {fifo : Fifo} (sole : exchange.Sole fifo)
    (handle : Nat) :
    exchange.step (.clone handle) =
      if handle < exchange.handles.length then
        (.created exchange.handles.length fifo.channel,
          { exchange with handles := exchange.handles ++ [0] })
      else (.unknown, exchange) := by
  simp only [Exchange.step, Exchange.clone, sole.handle]
  by_cases known : handle < exchange.handles.length
  · simp [known, sole.queue]
  · simp [known]

/-- A reader that a known step cancels was started. -/
theorem Sole.cancels_started {exchange : Exchange} {fifo : Fifo} (sole : exchange.Sole fifo)
    {step : Step} {reader : Nat} (asked : step.op? = some (.cancel reader))
    (known : step.known exchange = true) : reader < fifo.started := by
  cases step with
  | cancel target =>
      cases asked
      simpa [Step.known, sole.count] using known
  | _ => cases asked

theorem Sole.step {exchange : Exchange} {fifo : Fifo} (sole : exchange.Sole fifo) (step : Step)
    (single : step.creates = false) :
    ((∀ reply, (exchange.step step).1 ≠ .replied reply) ∧ (exchange.step step).2.Sole fifo) ∨
      ∃ op, step.op? = some op ∧ (∀ reader, op = .cancel reader → reader < fifo.started) ∧
        (exchange.step step).1 = .replied (fifo.apply op).1 ∧
        (exchange.step step).2.Sole (fifo.apply op).2 := by
  cases asked : step.op? with
  | some op =>
      rw [sole.answered asked]
      by_cases known : step.known exchange = true
      · rw [if_pos known]
        refine .inr ⟨op, rfl, ?_, sole.perform op⟩
        rintro reader rfl
        exact sole.cancels_started asked known
      · rw [if_neg known]
        exact .inl ⟨by simp, sole⟩
  | none =>
      cases step with
      | create channel depth => cases single
      | clone handle =>
          rw [sole.cloned]
          by_cases known : handle < exchange.handles.length
          · rw [if_pos known]
            refine .inl ⟨by simp, sole.queue, ?_, sole.numbered, sole.sound⟩
            intro named member
            rcases List.mem_append.mp member with earlier | new
            · exact sole.named named earlier
            · exact List.mem_singleton.mp new
          · rw [if_neg known]
            exact .inl ⟨by simp, sole⟩
      | _ => cases asked

/-- What every operation keeps of the history up to it and of the queue, every run on the only queue
keeps, whatever handles the steps name. -/
theorem Sole.run_keeps {kept : History → Fifo → Prop}
    (keeps : ∀ past fifo op, fifo.Sound → (∀ reader, op = .cancel reader → reader < fifo.started) →
      kept past fifo → kept (past ++ [(op, (fifo.apply op).1)]) (fifo.apply op).2)
    {exchange : Exchange} {fifo : Fifo} (sole : exchange.Sole fifo) (steps : List Step)
    (single : ∀ step ∈ steps, step.creates = false) (past : History) (before : kept past fifo) :
    ∃ last, (exchange.run steps).2.Sole last ∧
      kept (past ++ history steps (exchange.run steps).1) last := by
  induction steps generalizing exchange fifo past with
  | nil => exact ⟨fifo, sole, by simpa [history] using before⟩
  | cons step rest ih =>
      have later (next : Step) (member : next ∈ rest) : next.creates = false :=
        single next (List.mem_cons_of_mem step member)
      rcases sole.step step (single step List.mem_cons_self) with
        ⟨silent, same⟩ | ⟨op, asked, started, replied, served⟩
      · obtain ⟨last, final, held⟩ := ih same later past before
        refine ⟨last, final, ?_⟩
        have skipped : history (step :: rest) (exchange.run (step :: rest)).1 =
            history rest ((exchange.step step).2.run rest).1 := by
          cases answer : (exchange.step step).1 with
          | replied reply => exact absurd answer (silent reply)
          | _ => simp [history, Exchange.run, answer]
        rw [skipped]
        exact held
      · have next := keeps past fifo op sole.sound started before
        obtain ⟨last, final, held⟩ := ih served later _ next
        refine ⟨last, final, ?_⟩
        have first : history (step :: rest) (exchange.run (step :: rest)).1 =
            (op, (fifo.apply op).1) :: history rest ((exchange.step step).2.run rest).1 := by
          simp [history, Exchange.run, replied, asked]
        rw [first, List.append_cons]
        exact held

/-- Every run on the only queue is a run of that queue alone. -/
theorem Sole.run {exchange : Exchange} {fifo : Fifo} (sole : exchange.Sole fifo)
    (steps : List Step) (single : ∀ step ∈ steps, step.creates = false) :
    ∃ last, (exchange.run steps).2.Sole last ∧
      fifo.Answers (history steps (exchange.run steps).1) last := by
  have keeps (past : History) (current : Fifo) (op : Op) (_ : current.Sound)
      (_ : ∀ reader, op = .cancel reader → reader < current.started)
      (answers : fifo.Answers past current) :
      fifo.Answers (past ++ [(op, (current.apply op).1)]) (current.apply op).2 :=
    answers.append_singleton op
  exact sole.run_keeps keeps steps single [] rfl

theorem Sole.write {exchange : Exchange} {fifo : Fifo} (sole : exchange.Sole fifo) (handle : Nat)
    (known : handle < exchange.handles.length) (vector : SampleVector) :
    exchange.step (.write handle vector) =
      if fifo.queued.length < fifo.capacity then
        (.replied .accepted,
          { exchange with queues := [{ fifo with queued := fifo.queued ++ [vector] }] })
      else (.replied .full, exchange) := by
  rw [sole.answered rfl, if_pos (by simpa [Step.known] using known)]
  by_cases space : fifo.queued.length < fifo.capacity
  · simp [Exchange.perform, sole.queue, apply, write?, space, Exchange.numbered, readersAfter]
  · simp [Exchange.perform, sole.queue, apply, write?, space, Exchange.numbered, readersAfter,
      sole.same]

theorem Sole.writes {exchange : Exchange} {fifo : Fifo} (sole : exchange.Sole fifo)
    (writes : List (Nat × SampleVector))
    (known : ∀ write ∈ writes, write.1 < exchange.handles.length) :
    exchange.run (writes.map fun (handle, vector) => .write handle vector) =
      (List.replicate (min writes.length fifo.room) (.replied .accepted) ++
          List.replicate (writes.length - fifo.room) (.replied .full),
        { exchange with
          queues := [{ fifo with
            queued := fifo.queued ++ (writes.map Prod.snd).take fifo.room }] }) := by
  induction writes generalizing exchange fifo with
  | nil => simp [Exchange.run, sole.same]
  | cons write rest ih =>
      obtain ⟨handle, vector⟩ := write
      have first := sole.write handle (known _ List.mem_cons_self) vector
      have later : ∀ write ∈ rest, write.1 < exchange.handles.length :=
        fun write member => known write (List.mem_cons_of_mem _ member)
      by_cases space : fifo.queued.length < fifo.capacity
      · simp only [space, if_true] at first
        have longer : Sole
            { exchange with queues := [{ fifo with queued := fifo.queued ++ [vector] }] }
            { fifo with queued := fifo.queued ++ [vector] } := by
          refine ⟨rfl, sole.named, sole.numbered, ?_, sole.sound.numbered⟩
          simpa using Nat.succ_le_of_lt space
        simp [Exchange.run, first, ih longer later, fifo.room_of_space vector space,
          List.replicate_succ]
      · simp only [space, if_false] at first
        have none := fifo.room_of_full space
        simp [Exchange.run, first, ih sole later, none, List.replicate_succ]

end Exchange

end Transceiver.Fifo
