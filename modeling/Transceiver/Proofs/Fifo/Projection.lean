import Transceiver.Proofs.Fifo.Effects

/-!
One queue of many: the exchange and a run as they are with that queue alone. A step on another queue
leaves this one's part as it was, and a step on this one does the same there, so its part of any run
is a run of its own.
-/

namespace Transceiver.Fifo

/-- An element that a filter keeps stands behind those kept before it. -/
theorem getElem?_filter_of_kept {α : Type} (keeps : α → Bool) {list : List α} {index : Nat}
    {found : α} (there : list[index]? = some found) (kept : keeps found = true) :
    (list.filter keeps)[(list.take index).countP keeps]? = some found := by
  obtain ⟨bound, same⟩ := List.getElem?_eq_some_iff.mp there
  have split : list = list.take index ++ found :: list.drop (index + 1) := by
    rw [← same, ← List.drop_eq_getElem_cons bound, List.take_append_drop]
  have parts : list.filter keeps =
      (list.take index).filter keeps ++ found :: (list.drop (index + 1)).filter keeps := by
    rw [← List.filter_cons_of_pos kept, ← List.filter_append, ← split]
  rw [parts, List.countP_eq_length_filter, List.getElem?_append_right (Nat.le_refl _),
    Nat.sub_self]
  rfl

namespace Exchange

def restrict (queue : Nat) (exchange : Exchange) : Exchange where
  queues := exchange.queues[queue]?.toList
  handles := (exchange.handles.filter (· = queue)).map fun _ => 0
  readers := (exchange.readers.filter (·.queue = queue)).map fun ref => ⟨0, ref.reader⟩

def handleRank (queue : Nat) (exchange : Exchange) (handle : Nat) : Nat :=
  (exchange.handles.take handle).countP (· = queue)

def readerRank (queue : Nat) (exchange : Exchange) (reader : Nat) : Nat :=
  (exchange.readers.take reader).countP (·.queue = queue)

def addressing (queue : Nat) (exchange : Exchange) : List Step → List (Step × Answer)
  | [] => []
  | step :: rest =>
      let (answer, next) := exchange.step step
      if exchange.addressed? step = some queue then (step, answer) :: next.addressing queue rest
      else next.addressing queue rest

structure Grown (earlier later : Exchange) : Prop where
  handles : earlier.handles <+: later.handles
  readers : earlier.readers <+: later.readers

theorem grown_step (exchange : Exchange) (step : Step) :
    Grown exchange (exchange.step step).2 := by
  rw [step_eq]
  cases exchange.effect? step with
  | none => exact ⟨List.prefix_rfl, List.prefix_rfl⟩
  | some found => exact ⟨List.prefix_append _ _, List.prefix_append _ _⟩

theorem grown_run (exchange : Exchange) (steps : List Step) :
    Grown exchange (exchange.run steps).2 := by
  induction steps generalizing exchange with
  | nil => exact ⟨List.prefix_rfl, List.prefix_rfl⟩
  | cons step rest ih =>
      have first := exchange.grown_step step
      have later := ih (exchange.step step).2
      exact ⟨first.handles.trans later.handles, first.readers.trans later.readers⟩

section Ranks

variable {exchange last : Exchange} (grown : Grown exchange last) (queue : Nat)

include grown

theorem Grown.handleRank_eq {handle : Nat} (bound : handle ≤ exchange.handles.length) :
    last.handleRank queue handle = exchange.handleRank queue handle := by
  obtain ⟨added, same⟩ := grown.handles
  rw [handleRank, handleRank, ← same, List.take_append_of_le_length bound]

theorem Grown.readerRank_eq {reader : Nat} (bound : reader ≤ exchange.readers.length) :
    last.readerRank queue reader = exchange.readerRank queue reader := by
  obtain ⟨added, same⟩ := grown.readers
  rw [readerRank, readerRank, ← same, List.take_append_of_le_length bound]

/-- The next handle has the next number among those of the queue. -/
theorem Grown.next_handle :
    last.handleRank queue exchange.handles.length = (exchange.restrict queue).handles.length := by
  rw [grown.handleRank_eq queue (Nat.le_refl _), handleRank, List.take_length, restrict,
    List.length_map, List.countP_eq_length_filter]

theorem Grown.next_reader :
    last.readerRank queue exchange.readers.length = (exchange.restrict queue).readers.length := by
  rw [grown.readerRank_eq queue (Nat.le_refl _), readerRank, List.take_length, restrict,
    List.length_map, List.countP_eq_length_filter]

theorem Grown.told {effect : Effect} :
    (exchange.restrict queue).told effect =
      (exchange.told effect).rename (last.handleRank queue) (last.readerRank queue) := by
  rw [Exchange.told, Exchange.told, Answer.rename_rename, ← grown.next_handle,
    ← grown.next_reader]
  rfl

theorem Grown.restrict_handle {handle : Nat} (named : exchange.handles[handle]? = some queue) :
    (exchange.restrict queue).handles[last.handleRank queue handle]? = some 0 := by
  obtain ⟨bound, -⟩ := List.getElem?_eq_some_iff.mp named
  rw [grown.handleRank_eq queue (Nat.le_of_lt bound), handleRank, restrict, List.getElem?_map,
    getElem?_filter_of_kept _ named (by simp)]
  rfl

theorem Grown.restrict_reader {number reader : Nat}
    (named : exchange.readers[number]? = some ⟨queue, reader⟩) :
    (exchange.restrict queue).readers[last.readerRank queue number]? = some ⟨0, reader⟩ := by
  obtain ⟨bound, -⟩ := List.getElem?_eq_some_iff.mp named
  rw [grown.readerRank_eq queue (Nat.le_of_lt bound), readerRank, restrict, List.getElem?_map,
    getElem?_filter_of_kept _ named (by simp)]
  rfl

/-- A step does with the queue alone what it does with the queue among others. -/
theorem Grown.restrict_effect {step : Step} {effect : Effect}
    (does : exchange.effect? step = some (queue, effect)) :
    (exchange.restrict queue).effect?
        (step.rename (last.handleRank queue) (last.readerRank queue)) = some (0, effect) := by
  refine effect?_rename does ?_ ?_
  · intro reader found
    rcases look?_eq_some_iff.mp found with
      ⟨way, rfl, rfl⟩ | ⟨number, way, there, rfl⟩ | ⟨number, way, there⟩
    · simp [way, look?, Way.rename, restrict]
    · simp [way, look?, Way.rename, grown.restrict_handle queue there]
    · simp [way, look?, Way.rename, grown.restrict_reader queue there]
  · intro fifo found
    simp [restrict, found]

end Ranks

theorem restrict_put_same {exchange : Exchange} {queue : Nat}
    (fits : queue ≤ exchange.queues.length) (effect : Effect) :
    (exchange.put queue effect).restrict queue = (exchange.restrict queue).put 0 effect := by
  have queues : (exchange.put queue effect).queues[queue]? = some effect.fifo := by
    rw [put_queue fits, if_pos rfl]
  have readers : (effect.readers.map (ReaderRef.mk queue)).filter (·.queue = queue) =
      effect.readers.map (ReaderRef.mk queue) := List.filter_eq_self.mpr (by simp)
  simp only [restrict, queues]
  cases exchange.queues[queue]? with
  | none => simp [put, readers]
  | some fifo => simp [put, readers]

theorem restrict_put_other {exchange : Exchange} {queue other : Nat}
    (fits : other ≤ exchange.queues.length) (different : other ≠ queue) (effect : Effect) :
    (exchange.put other effect).restrict queue = exchange.restrict queue := by
  have queues : (exchange.put other effect).queues[queue]? = exchange.queues[queue]? := by
    rw [put_queue fits, if_neg different.symm]
  simp only [restrict, queues]
  simp [put, List.filter_map, Function.comp_def, different]

def renumber (queue : Nat) (last : Exchange) : Step × Answer → Step × Answer
  | (step, answer) =>
      (step.rename (last.handleRank queue) (last.readerRank queue),
        answer.rename (last.handleRank queue) (last.readerRank queue))

def share (queue : Nat) (exchange : Exchange) (steps : List Step) : List (Step × Answer) :=
  (exchange.addressing queue steps).map (renumber queue (exchange.run steps).2)

theorem share_cons (queue : Nat) (exchange : Exchange) (step : Step) (rest : List Step) :
    exchange.share queue (step :: rest) =
      if exchange.addressed? step = some queue then
        renumber queue (exchange.run (step :: rest)).2 (step, (exchange.step step).1) ::
          (exchange.step step).2.share queue rest
      else (exchange.step step).2.share queue rest := by
  simp only [share, addressing, run]
  split
  · rfl
  · rfl

section Run

variable {exchange : Exchange} (linked : exchange.Linked) {queue : Nat} {step : Step}

include linked

theorem Linked.restrict_same {last : Exchange} (grown : Grown exchange last)
    (own : exchange.addressed? step = some queue) :
    (exchange.restrict queue).step
        (step.rename (last.handleRank queue) (last.readerRank queue)) =
      ((exchange.step step).1.rename (last.handleRank queue) (last.readerRank queue),
        (exchange.step step).2.restrict queue) := by
  rw [linked.addressed, Option.map_eq_some_iff] at own
  obtain ⟨⟨_, effect⟩, does, rfl⟩ := own
  rw [step_eq, step_eq, grown.restrict_effect _ does, does]
  simp only [grown.told, restrict_put_same (linked.fits does)]

theorem Linked.restrict_other (foreign : exchange.addressed? step ≠ some queue) :
    (exchange.step step).2.restrict queue = exchange.restrict queue := by
  rw [linked.addressed] at foreign
  rw [step_eq]
  cases does : exchange.effect? step with
  | none => rfl
  | some found =>
      refine restrict_put_other (linked.fits does) ?_ found.2
      rintro rfl
      exact foreign (by rw [does]; rfl)

/-- The part of one queue in a run is the run of the steps for it, on that queue alone. -/
theorem Linked.restrict_run (steps : List Step) :
    (exchange.restrict queue).run ((exchange.share queue steps).map Prod.fst) =
      ((exchange.share queue steps).map Prod.snd, (exchange.run steps).2.restrict queue) := by
  induction steps generalizing exchange with
  | nil => rfl
  | cons step rest ih =>
      have later := ih (linked.step step)
      rw [share_cons]
      by_cases own : exchange.addressed? step = some queue
      · have first := linked.restrict_same (exchange.grown_run (step :: rest)) own
        rw [if_pos own, List.map_cons, List.map_cons, renumber, run_cons, first, later]
        rfl
      · rw [if_neg own]
        rw [linked.restrict_other own] at later
        exact later

/-- A step for a queue that is not there yet makes it, and one for a queue that is there makes
none. -/
theorem Linked.addressed_cases (own : exchange.addressed? step = some queue) :
    (∃ channel depth, step = .create channel depth ∧ depth ≤ maxDepth ∧
        queue = exchange.queues.length) ∨
      step.creates = false ∧ queue < exchange.queues.length := by
  cases step with
  | create channel depth =>
      simp only [addressed?] at own
      split at own
      · cases own
      · exact .inl ⟨channel, depth, rfl, by omega, (Option.some.inj own).symm⟩
  | _ =>
      obtain ⟨⟨_, reader⟩, found, rfl⟩ := Option.map_eq_some_iff.mp own
      rcases linked.look found with ⟨fresh, -⟩ | ⟨-, inside⟩
      · cases fresh
      · exact .inr ⟨rfl, inside⟩

theorem Linked.addressed_le (own : exchange.addressed? step = some queue) :
    queue ≤ exchange.queues.length := by
  rcases linked.addressed_cases own with ⟨_, _, _, _, new⟩ | ⟨_, old⟩
  · omega
  · omega

theorem Linked.queues_length_step (step : Step) :
    (exchange.step step).2.queues.length =
      (exchange.addressed? step).elim exchange.queues.length
        fun queue => max exchange.queues.length (queue + 1) := by
  rw [linked.addressed]
  cases does : exchange.effect? step with
  | none =>
      rw [step_eq, does]
      rfl
  | some found =>
      rw [step_of_effect does]
      exact put_queues_length (linked.fits does) found.2

theorem Linked.addressing_old (old : queue < exchange.queues.length) (steps : List Step) :
    ∀ entry ∈ exchange.addressing queue steps, entry.1.creates = false := by
  induction steps generalizing exchange with
  | nil => nofun
  | cons step rest ih =>
      have still : queue < (exchange.step step).2.queues.length := by
        rw [linked.queues_length_step]
        cases exchange.addressed? step with
        | none => exact old
        | some other => exact Nat.lt_of_lt_of_le old (Nat.le_max_left _ _)
      have later := ih (linked.step step) still
      simp only [addressing]
      split
      next own =>
        rintro entry (_ | ⟨_, member⟩)
        · rcases linked.addressed_cases own with ⟨_, _, _, _, same⟩ | ⟨single, _⟩
          · omega
          · exact single
        · exact later entry member
      next => exact later

/-- The first step for a queue is the one that makes it, and no later one makes any. -/
theorem Linked.addressing_new (absent : exchange.queues.length ≤ queue) (steps : List Step)
    (made : queue < (exchange.run steps).2.queues.length) :
    ∃ channel depth answer rest, depth ≤ maxDepth ∧
      exchange.addressing queue steps = (.create channel depth, answer) :: rest ∧
      ∀ entry ∈ rest, entry.1.creates = false := by
  induction steps generalizing exchange with
  | nil =>
      simp only [Exchange.run] at made
      omega
  | cons step rest ih =>
      simp only [addressing]
      split
      next own =>
        rcases linked.addressed_cases own with ⟨channel, depth, rfl, allowed, same⟩ | ⟨_, inside⟩
        · refine ⟨channel, depth, _, _, allowed, rfl, (linked.step _).addressing_old ?_ rest⟩
          rw [linked.queues_length_step, own, Option.elim_some]
          omega
        · omega
      next foreign =>
        refine ih (linked.step step) ?_ made
        rw [linked.queues_length_step]
        cases other : exchange.addressed? step with
        | none => exact absent
        | some place =>
            have fits := linked.addressed_le other
            have different : place ≠ queue := by
              rintro rfl
              exact foreign other
            rw [Option.elim_some]
            omega

end Run

/-- The replies on a queue that was just made are those it gives when it is asked directly. -/
theorem run_create {channel depth : Nat} (shallow : depth ≤ maxDepth) {steps : List Step}
    (single : ∀ step ∈ steps, step.creates = false) {answers : List Answer} {last : Exchange}
    (ran : ({} : Exchange).run (.create channel depth :: steps) = (answers, last)) :
    ∃ fifo, last.queues = [fifo] ∧
      (Fifo.create channel depth).Answers (history (.create channel depth :: steps) answers)
        fifo := by
  obtain ⟨fifo, final, asked⟩ := (sole_create channel depth).run steps single
  rw [run_cons, step_create shallow] at ran
  obtain ⟨rfl, rfl⟩ := Prod.mk.inj ran
  exact ⟨fifo, final.queue, asked⟩

/-- Whatever else is in a run, a queue replies as it does when it is asked directly. -/
theorem share_answers {steps : List Step} {queue : Nat} {fifo : Fifo}
    (there : (({} : Exchange).run steps).2.queues[queue]? = some fifo) :
    ∃ channel depth,
      ((({} : Exchange).share queue steps).map Prod.fst).head? = some (.create channel depth) ∧
        (Fifo.create channel depth).Answers
          (history ((({} : Exchange).share queue steps).map Prod.fst)
            ((({} : Exchange).share queue steps).map Prod.snd)) fifo := by
  obtain ⟨made, -⟩ := List.getElem?_eq_some_iff.mp there
  obtain ⟨channel, depth, answer, rest, shallow, own, single⟩ :=
    linked_empty.addressing_new (Nat.zero_le queue) steps made
  have alone : (({} : Exchange).restrict queue).run _ = _ := linked_empty.restrict_run steps
  rw [share, own, List.map_cons, List.map_cons] at alone ⊢
  have later : ∀ step ∈ (rest.map (renumber queue (({} : Exchange).run steps).2)).map Prod.fst,
      step.creates = false := by
    simp only [List.map_map, List.mem_map]
    rintro _ ⟨entry, member, rfl⟩
    exact (Step.rename_creates _ _ _).trans (single entry member)
  obtain ⟨final, queues, asked⟩ := run_create shallow later alone
  obtain rfl : fifo = final := by simpa [restrict, there] using queues
  exact ⟨channel, depth, rfl, asked⟩

example : ({} : Exchange).share 1
      [.create 0 1, .create 1 1, .read 0, .clone 1, .read 2, .tryRead 0, .poll 1] =
    [(.create 1 1, .created 0 1), (.clone 0, .created 1 1),
      (.read 1, .replied (.started 0 .pending)), (.poll 0, .replied (.polled .pending))] := by
  decide

end Exchange

end Transceiver.Fifo
