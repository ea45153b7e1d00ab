import Transceiver.Proofs.Fifo.Exchange

/-!
A step as an effect on one queue: how the step finds the queue, what it does there, which looks at
nothing but that queue, and how the exchange takes it in. The numbers of handles and readers matter
only for finding the queue.
-/

namespace Transceiver.Fifo

inductive Way
  | fresh
  | handle (number : Nat)
  | reader (number : Nat)

/-- What a step leaves behind: the queue, how many handles and which readers it made, by their
numbers in the queue, and the answer, where a handle made has no number yet. -/
structure Effect where
  fifo : Fifo
  handles : Nat := 0
  readers : List Nat := []
  answer : Answer

def Way.rename (handles readers : Nat → Nat) : Way → Way
  | .fresh => .fresh
  | .handle number => .handle (handles number)
  | .reader number => .reader (readers number)

def Answer.rename (handles readers : Nat → Nat) : Answer → Answer
  | .created handle channel => .created (handles handle) channel
  | .replied (.started reader poll) => .replied (.started (readers reader) poll)
  | answer => answer

theorem Answer.rename_rename (handles readers laterHandles laterReaders : Nat → Nat)
    (answer : Answer) :
    (answer.rename handles readers).rename laterHandles laterReaders =
      answer.rename (laterHandles ∘ handles) (laterReaders ∘ readers) := by
  cases answer with
  | replied reply => cases reply with
    | _ => rfl
  | _ => rfl

def Reply.starts : Reply → List Nat
  | .started reader _ => [reader]
  | _ => []

def Effect.ofOp (op : Op) (fifo : Fifo) : Effect where
  fifo := (fifo.apply op).2
  readers := (fifo.apply op).1.starts
  answer := .replied (fifo.apply op).1

namespace Step

def rename (handles readers : Nat → Nat) : Step → Step
  | .create channel depth => .create channel depth
  | .clone handle => .clone (handles handle)
  | .write handle vector => .write (handles handle) vector
  | .fill handle timestamp count => .fill (handles handle) timestamp count
  | .tryRead handle => .tryRead (handles handle)
  | .drain handle => .drain (handles handle)
  | .read handle => .read (handles handle)
  | .poll reader => .poll (readers reader)
  | .cancel reader => .cancel (readers reader)

def way : Step → Way
  | .create _ _ => .fresh
  | .clone handle | .write handle _ | .fill handle _ _ | .tryRead handle | .drain handle
  | .read handle => .handle handle
  | .poll reader | .cancel reader => .reader reader

def effect? (fifo? : Option Fifo) (reader : Nat) : Step → Option Effect
  | .create channel depth =>
      if maxDepth < depth then none
      else some { fifo := Fifo.create channel depth, handles := 1, answer := .created 0 channel }
  | .clone _ =>
      fifo?.map fun fifo => { fifo, handles := 1, answer := .created 0 fifo.channel }
  | .write _ vector => fifo?.map (Effect.ofOp (.write vector))
  | .fill _ timestamp count => fifo?.map (Effect.ofOp (.fill timestamp count))
  | .tryRead _ => fifo?.map (Effect.ofOp .tryRead)
  | .drain _ => fifo?.map (Effect.ofOp .drain)
  | .read _ => fifo?.map (Effect.ofOp .read)
  | .poll _ => fifo?.map (Effect.ofOp (.poll reader))
  | .cancel _ => fifo?.map (Effect.ofOp (.cancel reader))

def refusal : Step → Answer
  | .create _ _ => .tooDeep
  | _ => .unknown

@[simp] theorem rename_id (step : Step) : step.rename id id = step := by
  cases step with
  | _ => rfl

@[simp] theorem rename_way (handles readers : Nat → Nat) (step : Step) :
    (step.rename handles readers).way = step.way.rename handles readers := by
  cases step with
  | _ => rfl

@[simp] theorem rename_effect? (handles readers : Nat → Nat) (fifo? : Option Fifo) (reader : Nat)
    (step : Step) :
    (step.rename handles readers).effect? fifo? reader = step.effect? fifo? reader := by
  cases step with
  | _ => rfl

@[simp] theorem rename_creates (handles readers : Nat → Nat) (step : Step) :
    (step.rename handles readers).creates = step.creates := by
  cases step with
  | _ => rfl

theorem rename_refusal (handles readers laterHandles laterReaders : Nat → Nat) (step : Step) :
    (step.rename handles readers).refusal = step.refusal.rename laterHandles laterReaders := by
  cases step with
  | _ => rfl

/-- A step that finds a queue does there whatever it does to that queue anywhere. -/
theorem effect?_found {step : Step} {fifo? other? : Option Fifo} {reader : Nat} {effect : Effect}
    (does : step.effect? fifo? reader = some effect)
    (found : ∀ fifo, fifo? = some fifo → other? = some fifo) :
    step.effect? other? reader = some effect := by
  cases step with
  | create channel depth => exact does
  | _ =>
      obtain ⟨fifo, there, same⟩ := Option.map_eq_some_iff.mp does
      rw [found fifo there]
      exact congrArg some same

end Step

namespace Exchange

def look? (exchange : Exchange) : Way → Option (Nat × Nat)
  | .fresh => some (exchange.queues.length, 0)
  | .handle number => (exchange.handles[number]?).map (·, 0)
  | .reader number => (exchange.readers[number]?).map fun ref => (ref.queue, ref.reader)

def effect? (exchange : Exchange) (step : Step) : Option (Nat × Effect) :=
  (exchange.look? step.way).bind fun (queue, reader) =>
    (step.effect? exchange.queues[queue]? reader).map (queue, ·)

def put (exchange : Exchange) (queue : Nat) (effect : Effect) : Exchange where
  queues :=
    if queue < exchange.queues.length then exchange.queues.set queue effect.fifo
    else exchange.queues ++ [effect.fifo]
  handles := exchange.handles ++ List.replicate effect.handles queue
  readers := exchange.readers ++ effect.readers.map (⟨queue, ·⟩)

def told (exchange : Exchange) (effect : Effect) : Answer :=
  effect.answer.rename (fun _ => exchange.handles.length) fun _ => exchange.readers.length

theorem look?_eq_some_iff {exchange : Exchange} {way : Way} {queue reader : Nat} :
    exchange.look? way = some (queue, reader) ↔
      way = .fresh ∧ queue = exchange.queues.length ∧ reader = 0 ∨
        (∃ number, way = .handle number ∧ exchange.handles[number]? = some queue ∧ reader = 0) ∨
          ∃ number, way = .reader number ∧
            exchange.readers[number]? = some ⟨queue, reader⟩ := by
  cases way with
  | fresh => simp [look?, eq_comm]
  | handle number =>
      simp only [look?, Option.map_eq_some_iff, Prod.mk.injEq, reduceCtorEq, false_and,
        exists_const, false_or, or_false, Way.handle.injEq]
      constructor
      · rintro ⟨_, there, rfl, rfl⟩
        exact ⟨number, rfl, there, rfl⟩
      · rintro ⟨_, rfl, there, rfl⟩
        exact ⟨queue, there, rfl, rfl⟩
  | reader number =>
      simp only [look?, Option.map_eq_some_iff, Prod.mk.injEq, reduceCtorEq, false_and,
        exists_const, false_or, Way.reader.injEq]
      constructor
      · rintro ⟨_, there, rfl, rfl⟩
        exact ⟨number, rfl, there⟩
      · rintro ⟨_, rfl, there⟩
        exact ⟨_, there, rfl, rfl⟩

theorem effect?_eq_some_iff {exchange : Exchange} {step : Step} {queue : Nat} {effect : Effect} :
    exchange.effect? step = some (queue, effect) ↔
      ∃ reader, exchange.look? step.way = some (queue, reader) ∧
        step.effect? exchange.queues[queue]? reader = some effect := by
  simp only [effect?, Option.bind_eq_some_iff, Option.map_eq_some_iff, Prod.exists,
    Prod.mk.injEq]
  constructor
  · rintro ⟨_, reader, found, _, does, rfl, rfl⟩
    exact ⟨reader, found, does⟩
  · rintro ⟨reader, found, does⟩
    exact ⟨queue, reader, found, effect, does, rfl, rfl⟩

theorem perform_eq (exchange : Exchange) (queue : Nat) (op : Op) :
    exchange.perform queue op =
      match exchange.queues[queue]? with
      | none => (.unknown, exchange)
      | some fifo => (exchange.told (.ofOp op fifo), exchange.put queue (.ofOp op fifo)) := by
  cases found : exchange.queues[queue]? with
  | none => simp [perform, found]
  | some fifo =>
      obtain ⟨bound, -⟩ := List.getElem?_eq_some_iff.mp found
      simp only [perform, found, told, put, Effect.ofOp, if_pos bound]
      cases (fifo.apply op).1 with
      | _ => simp [numbered, readersAfter, Reply.starts, Answer.rename]

/-- Every step is what its effect says, or it is refused and changes nothing. -/
theorem step_eq (exchange : Exchange) (step : Step) :
    exchange.step step =
      match exchange.effect? step with
      | none => (step.refusal, exchange)
      | some (queue, effect) => (exchange.told effect, exchange.put queue effect) := by
  cases step with
  | create channel depth =>
      by_cases deep : maxDepth < depth
      · simp [Exchange.step, create, effect?, look?, Step.way, Step.effect?, Step.refusal, deep]
      · simp [Exchange.step, create, effect?, look?, Step.way, Step.effect?, told, put,
          Answer.rename, deep]
  | clone handle =>
      simp only [Exchange.step, clone, effect?, look?, Step.way, Step.effect?]
      cases exchange.handles[handle]? with
      | none => rfl
      | some queue =>
          cases found : exchange.queues[queue]? with
          | none => simp [found, Step.refusal]
          | some fifo =>
              obtain ⟨bound, rfl⟩ := List.getElem?_eq_some_iff.mp found
              simp [told, put, Answer.rename, bound]
  | poll reader | cancel reader =>
      simp only [Exchange.step, target?, effect?, look?, Step.way, Step.effect?]
      cases exchange.readers[reader]? with
      | none => rfl
      | some ref =>
          simp only [Option.map_some, perform_eq, Option.bind_some]
          cases exchange.queues[ref.queue]? with
          | _ => rfl
  | write handle | fill handle | tryRead handle | drain handle | read handle =>
      simp only [Exchange.step, target?, onHandle?, effect?, look?, Step.way, Step.effect?]
      cases exchange.handles[handle]? with
      | none => rfl
      | some queue =>
          simp only [Option.map_some, perform_eq, Option.bind_some]
          cases exchange.queues[queue]? with
          | _ => rfl

theorem step_of_effect {exchange : Exchange} {step : Step} {queue : Nat} {effect : Effect}
    (does : exchange.effect? step = some (queue, effect)) :
    exchange.step step = (exchange.told effect, exchange.put queue effect) := by
  rw [step_eq, does]

/-- A step does the same wherever its new numbers lead to the same queue. -/
theorem effect?_rename {exchange other : Exchange} {handles readers : Nat → Nat} {step : Step}
    {queue place : Nat} {effect : Effect} (does : exchange.effect? step = some (queue, effect))
    (leads : ∀ reader, exchange.look? step.way = some (queue, reader) →
      other.look? (step.way.rename handles readers) = some (place, reader))
    (same : ∀ fifo, exchange.queues[queue]? = some fifo → other.queues[place]? = some fifo) :
    other.effect? (step.rename handles readers) = some (place, effect) := by
  obtain ⟨reader, found, acts⟩ := effect?_eq_some_iff.mp does
  refine effect?_eq_some_iff.mpr ⟨reader, ?_, ?_⟩
  · rw [Step.rename_way]
    exact leads reader found
  · rw [Step.rename_effect?]
    exact Step.effect?_found acts same

theorem put_queue {exchange : Exchange} {queue : Nat} (fits : queue ≤ exchange.queues.length)
    (effect : Effect) (other : Nat) :
    (exchange.put queue effect).queues[other]? =
      if other = queue then some effect.fifo else exchange.queues[other]? := by
  by_cases inside : queue < exchange.queues.length
  · by_cases same : other = queue
    · simp [put, inside, same]
    · simp [put, inside, same, List.getElem?_set_ne (Ne.symm same)]
  · obtain rfl : queue = exchange.queues.length := by omega
    by_cases same : other = exchange.queues.length
    · simp [put, same]
    · simp only [put, if_neg inside, if_neg same, List.getElem?_append]
      split
      · rfl
      · rw [List.getElem?_singleton, if_neg (by omega), List.getElem?_eq_none (by omega)]

theorem put_queues_length {exchange : Exchange} {queue : Nat}
    (fits : queue ≤ exchange.queues.length) (effect : Effect) :
    (exchange.put queue effect).queues.length = max exchange.queues.length (queue + 1) := by
  simp only [put]
  split
  · rw [List.length_set]
    omega
  · rw [List.length_append, List.length_singleton]
    omega

@[simp] theorem put_handles_length (exchange : Exchange) (queue : Nat) (effect : Effect) :
    (exchange.put queue effect).handles.length = exchange.handles.length + effect.handles := by
  simp [put]

@[simp] theorem put_readers_length (exchange : Exchange) (queue : Nat) (effect : Effect) :
    (exchange.put queue effect).readers.length =
      exchange.readers.length + effect.readers.length := by
  simp [put]

structure Linked (exchange : Exchange) : Prop where
  handles : ∀ queue ∈ exchange.handles, queue < exchange.queues.length
  readers : ∀ ref ∈ exchange.readers, ref.queue < exchange.queues.length

theorem linked_empty : ({} : Exchange).Linked := by
  constructor
  · simp
  · simp

theorem Linked.look {exchange : Exchange} (linked : exchange.Linked) {way : Way}
    {queue reader : Nat} (found : exchange.look? way = some (queue, reader)) :
    way = .fresh ∧ queue = exchange.queues.length ∨
      way ≠ .fresh ∧ queue < exchange.queues.length := by
  rcases look?_eq_some_iff.mp found with
    ⟨rfl, rfl, -⟩ | ⟨number, rfl, there, -⟩ | ⟨number, rfl, there⟩
  · exact .inl ⟨rfl, rfl⟩
  · exact .inr ⟨nofun, linked.handles _ (List.mem_of_getElem? there)⟩
  · exact .inr ⟨nofun, linked.readers _ (List.mem_of_getElem? there)⟩

theorem Linked.fits {exchange : Exchange} (linked : exchange.Linked) {step : Step} {queue : Nat}
    {effect : Effect} (does : exchange.effect? step = some (queue, effect)) :
    queue ≤ exchange.queues.length := by
  obtain ⟨reader, found, -⟩ := effect?_eq_some_iff.mp does
  rcases linked.look found with ⟨-, same⟩ | ⟨-, inside⟩
  · omega
  · omega

theorem Linked.put {exchange : Exchange} (linked : exchange.Linked) {queue : Nat}
    (fits : queue ≤ exchange.queues.length) (effect : Effect) :
    (exchange.put queue effect).Linked := by
  have longer := put_queues_length fits effect
  constructor
  · intro named member
    rcases List.mem_append.mp member with earlier | new
    · have bound := linked.handles named earlier
      omega
    · have same := List.eq_of_mem_replicate new
      omega
  · intro ref member
    rcases List.mem_append.mp member with earlier | new
    · have bound := linked.readers ref earlier
      omega
    · obtain ⟨reader, -, rfl⟩ := List.mem_map.mp new
      dsimp only
      omega

theorem Linked.step {exchange : Exchange} (linked : exchange.Linked) (step : Step) :
    (exchange.step step).2.Linked := by
  rw [step_eq]
  cases does : exchange.effect? step with
  | none => exact linked
  | some found => exact linked.put (linked.fits does) found.2

theorem Linked.run {exchange : Exchange} (linked : exchange.Linked) (steps : List Step) :
    (exchange.run steps).2.Linked := by
  induction steps generalizing exchange with
  | nil => exact linked
  | cons step rest ih => exact ih (linked.step step)

def addressed? (exchange : Exchange) : Step → Option Nat
  | .create _ depth => if maxDepth < depth then none else some exchange.queues.length
  | step => (exchange.look? step.way).map Prod.fst

theorem Linked.addressed {exchange : Exchange} (linked : exchange.Linked) (step : Step) :
    exchange.addressed? step = (exchange.effect? step).map Prod.fst := by
  have there {queue reader : Nat} (found : exchange.look? step.way = some (queue, reader))
      (old : step.way ≠ .fresh) : ∃ fifo, exchange.queues[queue]? = some fifo := by
    rcases linked.look found with ⟨fresh, -⟩ | ⟨-, inside⟩
    · exact absurd fresh old
    · exact ⟨_, List.getElem?_eq_getElem inside⟩
  cases step with
  | create channel depth =>
      by_cases deep : maxDepth < depth
      · simp [addressed?, effect?, look?, Step.way, Step.effect?, deep]
      · simp [addressed?, effect?, look?, Step.way, Step.effect?, deep]
  | _ =>
      simp only [addressed?, effect?]
      cases found : exchange.look? _ with
      | none => rfl
      | some place =>
          obtain ⟨fifo, queued⟩ := there found nofun
          simp [Step.effect?, queued]

theorem run_cons (exchange : Exchange) (step : Step) (rest : List Step) :
    exchange.run (step :: rest) =
      ((exchange.step step).1 :: ((exchange.step step).2.run rest).1,
        ((exchange.step step).2.run rest).2) :=
  rfl

theorem run_length (exchange : Exchange) (steps : List Step) :
    (exchange.run steps).1.length = steps.length := by
  induction steps generalizing exchange with
  | nil => rfl
  | cons step rest ih => rw [run_cons, List.length_cons, List.length_cons, ih]

theorem run_append (exchange : Exchange) (past later : List Step) :
    exchange.run (past ++ later) =
      ((exchange.run past).1 ++ ((exchange.run past).2.run later).1,
        ((exchange.run past).2.run later).2) := by
  induction past generalizing exchange with
  | nil => rfl
  | cons step rest ih => simp [run_cons, ih]

end Exchange

end Transceiver.Fifo
