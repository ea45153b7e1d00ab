import Mathlib.Logic.Equiv.Defs
import Transceiver.Proofs.Fifo.Effects

/-!
Two exchanges that differ only in the numbers of their queues, handles and readers. The same steps,
renumbered, have the same answers, renumbered, however many steps there are.
-/

namespace Transceiver.Fifo

def blockSwap (start first second number : Nat) : Nat :=
  if number < start then number
  else if number < start + first then number + second
  else if number < start + first + second then number - first
  else number

section BlockSwap

variable {start first second number : Nat}

theorem blockSwap_before (early : number < start) :
    blockSwap start first second number = number := by
  rw [blockSwap, if_pos early]

theorem blockSwap_first (late : start ≤ number) (early : number < start + first) :
    blockSwap start first second number = number + second := by
  rw [blockSwap, if_neg (by omega), if_pos early]

theorem blockSwap_second (late : start + first ≤ number)
    (early : number < start + first + second) :
    blockSwap start first second number = number - first := by
  rw [blockSwap, if_neg (by omega), if_neg (by omega), if_pos early]

theorem blockSwap_after (late : start + first + second ≤ number) :
    blockSwap start first second number = number := by
  rw [blockSwap, if_neg (by omega), if_neg (by omega), if_neg (by omega)]

theorem blockSwap_back (start first second number : Nat) :
    blockSwap start second first (blockSwap start first second number) = number := by
  by_cases before : number < start
  · rw [blockSwap_before before, blockSwap_before before]
  by_cases inFirst : number < start + first
  · rw [blockSwap_first (by omega) inFirst, blockSwap_second (by omega) (by omega)]
    omega
  by_cases inSecond : number < start + first + second
  · rw [blockSwap_second (by omega) inSecond, blockSwap_first (by omega) (by omega)]
    omega
  · have after : blockSwap start first second number = number := blockSwap_after (by omega)
    rw [after, blockSwap_after (by omega)]

end BlockSwap

def swapBlocks (start first second : Nat) : Equiv.Perm Nat where
  toFun := blockSwap start first second
  invFun := blockSwap start second first
  left_inv := blockSwap_back start first second
  right_inv := blockSwap_back start second first

theorem swapBlocks_start {start first second : Nat} (some : 0 < first) :
    swapBlocks start first second start = start + second :=
  blockSwap_first (Nat.le_refl start) (by omega)

theorem swapBlocks_middle {start first second : Nat} (some : 0 < second) :
    swapBlocks start first second (start + first) = start := by
  refine (blockSwap_second (Nat.le_refl _) (by omega)).trans ?_
  omega

structure Shuffled {α β : Type} (number : Nat → Nat) (change : α → β) (list : List α)
    (other : List β) : Prop where
  length : other.length = list.length
  entry : ∀ index, other[number index]? = (list[index]?).map change
  later : ∀ index, list.length ≤ index → number index = index

section Shuffled

variable {α β : Type} {number : Nat → Nat} {change : α → β} {list : List α} {other : List β}

theorem Shuffled.next (shuffled : Shuffled number change list other) :
    number list.length = other.length := by
  rw [shuffled.later _ (Nat.le_refl _), shuffled.length]

theorem Shuffled.inside (shuffled : Shuffled number change list other) {index : Nat}
    (bound : index < list.length) : number index < other.length := by
  have there := shuffled.entry index
  rw [List.getElem?_eq_getElem bound, Option.map_some] at there
  exact (List.getElem?_eq_some_iff.mp there).1

theorem Shuffled.append (shuffled : Shuffled number change list other) (added : List α) :
    Shuffled number change (list ++ added) (other ++ added.map change) := by
  constructor
  · rw [List.length_append, List.length_append, List.length_map, shuffled.length]
  · intro index
    by_cases bound : index < list.length
    · rw [List.getElem?_append_left bound,
        List.getElem?_append_left (shuffled.inside bound), shuffled.entry]
    · have late : list.length ≤ index := Nat.not_lt.mp bound
      rw [shuffled.later index late, List.getElem?_append_right late,
        List.getElem?_append_right (by rwa [shuffled.length]), shuffled.length,
        List.getElem?_map]
  · intro index late
    rw [List.length_append] at late
    exact shuffled.later index (by omega)

theorem shuffled_swap (change : α → β) (front first second : List α) :
    Shuffled (swapBlocks front.length first.length second.length) change
      (front ++ first ++ second) ((front ++ second ++ first).map change) := by
  constructor
  · simp only [List.length_map, List.length_append]
    omega
  · intro index
    rw [List.getElem?_map]
    refine congrArg (Option.map change) ?_
    show (front ++ second ++ first)[blockSwap front.length first.length second.length index]? = _
    by_cases before : index < front.length
    · rw [blockSwap_before before, List.append_assoc, List.append_assoc,
        List.getElem?_append_left before, List.getElem?_append_left before]
    by_cases inFirst : index < front.length + first.length
    · rw [blockSwap_first (by omega) inFirst,
        List.getElem?_append_right (by rw [List.length_append]; omega),
        List.getElem?_append_left (by rwa [List.length_append]),
        List.getElem?_append_right (by omega), List.length_append]
      congr 1
      omega
    by_cases inSecond : index < front.length + first.length + second.length
    · rw [blockSwap_second (by omega) inSecond,
        List.getElem?_append_left (by rw [List.length_append]; omega),
        List.getElem?_append_right (by omega),
        List.getElem?_append_right (by rw [List.length_append]; omega), List.length_append]
      congr 1
      omega
    · rw [blockSwap_after (by omega), List.getElem?_eq_none, List.getElem?_eq_none]
      · simp only [List.length_append]
        omega
      · simp only [List.length_append]
        omega
  · intro index late
    simp only [List.length_append] at late
    exact blockSwap_after late

end Shuffled

def ReaderRef.move (queue : Nat → Nat) (ref : ReaderRef) : ReaderRef :=
  ⟨queue ref.queue, ref.reader⟩

namespace Exchange

structure Renumbered (queue handle reader : Equiv.Perm Nat) (exchange other : Exchange) :
    Prop where
  queues : Shuffled queue id exchange.queues other.queues
  handles : Shuffled handle queue exchange.handles other.handles
  readers : Shuffled reader (ReaderRef.move queue) exchange.readers other.readers

section Renumbered

variable {queue handle reader : Equiv.Perm Nat} {exchange other : Exchange}
  (same : Renumbered queue handle reader exchange other)

include same

theorem Renumbered.look (way : Way) :
    other.look? (way.rename handle reader) = (exchange.look? way).map (Prod.map queue id) := by
  cases way with
  | fresh => simp [Way.rename, look?, same.queues.next]
  | handle number =>
      simp only [Way.rename, look?, same.handles.entry, Option.map_map]
      rfl
  | reader number =>
      simp only [Way.rename, look?, same.readers.entry, Option.map_map]
      rfl

theorem Renumbered.effect (step : Step) :
    other.effect? (step.rename handle reader) =
      (exchange.effect? step).map (Prod.map queue id) := by
  simp only [effect?, Step.rename_way, same.look]
  cases exchange.look? step.way with
  | none => rfl
  | some found =>
      have place := same.queues.entry found.1
      rw [Option.map_id_apply] at place
      simp only [Option.map_some, Option.bind_some, Prod.map, Step.rename_effect?, id, place,
        Option.map_map]
      rfl

/-- What a step made has the next number in both. -/
theorem Renumbered.told (effect : Effect) :
    other.told effect = (exchange.told effect).rename handle reader := by
  rw [Exchange.told, Exchange.told, Answer.rename_rename, ← same.handles.next,
    ← same.readers.next]
  rfl

theorem Renumbered.put {place : Nat} (fits : place ≤ exchange.queues.length) (effect : Effect) :
    Renumbered queue handle reader (exchange.put place effect)
      (other.put (queue place) effect) := by
  have length := same.queues.length
  have bounds : place < exchange.queues.length ∧ queue place < other.queues.length ∨
      place = exchange.queues.length ∧ queue place = other.queues.length := by
    by_cases inside : place < exchange.queues.length
    · exact .inl ⟨inside, same.queues.inside inside⟩
    · obtain rfl : place = exchange.queues.length := by omega
      exact .inr ⟨rfl, same.queues.next⟩
  constructor
  · constructor
    · rw [put_queues_length (by omega), put_queues_length fits]
      omega
    · intro index
      rw [put_queue (by omega), put_queue fits, Option.map_id_apply, same.queues.entry,
        Option.map_id_apply]
      simp only [queue.injective.eq_iff]
    · intro index late
      rw [put_queues_length fits] at late
      exact same.queues.later index (by omega)
  · have added := same.handles.append (List.replicate effect.handles place)
    rwa [List.map_replicate] at added
  · have added := same.readers.append (effect.readers.map (⟨place, ·⟩))
    rwa [List.map_map] at added

theorem Renumbered.step (linked : exchange.Linked) (step : Step) :
    (other.step (step.rename handle reader)).1 =
        (exchange.step step).1.rename handle reader ∧
      Renumbered queue handle reader (exchange.step step).2
        (other.step (step.rename handle reader)).2 := by
  rw [step_eq, step_eq, same.effect]
  cases does : exchange.effect? step with
  | none => exact ⟨step.rename_refusal _ _ _ _, same⟩
  | some found => exact ⟨same.told found.2, same.put (linked.fits does) found.2⟩

theorem Renumbered.run (linked : exchange.Linked) (steps : List Step) :
    (other.run (steps.map (Step.rename handle reader))).1 =
      (exchange.run steps).1.map (Answer.rename handle reader) := by
  induction steps generalizing exchange other with
  | nil => rfl
  | cons step rest ih =>
      obtain ⟨answer, next⟩ := same.step linked step
      have later := ih next (linked.step step)
      rw [List.map_cons, run_cons, run_cons, List.map_cons, answer, later]

end Renumbered

end Exchange

end Transceiver.Fifo
