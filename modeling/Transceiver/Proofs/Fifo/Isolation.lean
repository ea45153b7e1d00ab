import Transceiver.Proofs.Fifo.Projection
import Transceiver.Proofs.Fifo.Renumbering

/-!
Queues behind one exchange do not see each other: what is asked of one is answered as if there were
no others, and two steps in a row that are for different queues can change places.
-/

namespace Transceiver.Fifo

theorem getElem?_append_of_some {α : Type} {list added : List α} {index : Nat} {found : α}
    (there : list[index]? = some found) : (list ++ added)[index]? = some found := by
  obtain ⟨bound, -⟩ := List.getElem?_eq_some_iff.mp there
  rwa [List.getElem?_append_left bound]

theorem getElem?_of_append {α : Type} {list added : List α} {index : Nat} {found : α}
    (there : (list ++ added)[index]? = some found) (old : found ∉ added) :
    list[index]? = some found := by
  rw [List.getElem?_append] at there
  split at there
  · exact there
  · exact absurd (List.mem_of_getElem? there) old

def Effect.Plain (effect : Effect) : Prop :=
  ∀ handles readers otherHandles otherReaders : Nat → Nat,
    (0 < effect.handles → handles = otherHandles) →
      (0 < effect.readers.length → readers = otherReaders) →
        effect.answer.rename handles readers = effect.answer.rename otherHandles otherReaders

theorem Effect.plain_ofOp (op : Op) (fifo : Fifo) : (Effect.ofOp op fifo).Plain := by
  intro handles readers otherHandles otherReaders _ made
  simp only [Effect.ofOp] at made ⊢
  cases replied : (fifo.apply op).1 with
  | started reader poll =>
      rw [replied] at made
      rw [made (Nat.zero_lt_one)]
      rfl
  | _ => rfl

theorem Step.plain {step : Step} {fifo? : Option Fifo} {reader : Nat} {effect : Effect}
    (does : step.effect? fifo? reader = some effect) : effect.Plain := by
  cases step with
  | create channel depth =>
      simp only [Step.effect?] at does
      split at does
      · cases does
      · cases does
        intro handles readers otherHandles otherReaders made _
        rw [made Nat.zero_lt_one]
        rfl
  | clone handle =>
      obtain ⟨fifo, -, rfl⟩ := Option.map_eq_some_iff.mp does
      intro handles readers otherHandles otherReaders made _
      rw [made Nat.zero_lt_one]
      rfl
  | _ =>
      obtain ⟨fifo, -, rfl⟩ := Option.map_eq_some_iff.mp does
      exact Effect.plain_ofOp _ fifo

namespace Exchange

variable {exchange : Exchange} {step : Step} {queue place : Nat} {effect other : Effect}

theorem plain (does : exchange.effect? step = some (queue, effect)) : effect.Plain := by
  obtain ⟨reader, -, acts⟩ := effect?_eq_some_iff.mp does
  exact Step.plain acts

/-- A step does on its queue what it would have done before a step on another queue. -/
theorem Linked.effect_before (linked : exchange.Linked) (fits : place ≤ exchange.queues.length)
    (does : (exchange.put place other).effect? step = some (queue, effect))
    (apart : queue ≠ place) :
    exchange.effect? step = some (min queue exchange.queues.length, effect) := by
  rw [← step.rename_id]
  refine effect?_rename does ?_ ?_
  · intro reader found
    rcases look?_eq_some_iff.mp found with
      ⟨way, rfl, rfl⟩ | ⟨number, way, there, rfl⟩ | ⟨number, way, there⟩
    · have shorter : min (exchange.put place other).queues.length exchange.queues.length =
          exchange.queues.length := by
        rw [put_queues_length fits]
        omega
      simp [way, look?, Way.rename, shorter]
    · have earlier := getElem?_of_append there (by simp [apart])
      have bound := linked.handles _ (List.mem_of_getElem? earlier)
      simp [way, look?, Way.rename, earlier, Nat.min_eq_left (Nat.le_of_lt bound)]
    · have earlier := getElem?_of_append there (by simp [apart.symm])
      have bound := linked.readers _ (List.mem_of_getElem? earlier)
      simp [way, look?, Way.rename, earlier, Nat.min_eq_left (Nat.le_of_lt bound)]
  · intro fifo found
    rw [put_queue fits, if_neg apart] at found
    obtain ⟨bound, -⟩ := List.getElem?_eq_some_iff.mp found
    rwa [Nat.min_eq_left (Nat.le_of_lt bound)]

/-- A step does on its queue what it would have done after a step on another queue. -/
theorem Linked.effect_after (linked : exchange.Linked) (fits : place ≤ exchange.queues.length)
    (does : exchange.effect? step = some (queue, effect))
    (apart : queue < exchange.queues.length → queue ≠ place) (other : Effect) :
    (exchange.put place other).effect? step =
      some (if queue < exchange.queues.length then queue
        else (exchange.put place other).queues.length, effect) := by
  rw [← step.rename_id]
  refine effect?_rename does ?_ ?_
  · intro reader found
    rcases look?_eq_some_iff.mp found with
      ⟨way, rfl, rfl⟩ | ⟨number, way, there, rfl⟩ | ⟨number, way, there⟩
    · simp [way, look?, Way.rename]
    · have bound := linked.handles _ (List.mem_of_getElem? there)
      have still : (exchange.put place other).handles[number]? = some queue :=
        getElem?_append_of_some there
      simp [way, look?, Way.rename, still, bound]
    · have bound := linked.readers _ (List.mem_of_getElem? there)
      have still : (exchange.put place other).readers[number]? = some ⟨queue, reader⟩ :=
        getElem?_append_of_some there
      simp [way, look?, Way.rename, still, bound]
  · intro fifo found
    obtain ⟨bound, -⟩ := List.getElem?_eq_some_iff.mp found
    rw [if_pos bound, put_queue fits, if_neg (apart bound), found]

/-- How queues are numbered when two steps for different queues change places: a queue that a step
makes has the number that is next then. -/
structure Placed (places : Equiv.Perm Nat) (start queue place : Nat) : Prop where
  first : places queue = if queue < start then queue else max start (min place start + 1)
  second : places place = min place start
  before : ∀ number < start, places number = number
  after : ∀ number, max (max start (queue + 1)) (place + 1) ≤ number → places number = number

theorem exists_placed {start queue place : Nat} (fits : queue ≤ start)
    (fitsNext : place ≤ max start (queue + 1)) (apart : place ≠ queue) :
    ∃ places, Placed places start queue place := by
  refine ⟨swapBlocks start (max start (queue + 1) - start)
    (max start (min place start + 1) - start), ?_, ?_, ?_, ?_⟩
  · split
    next old => exact blockSwap_before old
    next new =>
      refine (blockSwap_first (by omega) (by omega)).trans ?_
      omega
  · by_cases old : place < start
    · refine (blockSwap_before old).trans ?_
      omega
    · refine (blockSwap_second (by omega) (by omega)).trans ?_
      omega
  · intro number early
    exact blockSwap_before early
  · intro number late
    exact blockSwap_after (by omega)

section Swap

variable {places : Equiv.Perm Nat} {first second : Effect}

theorem Placed.rest {α : Type} {list : List α} (placed : Placed places list.length queue place)
    (index : Nat) : list[places index]? = list[index]? := by
  by_cases before : index < list.length
  · rw [placed.before index before]
  · have late : list.length ≤ places index := by
      by_contra early
      have fixed := places.injective (placed.before (places index) (by omega))
      omega
    rw [List.getElem?_eq_none late, List.getElem?_eq_none (by omega)]

theorem Placed.queues (placed : Placed places exchange.queues.length queue place)
    (fits : queue ≤ exchange.queues.length)
    (fitsNext : place ≤ (exchange.put queue first).queues.length) (apart : place ≠ queue) :
    Shuffled places id ((exchange.put queue first).put place second).queues
      ((exchange.put (places place) second).put (places queue) first).queues := by
  have atQueue := placed.first
  have atPlace := placed.second
  have lengthFirst := put_queues_length fits first
  have fitsEarlier : places place ≤ exchange.queues.length := by omega
  have lengthSecond := put_queues_length fitsEarlier second
  have fitsLater : places queue ≤ (exchange.put (places place) second).queues.length := by
    split at atQueue
    · omega
    · omega
  constructor
  · rw [put_queues_length fitsNext, put_queues_length fitsLater]
    split at atQueue
    · omega
    · omega
  · intro index
    rw [put_queue fitsLater, put_queue fitsEarlier, put_queue fitsNext, put_queue fits,
      placed.rest, Option.map_id_apply]
    simp only [places.injective.eq_iff]
    by_cases here : index = queue
    · rw [if_pos here, if_neg (by omega), if_pos here]
    · rw [if_neg here, if_neg here]
  · intro number late
    rw [put_queues_length fitsNext] at late
    exact placed.after number (by omega)

/-- Two effects on different queues leave the same in either order but for the numbers. -/
theorem Linked.put_swap (linked : exchange.Linked)
    (placed : Placed places exchange.queues.length queue place)
    (fits : queue ≤ exchange.queues.length)
    (fitsNext : place ≤ (exchange.put queue first).queues.length) (apart : place ≠ queue) :
    Renumbered places
      (swapBlocks exchange.handles.length first.handles second.handles)
      (swapBlocks exchange.readers.length first.readers.length second.readers.length)
      ((exchange.put queue first).put place second)
      ((exchange.put (places place) second).put (places queue) first) := by
  refine ⟨placed.queues fits fitsNext apart, ?_, ?_⟩
  · have old : exchange.handles.map places = exchange.handles := by
      refine (List.map_congr_left ?_).trans (List.map_id _)
      intro named member
      exact placed.before named (linked.handles named member)
    have swapped := shuffled_swap places exchange.handles (List.replicate first.handles queue)
      (List.replicate second.handles place)
    simp only [List.map_append, old, List.map_replicate, List.length_replicate] at swapped
    exact swapped
  · have old : exchange.readers.map (ReaderRef.move places) = exchange.readers := by
      refine (List.map_congr_left ?_).trans (List.map_id _)
      intro ref member
      rw [ReaderRef.move, placed.before _ (linked.readers ref member)]
      rfl
    have swapped := shuffled_swap (ReaderRef.move places) exchange.readers
      (first.readers.map (ReaderRef.mk queue)) (second.readers.map (ReaderRef.mk place))
    simp only [List.map_append, old, List.map_map, List.length_map] at swapped
    exact swapped

/-- What a step makes has the numbers behind those of the step that now comes before it. -/
theorem told_later (plain : first.Plain) (exchange : Exchange) (place : Nat) :
    (exchange.put place second).told first =
      (exchange.told first).rename
        (swapBlocks exchange.handles.length first.handles second.handles)
        (swapBlocks exchange.readers.length first.readers.length second.readers.length) := by
  rw [told, told, Answer.rename_rename, put_handles_length, put_readers_length]
  refine plain _ _ _ _ ?_ ?_
  · intro made
    funext number
    exact (swapBlocks_start made).symm
  · intro made
    funext number
    exact (swapBlocks_start made).symm

theorem told_earlier (plain : second.Plain) (exchange : Exchange) (queue : Nat) :
    exchange.told second =
      ((exchange.put queue first).told second).rename
        (swapBlocks exchange.handles.length first.handles second.handles)
        (swapBlocks exchange.readers.length first.readers.length second.readers.length) := by
  rw [told, told, Answer.rename_rename, put_handles_length, put_readers_length]
  refine plain _ _ _ _ ?_ ?_
  · intro made
    funext number
    exact (swapBlocks_middle made).symm
  · intro made
    funext number
    exact (swapBlocks_middle made).symm

end Swap

structure Exchanged (exchange : Exchange) (first second : Step)
    (queues handles readers : Equiv.Perm Nat) : Prop where
  keptHandles : ∀ number, number < exchange.handles.length ∨
    ((exchange.step first).2.step second).2.handles.length ≤ number → handles number = number
  keptReaders : ∀ number, number < exchange.readers.length ∨
    ((exchange.step first).2.step second).2.readers.length ≤ number → readers number = number
  earlier : (exchange.step second).1 =
    ((exchange.step first).2.step second).1.rename handles readers
  later : ((exchange.step second).2.step first).1 =
    (exchange.step first).1.rename handles readers
  after : Renumbered queues handles readers ((exchange.step first).2.step second).2
    ((exchange.step second).2.step first).2

theorem swapBlocks_kept {start first second number : Nat}
    (kept : number < start ∨ start + first + second ≤ number) :
    swapBlocks start first second number = number := by
  rcases kept with early | late
  · exact blockSwap_before early
  · exact blockSwap_after late

/-- Steps on different queues can change places. -/
theorem Linked.exchanged (linked : exchange.Linked) {first second : Step}
    (own : exchange.addressed? first = some queue)
    (next : (exchange.step first).2.addressed? second = some place) (apart : queue ≠ place) :
    ∃ queues handles readers, Exchanged exchange first second queues handles readers := by
  rw [(linked.step first).addressed, Option.map_eq_some_iff] at next
  rw [linked.addressed, Option.map_eq_some_iff] at own
  obtain ⟨⟨_, effect⟩, does, rfl⟩ := own
  obtain ⟨⟨_, other⟩, doesNext, rfl⟩ := next
  have between := step_of_effect does
  have both := step_of_effect doesNext
  rw [between] at doesNext both
  dsimp only at apart doesNext both
  have fits := linked.fits does
  have fitsNext := (linked.put fits effect).fits doesNext
  have doesEarlier := linked.effect_before fits doesNext apart.symm
  have fitsEarlier := linked.fits doesEarlier
  have doesLater := linked.effect_after fitsEarlier does (by omega) other
  obtain ⟨places, placed⟩ :=
    exists_placed fits (by rwa [put_queues_length fits] at fitsNext) apart.symm
  rw [put_queues_length fitsEarlier, ← placed.first, ← placed.second] at doesLater
  rw [← placed.second] at doesEarlier
  have swapped := step_of_effect doesEarlier
  have last := step_of_effect doesLater
  refine ⟨places, swapBlocks exchange.handles.length effect.handles other.handles,
    swapBlocks exchange.readers.length effect.readers.length other.readers.length, ?_⟩
  constructor
  · rw [between, both, put_handles_length, put_handles_length]
    exact fun number => swapBlocks_kept
  · rw [between, both, put_readers_length, put_readers_length]
    exact fun number => swapBlocks_kept
  · rw [swapped, between, both]
    exact told_earlier (plain doesNext) exchange _
  · rw [swapped, last, between]
    exact told_later (plain does) exchange _
  · rw [swapped, last, between, both]
    exact linked.put_swap placed fits fitsNext apart.symm

structure Isolated (steps : List Step) (queue : Nat) : Prop where
  alone : (({} : Exchange).run ((({} : Exchange).share queue steps).map Prod.fst)).1 =
    (({} : Exchange).share queue steps).map Prod.snd
  direct : ∀ fifo, (({} : Exchange).run steps).2.queues[queue]? = some fifo →
    ∃ channel depth,
      ((({} : Exchange).share queue steps).map Prod.fst).head? = some (.create channel depth) ∧
        (Fifo.create channel depth).Answers
          (history ((({} : Exchange).share queue steps).map Prod.fst)
            ((({} : Exchange).share queue steps).map Prod.snd)) fifo

structure Swapped (past : List Step) (first second : Step) (later : List Step)
    (handles readers : Equiv.Perm Nat) : Prop where
  keptHandles : ∀ number, number < (({} : Exchange).run past).2.handles.length ∨
    (({} : Exchange).run (past ++ [first, second])).2.handles.length ≤ number →
      handles number = number
  keptReaders : ∀ number, number < (({} : Exchange).run past).2.readers.length ∨
    (({} : Exchange).run (past ++ [first, second])).2.readers.length ≤ number →
      readers number = number
  answers : ∃ before answerFirst answerSecond after, before.length = past.length ∧
    (({} : Exchange).run (past ++ first :: second :: later)).1 =
        before ++ answerFirst :: answerSecond :: after ∧
      (({} : Exchange).run
          (past ++ second :: first :: later.map (Step.rename handles readers))).1 =
        before ++ answerSecond.rename handles readers ::
          answerFirst.rename handles readers :: after.map (Answer.rename handles readers)

theorem Exchanged.swapped {past : List Step} {first second : Step}
    {queues handles readers : Equiv.Perm Nat}
    (exchanged :
      Exchanged (({} : Exchange).run past).2 first second queues handles readers)
    (later : List Step) : Swapped past first second later handles readers := by
  have linked : (({} : Exchange).run past).2.Linked := linked_empty.run past
  have after := exchanged.after.run ((linked.step first).step second) later
  refine ⟨?_, ?_, _, _, _, _, run_length {} past, by rw [run_append, run_cons, run_cons], ?_⟩
  · rw [run_append]
    exact exchanged.keptHandles
  · rw [run_append]
    exact exchanged.keptReaders
  · rw [run_append, run_cons, run_cons, exchanged.earlier, exchanged.later, after]

/-- No queue sees another: what is asked of one has the answers it would have if nothing else were
asked, and two steps in a row that are for different queues can change places. -/
theorem run_isolated (steps : List Step) :
    (∀ queue, Isolated steps queue) ∧
      ∀ past first second later, steps = past ++ first :: second :: later →
        (∃ queue other, (({} : Exchange).run past).2.addressed? first = some queue ∧
          (({} : Exchange).run (past ++ [first])).2.addressed? second = some other ∧
            queue ≠ other) →
          ∃ handles readers, Swapped past first second later handles readers := by
  constructor
  · intro queue
    constructor
    · exact congrArg Prod.fst (linked_empty.restrict_run steps)
    · intro fifo there
      exact share_answers there
  · rintro past first second later - ⟨queue, other, own, next, apart⟩
    rw [run_append] at next
    obtain ⟨queues, handles, readers, exchanged⟩ :=
      (linked_empty.run past).exchanged own next apart
    exact ⟨handles, readers, exchanged.swapped later⟩

/-- Two readers that start on different queues and are polled after that. -/
theorem run_isolated_of_readers :
    Isolated [.create 0 1, .create 1 1, .read 0, .read 1, .poll 0, .poll 1] 1 ∧
      ∃ handles readers,
        Swapped [.create 0 1, .create 1 1] (.read 0) (.read 1) [.poll 0, .poll 1] handles
          readers := by
  have isolated := run_isolated [.create 0 1, .create 1 1, .read 0, .read 1, .poll 0, .poll 1]
  exact ⟨isolated.1 1, isolated.2 _ _ _ _ rfl ⟨0, 1, by decide, by decide, by decide⟩⟩

end Exchange

end Transceiver.Fifo
