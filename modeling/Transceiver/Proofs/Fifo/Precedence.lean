import Transceiver.Proofs.Fifo.Exchange
import Transceiver.Proofs.Fifo.Lock
import Transceiver.Proofs.Fifo.Turns

/-!
Precedence among the readers of one queue. The reader that started first among those unfinished is
the only one that can take a vector; immediate reads take nothing past it, and the next one takes
its place when it is cancelled.
-/

namespace Transceiver.Fifo

namespace Exchange

variable {exchange : Exchange} {fifo : Fifo} {channel depth : Nat} {history : History}

structure Serves (exchange : Exchange) (channel depth : Nat) (history : History) : Prop where
  item : ∀ reader vector,
    (exchange.step (.poll reader)).1 = .replied (.polled (.item vector)) ↔
      history.unfinished.head? = some reader ∧ history.queued.head? = some vector
  pending : ∀ reader,
    (exchange.step (.poll reader)).1 = .replied (.polled .pending) ↔
      reader ∈ history.unfinished ∧
        (history.queued = [] ∨ history.unfinished.head? ≠ some reader)
  gone : ∀ reader,
    (exchange.step (.poll reader)).1 = .replied (.polled .gone) ↔ history.settles reader = true
  taken : ∀ reader vector rest later,
    history.queued = vector :: rest → history.unfinished = reader :: later →
      (exchange.step (.poll reader)).2 =
        { exchange with
          queues := [{ history.queue channel depth with queued := rest, waiting := later }] }
  unchanged : ∀ reader, history.queued = [] ∨ history.unfinished.head? ≠ some reader →
    (exchange.step (.poll reader)).2 = exchange
  read : ∀ handle < exchange.handles.length,
    exchange.step (.read handle) =
      match history.unfinished, history.queued with
      | [], vector :: rest =>
          (.replied (.started history.started (.item vector)),
            { exchange with
              queues := [{ history.queue channel depth with
                queued := rest
                started := history.started + 1 }]
              readers := exchange.readers ++ [⟨0, history.started⟩] })
      | _, _ =>
          (.replied (.started history.started .pending),
            { exchange with
              queues := [{ history.queue channel depth with
                waiting := history.unfinished ++ [history.started]
                started := history.started + 1 }]
              readers := exchange.readers ++ [⟨0, history.started⟩] })

structure Drains (exchange : Exchange) (channel depth : Nat) (history : History) : Prop where
  tries : ∀ handles : List Nat, (∀ handle ∈ handles, handle < exchange.handles.length) →
    exchange.run (handles.map .tryRead) =
      if history.unfinished = [] then
        ((history.queued.take handles.length).map (.replied <| .vector <| some ·) ++
            List.replicate (handles.length - history.queued.length) (.replied (.vector none)),
          { exchange with
            queues := [{ history.queue channel depth with
              queued := history.queued.drop handles.length }] })
      else (List.replicate handles.length (.replied (.vector none)), exchange)
  drain : ∀ handle < exchange.handles.length,
    exchange.step (.drain handle) =
      if history.unfinished = [] then
        (.replied (.drained history.queued),
          { exchange with queues := [{ history.queue channel depth with queued := [] }] })
      else (.replied (.drained []), exchange)

structure Yields (exchange : Exchange) (channel depth : Nat) (history : History) : Prop where
  cancel : ∀ reader < history.started,
    exchange.step (.cancel reader) =
      (.replied .cancelled,
        { exchange with
          queues := [{ history.queue channel depth with
            waiting := history.unfinished.filter (· ≠ reader) }] })
  next : ∀ reader < history.started, ∀ later vector,
    ((exchange.step (.cancel reader)).2.step (.poll later)).1 = .replied (.polled (.item vector)) ↔
      (history.unfinished.filter (· ≠ reader)).head? = some later ∧
        history.queued.head? = some vector

theorem Sole.known_op (sole : exchange.Sole fifo) {step : Step} {op : Op}
    (asked : step.op? = some op) (known : step.known exchange = true) :
    exchange.step step =
      (.replied (exchange.numbered (fifo.apply op).1),
        { exchange with
          queues := [(fifo.apply op).2]
          readers := exchange.readersAfter 0 (fifo.apply op).1 }) := by
  rw [sole.answered asked, if_pos known, sole.performed]

theorem Sole.known_next (sole : exchange.Sole fifo) {step : Step} {op : Op}
    (asked : step.op? = some op) (known : step.known exchange = true) :
    (exchange.step step).2.Sole (fifo.apply op).2 := by
  rw [sole.answered asked, if_pos known]
  exact (sole.perform op).2

theorem Sole.poll (sole : exchange.Sole fifo) (reader : Nat) :
    exchange.step (.poll reader) =
      if reader < fifo.started then
        (.replied (.polled (fifo.poll reader).1),
          { exchange with queues := [(fifo.poll reader).2] })
      else (.unknown, exchange) := by
  have known : Step.known exchange (.poll reader) = decide (reader < fifo.started) := by
    rw [Step.known, sole.count]
  rw [sole.answered rfl, known, sole.performed]
  simp only [decide_eq_true_eq]
  rfl

theorem Sole.polled_iff (sole : exchange.Sole fifo) (reader : Nat) (look : Transceiver.Poll) :
    (exchange.step (.poll reader)).1 = .replied (.polled look) ↔
      reader < fifo.started ∧ (fifo.poll reader).1 = look := by
  rw [sole.poll]
  by_cases begun : reader < fifo.started
  · simp [begun]
  · simp [begun]

theorem Sole.item_iff (sole : exchange.Sole fifo) (reader : Nat) (vector : SampleVector) :
    (exchange.step (.poll reader)).1 = .replied (.polled (.item vector)) ↔
      fifo.waiting.head? = some reader ∧ fifo.queued.head? = some vector := by
  rw [sole.polled_iff, fifo.poll_item_iff]
  constructor
  · exact fun ⟨_, found⟩ => found
  · intro found
    exact ⟨sole.sound.numbered reader (List.mem_of_mem_head? found.1), found⟩

theorem Sole.unchanged (sole : exchange.Sole fifo) (reader : Nat)
    (idle : fifo.queued = [] ∨ fifo.waiting.head? ≠ some reader) :
    (exchange.step (.poll reader)).2 = exchange := by
  rw [sole.poll]
  split
  · rcases fifo.poll_cases reader with
      ⟨vector, rest, later, queued, waiting, _⟩ | ⟨_, _, polled⟩ | ⟨_, polled⟩
    · simp [queued, waiting] at idle
    · rw [polled, sole.same]
    · rw [polled, sole.same]
  · rfl

theorem Sole.read (sole : exchange.Sole fifo) (handle : Nat)
    (known : handle < exchange.handles.length) :
    exchange.step (.read handle) =
      match fifo.waiting, fifo.queued with
      | [], vector :: rest =>
          (.replied (.started fifo.started (.item vector)),
            { exchange with
              queues := [{ fifo with queued := rest, started := fifo.started + 1 }]
              readers := exchange.readers ++ [⟨0, fifo.started⟩] })
      | _, _ =>
          (.replied (.started fifo.started .pending),
            { exchange with
              queues := [{ fifo with
                waiting := fifo.waiting ++ [fifo.started]
                started := fifo.started + 1 }]
              readers := exchange.readers ++ [⟨0, fifo.started⟩] }) := by
  rw [sole.known_op rfl (by simpa [Step.known] using known),
    fifo.apply_read_eq sole.sound.numbered]
  cases waiting : fifo.waiting with
  | nil =>
      cases queued : fifo.queued with
      | nil => simp [Exchange.numbered, readersAfter, sole.count]
      | cons vector rest => simp [Exchange.numbered, readersAfter, sole.count]
  | cons first later => simp [Exchange.numbered, readersAfter, sole.count]

theorem Sole.serves (sole : exchange.Sole (history.queue channel depth))
    (tally : Tally history (history.queue channel depth)) :
    exchange.Serves channel depth history := by
  constructor
  · exact sole.item_iff
  · intro reader
    rw [sole.polled_iff, poll_pending_iff, and_iff_right_of_imp]
    · rfl
    · exact fun ⟨member, _⟩ => sole.sound.numbered reader member
  · intro reader
    rw [sole.polled_iff, poll_gone_iff]
    exact tally.settles_iff reader
  · intro reader vector rest later queued waiting
    have begun := sole.sound.numbered reader (by simp [History.queue, waiting])
    rw [sole.poll, if_pos begun]
    simp [Fifo.poll, History.queue, queued, waiting]
  · exact sole.unchanged
  · exact sole.read

theorem Sole.tryRead (sole : exchange.Sole fifo) (handle : Nat)
    (known : handle < exchange.handles.length) :
    exchange.step (.tryRead handle) =
      (.replied (.vector fifo.tryRead.1), { exchange with queues := [fifo.tryRead.2] }) := by
  rw [sole.known_op rfl (by simpa [Step.known] using known)]
  rfl

theorem Sole.tries (sole : exchange.Sole fifo) (handles : List Nat)
    (known : ∀ handle ∈ handles, handle < exchange.handles.length) :
    exchange.run (handles.map .tryRead) =
      if fifo.waiting = [] then
        ((fifo.queued.take handles.length).map (.replied <| .vector <| some ·) ++
            List.replicate (handles.length - fifo.queued.length) (.replied (.vector none)),
          { exchange with
            queues := [{ fifo with queued := fifo.queued.drop handles.length }] })
      else (List.replicate handles.length (.replied (.vector none)), exchange) := by
  induction handles generalizing exchange fifo with
  | nil => simp [Exchange.run, sole.same]
  | cons handle rest ih =>
      have bound := known handle List.mem_cons_self
      have first := sole.tryRead handle bound
      have next : Sole { exchange with queues := [fifo.tryRead.2] } fifo.tryRead.2 := by
        have there : Step.known exchange (.tryRead handle) = true := by
          simpa [Step.known] using bound
        have kept := sole.known_next rfl there
        rwa [first] at kept
      have later : ∀ handle ∈ rest, handle < exchange.handles.length :=
        fun handle member => known handle (List.mem_cons_of_mem _ member)
      simp only [List.map_cons, Exchange.run, first, ih next later]
      cases waiting : fifo.waiting with
      | nil =>
          cases queued : fifo.queued with
          | nil => simp [Fifo.tryRead, waiting, queued, List.replicate_succ]
          | cons vector queue => simp [Fifo.tryRead, waiting, queued]
      | cons earliest others =>
          simp [Fifo.tryRead, waiting, sole.same, List.replicate_succ]

theorem Sole.drain (sole : exchange.Sole fifo) (handle : Nat)
    (known : handle < exchange.handles.length) :
    exchange.step (.drain handle) =
      if fifo.waiting = [] then
        (.replied (.drained fifo.queued), { exchange with queues := [{ fifo with queued := [] }] })
      else (.replied (.drained []), exchange) := by
  rw [sole.known_op rfl (by simpa [Step.known] using known)]
  cases waiting : fifo.waiting with
  | nil => simp [apply, Fifo.drain, waiting, Exchange.numbered, readersAfter]
  | cons first later =>
      simp [apply, Fifo.drain, waiting, Exchange.numbered, readersAfter, sole.same]

theorem Sole.cancel (sole : exchange.Sole fifo) (reader : Nat) (begun : reader < fifo.started) :
    exchange.step (.cancel reader) =
      (.replied .cancelled,
        { exchange with
          queues := [{ fifo with waiting := fifo.waiting.filter (· ≠ reader) }] }) := by
  rw [sole.known_op rfl (by simpa [Step.known, sole.count] using begun)]
  rfl

theorem Sole.yields (sole : exchange.Sole (history.queue channel depth)) :
    exchange.Yields channel depth history := by
  constructor
  · exact sole.cancel
  · intro reader begun later vector
    have known : Step.known exchange (.cancel reader) = true := by
      rw [Step.known, sole.count]
      exact decide_eq_true begun
    exact (sole.known_next rfl known).item_iff later vector

theorem Sole.drains (sole : exchange.Sole (history.queue channel depth)) :
    exchange.Drains channel depth history :=
  ⟨sole.tries, sole.drain⟩

end Exchange

theorem Answers.guarded {channel depth : Nat} {history : History} {last : Fifo}
    (answers : (create channel depth).Answers history last) :
    ∃ guarded, (Guarded.create channel depth).applyAll (history.map Prod.fst) =
        (history.map (fun (_, reply) => Response.of reply), guarded) ∧
      guarded.ends = last.ends ∧ guarded.Fair := by
  obtain ⟨applied, fair⟩ :=
    Guarded.ends_applyAll (Guarded.fair_create channel depth) (history.map Prod.fst)
  have started : (Guarded.create channel depth).ends = (create channel depth).ends := rfl
  rw [started, ends_applyAll, answers, List.map_map, Prod.ext_iff] at applied
  obtain ⟨responses, same⟩ := applied
  exact ⟨_, Prod.ext responses.symm rfl, same.symm, fair⟩

structure Exchange.InTurn (exchange : Exchange) (channel depth : Nat) (history : History) :
    Prop where
  only : exchange.queues = [history.queue channel depth]
  serves : exchange.Serves channel depth history
  drains : exchange.Drains channel depth history
  yields : exchange.Yields channel depth history
  locked : ∃ guarded,
    (Guarded.create channel depth).applyAll (history.map Prod.fst) =
        (history.map (fun (_, reply) => Response.of reply), guarded) ∧
      guarded.channel.buffer = history.queued ∧ guarded.lock.everyone = history.unfinished ∧
      guarded.lock.hold.reader? = history.unfinished.head? ∧
      ∀ reader, (guarded.lock.leave reader).hold.reader? =
        (history.unfinished.filter (· ≠ reader)).head?
  inOrder : ∀ first second, first < second → ∀ position later vector other,
    history.Takes first position vector → history.Takes second later other →
      position < later ∧ history.accepted[position]? = some vector ∧
        history.accepted[later]? = some other

/-- Whatever is done with the only queue through its handles, its readers take the vectors in the
order in which they started, with nobody overtaking them and nothing lost by those cancelled. -/
theorem run_in_turn (channel depth : Nat) (shallow : depth ≤ maxDepth) (steps : List Step)
    (single : ∀ step ∈ steps, step.creates = false) :
    ∃ answers last,
      ({} : Exchange).run (.create channel depth :: steps) =
          (.created 0 channel :: answers, last) ∧
        last.InTurn channel depth (history steps answers) := by
  have sole : Exchange.Sole ⟨[create channel depth], [0], []⟩ (create channel depth) :=
    ⟨rfl, by simp, by simp [create], sound_create channel depth⟩
  have created : ({} : Exchange).step (.create channel depth) =
      (.created 0 channel, ⟨[create channel depth], [0], []⟩) := by
    simp [Exchange.step, Exchange.create, Nat.not_lt.mpr shallow]
  have keeps (past : History) (current : Fifo) (op : Op) (_ : current.Sound)
      (named : ∀ reader, op = .cancel reader → reader < current.started)
      (kept : (create channel depth).Answers past current ∧ Tally past current) :
      (create channel depth).Answers (past ++ [(op, (current.apply op).1)]) (current.apply op).2 ∧
        Tally (past ++ [(op, (current.apply op).1)]) (current.apply op).2 :=
    ⟨kept.1.append_singleton op, kept.2.snoc op named⟩
  obtain ⟨fifo, final, answers, tally⟩ :=
    sole.run_keeps keeps steps single [] ⟨rfl, Tally.create channel depth⟩
  rw [List.nil_append] at answers tally
  have queue := tally.queue answers
  subst queue
  obtain ⟨guarded, responded, ends, fair⟩ := answers.guarded
  refine ⟨_, _, by rw [Exchange.run, created], ?_⟩
  constructor
  · exact final.queue
  · exact final.serves tally
  · exact final.drains
  · exact final.yields
  · have buffer := congrArg (fun ends => ends.channel.buffer) ends
    have everyone := congrArg Endpoints.line ends
    simp only [Guarded.ends, Fifo.ends, History.queue] at buffer everyone
    refine ⟨guarded, responded, buffer, everyone, ?_, ?_⟩
    · rw [← fair.head?_everyone, everyone]
    · intro reader
      rw [← (fair.leave reader).head?_everyone, fair.everyone_leave, everyone]
  · intro first second earlier position later vector other takes follows
    exact ⟨tally.takes_in_order earlier takes follows, tally.accepted_of_takes takes,
      tally.accepted_of_takes follows⟩

theorem run_in_turn_past_cancelled :
    let oldest : SampleVector := ⟨7, []⟩
    let newest : SampleVector := ⟨8, []⟩
    let steps : List Step :=
      [.clone 0, .read 0, .read 1, .read 1, .write 1 oldest, .cancel 0, .write 0 newest, .tryRead 0,
        .poll 2, .poll 1, .poll 2]
    2 ≤ maxDepth ∧ (∀ step ∈ steps, step.creates = false) ∧
      ∃ answers last,
        ({} : Exchange).run (.create 3 2 :: steps) = (.created 0 3 :: answers, last) ∧
          last.InTurn 3 2 (history steps answers) := by
  intro oldest newest steps
  have single : ∀ step ∈ steps, step.creates = false := by decide
  exact ⟨by decide, single, run_in_turn 3 2 (by decide) steps single⟩

end Transceiver.Fifo
