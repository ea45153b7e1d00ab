import Transceiver.Fifo.Basic

/-!
What an operation does to a queue, and a history of operations with their replies: the vectors
accepted and those handed out, the bound on the queue, and the readers that go on waiting.
-/

namespace Transceiver

def Poll.taken : Poll → List SampleVector
  | .item vector => [vector]
  | _ => []

namespace Fifo

def Op.accepted : Op → Reply → List SampleVector
  | .write vector, .accepted => [vector]
  | .fill timestamp _, .filled accepted _ => consecutive timestamp accepted
  | _, _ => []

def Reply.delivered : Reply → List SampleVector
  | .vector found => found.toList
  | .drained vectors => vectors
  | .started _ poll => poll.taken
  | .polled poll => poll.taken
  | _ => []

def Op.settles (reader : Nat) : Op → Reply → Bool
  | .read, .started number (.item _) => number = reader
  | .poll number, .polled (.item _) => number = reader
  | .cancel number, _ => number = reader
  | _, _ => false

structure Sound (fifo : Fifo) : Prop where
  bounded : fifo.queued.length ≤ fifo.capacity
  numbered : ∀ reader ∈ fifo.waiting, reader < fifo.started

theorem sound_create (channel depth : Nat) : (create channel depth).Sound := by
  constructor
  · simp [create]
  · simp [create]

@[simp] theorem length_consecutive (timestamp : UInt64) (count : Nat) :
    (consecutive timestamp count).length = count := by
  simp [consecutive]

theorem take_consecutive (timestamp : UInt64) (count taken : Nat) :
    (consecutive timestamp count).take taken = consecutive timestamp (min taken count) := by
  simp [consecutive, ← List.map_take, List.take_range]

theorem room_of_space (fifo : Fifo) (vector : SampleVector)
    (space : fifo.queued.length < fifo.capacity) :
    fifo.room = { fifo with queued := fifo.queued ++ [vector] }.room + 1 := by
  simp only [room, List.length_append, List.length_singleton]
  omega

theorem room_of_full (fifo : Fifo) (full : ¬fifo.queued.length < fifo.capacity) :
    fifo.room = 0 := by
  simp only [room]
  omega

-- A look at a reader either finishes the first one, which takes the oldest vector, or changes
-- nothing.
theorem poll_cases (fifo : Fifo) (reader : Nat) :
    (∃ vector rest later, fifo.queued = vector :: rest ∧ fifo.waiting = reader :: later ∧
        fifo.poll reader = (.item vector, { fifo with queued := rest, waiting := later })) ∨
      (reader ∈ fifo.waiting ∧ (fifo.queued = [] ∨ fifo.waiting.head? ≠ some reader) ∧
        fifo.poll reader = (.pending, fifo)) ∨
      (reader ∉ fifo.waiting ∧ fifo.poll reader = (.gone, fifo)) := by
  by_cases member : reader ∈ fifo.waiting
  · cases queued : fifo.queued with
    | nil => exact .inr (.inl ⟨member, .inl rfl, by simp [poll, member, queued]⟩)
    | cons vector rest =>
        by_cases head : fifo.waiting.head? = some reader
        · obtain ⟨later, waiting⟩ := List.head?_eq_some_iff.mp head
          exact .inl ⟨vector, rest, later, rfl, waiting, by simp [poll, queued, waiting]⟩
        · exact .inr (.inl ⟨member, .inr head, by simp [poll, member, queued, head]⟩)
  · exact .inr (.inr ⟨member, by simp [poll, member]⟩)

theorem poll_takes (fifo : Fifo) (reader : Nat) :
    ∃ rest waiting, fifo.queued = (fifo.poll reader).1.taken ++ rest ∧
      (fifo.poll reader).2 = { fifo with queued := rest, waiting } := by
  rcases fifo.poll_cases reader with
    ⟨vector, rest, later, queued, _, polled⟩ | ⟨_, _, polled⟩ | ⟨_, polled⟩
  · exact ⟨rest, later, by simp [polled, queued, Poll.taken], by simp [polled]⟩
  · exact ⟨fifo.queued, fifo.waiting, by simp [polled, Poll.taken], by simp [polled]⟩
  · exact ⟨fifo.queued, fifo.waiting, by simp [polled, Poll.taken], by simp [polled]⟩

-- All that an operation can do to the vectors: a write puts some behind those queued, as far as
-- there is room, and any other operation takes some from the front.
theorem apply_cases (fifo : Fifo) (op : Op) :
    (∃ vectors, op.accepted (fifo.apply op).1 = vectors ∧ vectors.length ≤ fifo.room ∧
        (fifo.apply op).1.delivered = [] ∧
        (fifo.apply op).2 = { fifo with queued := fifo.queued ++ vectors }) ∨
      ∃ rest waiting started, op.accepted (fifo.apply op).1 = [] ∧
        fifo.queued = (fifo.apply op).1.delivered ++ rest ∧
        (fifo.apply op).2 = { fifo with queued := rest, waiting, started } := by
  cases op with
  | write vector =>
      by_cases space : fifo.queued.length < fifo.capacity
      · refine .inl ⟨[vector], ?_, ?_, ?_, ?_⟩
        · simp [apply, write?, space, Op.accepted]
        · simp only [List.length_singleton, room]
          omega
        · simp [apply, write?, space, Reply.delivered]
        · simp [apply, write?, space]
      · refine .inl ⟨[], ?_, Nat.zero_le _, ?_, ?_⟩
        · simp [apply, write?, space, Op.accepted]
        · simp [apply, write?, space, Reply.delivered]
        · simp [apply, write?, space]
  | fill timestamp count =>
      refine .inl ⟨_, rfl, ?_, rfl, ?_⟩
      · simp only [apply, writeAll, Op.accepted, length_consecutive, List.length_take]
        omega
      · simp [apply, writeAll, Op.accepted, take_consecutive]
  | tryRead =>
      obtain ⟨channel, capacity, queued, waiting, started⟩ := fifo
      cases waiting with
      | nil =>
          cases queued with
          | nil => exact .inr ⟨[], [], started, rfl, rfl, rfl⟩
          | cons vector rest => exact .inr ⟨rest, [], started, rfl, rfl, rfl⟩
      | cons first later => exact .inr ⟨queued, first :: later, started, rfl, rfl, rfl⟩
  | drain =>
      obtain ⟨channel, capacity, queued, waiting, started⟩ := fifo
      cases waiting with
      | nil => exact .inr ⟨[], [], started, rfl, (List.append_nil queued).symm, rfl⟩
      | cons first later => exact .inr ⟨queued, first :: later, started, rfl, rfl, rfl⟩
  | read =>
      obtain ⟨rest, waiting, queued, polled⟩ := poll_takes fifo.start.2 fifo.started
      exact .inr ⟨rest, waiting, fifo.started + 1, rfl, queued, polled⟩
  | poll reader =>
      obtain ⟨rest, waiting, queued, polled⟩ := poll_takes fifo reader
      exact .inr ⟨rest, waiting, fifo.started, rfl, queued, polled⟩
  | cancel reader => exact .inr ⟨fifo.queued, _, fifo.started, rfl, rfl, rfl⟩

/-- No operation loses, adds or reorders a vector: what was queued and what is accepted is what is
delivered and what is queued then. -/
theorem apply_conserves (fifo : Fifo) (op : Op) :
    fifo.queued ++ op.accepted (fifo.apply op).1 =
      (fifo.apply op).1.delivered ++ (fifo.apply op).2.queued := by
  rcases fifo.apply_cases op with
    ⟨vectors, accepted, _, silent, put⟩ | ⟨rest, _, _, none, taken, next⟩
  · rw [accepted, silent, put]
    rfl
  · rw [none, List.append_nil, taken, next]

theorem apply_keeps (fifo : Fifo) (op : Op) :
    (fifo.apply op).2.channel = fifo.channel ∧ (fifo.apply op).2.capacity = fifo.capacity := by
  rcases fifo.apply_cases op with ⟨_, _, _, _, put⟩ | ⟨_, _, _, _, _, next⟩
  · rw [put]
    exact ⟨rfl, rfl⟩
  · rw [next]
    exact ⟨rfl, rfl⟩

theorem apply_bounded (fifo : Fifo) (op : Op) (bounded : fifo.queued.length ≤ fifo.capacity) :
    (fifo.apply op).2.queued.length ≤ fifo.capacity := by
  rcases fifo.apply_cases op with ⟨vectors, _, fits, _, put⟩ | ⟨rest, _, _, _, taken, next⟩
  · rw [put]
    simp only [room, List.length_append] at fits ⊢
    omega
  · have shorter := congrArg List.length taken
    rw [next]
    simp only [List.length_append] at shorter ⊢
    omega

/-- A new reader waits at the end, or it is alone and takes the oldest vector at once. -/
theorem apply_read (fifo : Fifo) (numbered : ∀ reader ∈ fifo.waiting, reader < fifo.started) :
    (fifo.apply .read = (.started fifo.started .pending,
        { fifo with waiting := fifo.waiting ++ [fifo.started], started := fifo.started + 1 })) ∨
      ∃ vector rest, fifo.queued = vector :: rest ∧ fifo.waiting = [] ∧
        fifo.apply .read = (.started fifo.started (.item vector),
          { fifo with queued := rest, started := fifo.started + 1 }) := by
  rcases fifo.start.2.poll_cases fifo.started with
    ⟨vector, rest, later, queued, waiting, polled⟩ | ⟨_, _, polled⟩ | ⟨absent, _⟩
  · cases earlier : fifo.waiting with
    | nil =>
        simp only [start, earlier, List.nil_append, List.cons.injEq, true_and] at waiting
        refine .inr ⟨vector, rest, queued, rfl, ?_⟩
        simp only [apply]
        rw [show fifo.start.1 = fifo.started from rfl, polled, ← waiting]
        simp [start, earlier]
    | cons first others =>
        have below := numbered first (by simp [earlier])
        simp only [start, earlier, List.cons_append, List.cons.injEq] at waiting
        omega
  · refine .inl ?_
    simp only [apply]
    rw [show fifo.start.1 = fifo.started from rfl, polled]
    rfl
  · simp [start] at absent

/-- An operation that starts no reader neither numbers one nor lets one in; a reader that waited
goes on waiting unless the operation ends it, which a look does only with a vector. -/
theorem apply_readers (fifo : Fifo) (op : Op) (other : op ≠ .read) :
    (fifo.apply op).2.started = fifo.started ∧
      (∀ number poll, (fifo.apply op).1 ≠ .started number poll) ∧
      (fifo.apply op).2.waiting ⊆ fifo.waiting ∧
      ∀ reader ∈ fifo.waiting, reader ∈ (fifo.apply op).2.waiting ∨ op = .cancel reader ∨
        ∃ vector, op = .poll reader ∧ (fifo.apply op).1 = .polled (.item vector) := by
  cases op with
  | write vector =>
      by_cases space : fifo.queued.length < fifo.capacity
      · simp +contextual [apply, write?, space]
      · simp +contextual [apply, write?, space]
  | fill timestamp count => simp +contextual [apply, writeAll]
  | tryRead =>
      simp only [apply, tryRead]
      split
      · simp +contextual
      · simp +contextual
  | drain =>
      simp only [apply, drain]
      split
      · simp +contextual
      · simp +contextual
  | read => exact absurd rfl other
  | poll target =>
      rcases fifo.poll_cases target with
        ⟨vector, rest, later, _, waiting, polled⟩ | ⟨_, _, polled⟩ | ⟨_, polled⟩
      · simp only [apply, polled, waiting]
        refine ⟨trivial, by simp, List.subset_cons_self _ _, ?_⟩
        intro reader member
        rcases List.mem_cons.mp member with head | later
        · exact .inr (.inr ⟨vector, by rw [head], rfl⟩)
        · exact .inl later
      · simp +contextual [apply, polled]
      · simp +contextual [apply, polled]
  | cancel target =>
      simp only [apply, cancel]
      refine ⟨trivial, by simp, List.filter_sublist.subset, ?_⟩
      intro reader member
      by_cases same : reader = target
      · exact .inr (.inl (by rw [same]))
      · exact .inl (by simp [member, same])

theorem Sound.apply {fifo : Fifo} (sound : fifo.Sound) (op : Op) : (fifo.apply op).2.Sound := by
  constructor
  · rw [(fifo.apply_keeps op).2]
    exact fifo.apply_bounded op sound.bounded
  · intro reader member
    by_cases begins : op = .read
    · subst begins
      rcases fifo.apply_read sound.numbered with applied | ⟨_, _, _, waiting, applied⟩
      · simp only [applied, List.mem_append, List.mem_singleton] at member ⊢
        rcases member with earlier | new
        · exact Nat.lt_succ_of_lt (sound.numbered reader earlier)
        · omega
      · simp [applied, waiting] at member
    · obtain ⟨started, _, remain, _⟩ := fifo.apply_readers op begins
      rw [started]
      exact sound.numbered reader (remain member)

theorem Sound.settled {fifo : Fifo} (sound : fifo.Sound) (op : Op) (reader : Nat)
    (begun : reader < (fifo.apply op).2.started) :
    reader ∈ (fifo.apply op).2.waiting ∨ op.settles reader (fifo.apply op).1 = true ∨
      reader < fifo.started ∧ reader ∉ fifo.waiting := by
  by_cases begins : op = .read
  · subst begins
    rcases fifo.apply_read sound.numbered with applied | ⟨vector, _, _, waiting, applied⟩
    · simp only [applied, List.mem_append, List.mem_singleton] at begun ⊢
      by_cases new : reader = fifo.started
      · exact .inl (.inr new)
      · by_cases waits : reader ∈ fifo.waiting
        · exact .inl (.inl waits)
        · exact .inr (.inr ⟨by omega, waits⟩)
    · simp only [applied, waiting, Op.settles, decide_eq_true_eq] at begun ⊢
      by_cases new : fifo.started = reader
      · exact .inr (.inl new)
      · exact .inr (.inr ⟨by omega, List.not_mem_nil⟩)
  · obtain ⟨started, _, _, remain⟩ := fifo.apply_readers op begins
    by_cases waits : reader ∈ fifo.waiting
    · rcases remain reader waits with later | cancelled | ⟨vector, polled, taken⟩
      · exact .inl later
      · exact .inr (.inl (by simp [cancelled, Op.settles]))
      · exact .inr (.inl (by rw [taken, polled]; simp [Op.settles]))
    · exact .inr (.inr ⟨started ▸ begun, waits⟩)

abbrev History := List (Op × Reply)

namespace History

def accepted (history : History) : List SampleVector :=
  history.flatMap fun (op, reply) => op.accepted reply

def delivered (history : History) : List SampleVector :=
  history.flatMap fun (_, reply) => reply.delivered

def settles (history : History) (reader : Nat) : Bool :=
  history.any fun (op, reply) => op.settles reader reply

end History

def Answers (fifo : Fifo) (history : History) (last : Fifo) : Prop :=
  fifo.applyAll (history.map Prod.fst) = (history.map Prod.snd, last)

theorem Answers.cons {fifo last : Fifo} {op : Op} {reply : Reply} {rest : History} :
    fifo.Answers ((op, reply) :: rest) last ↔
      (fifo.apply op).1 = reply ∧ (fifo.apply op).2.Answers rest last := by
  simp [Answers, applyAll, Prod.ext_iff, and_assoc]

theorem Answers.append_singleton {fifo current : Fifo} {past : History}
    (answers : fifo.Answers past current) (op : Op) :
    fifo.Answers (past ++ [(op, (current.apply op).1)]) (current.apply op).2 := by
  induction past generalizing fifo with
  | nil =>
      have same : fifo = current := congrArg Prod.snd answers
      rw [same]
      rfl
  | cons entry rest ih =>
      obtain ⟨replied, later⟩ := Answers.cons.mp answers
      exact Answers.cons.mpr ⟨replied, ih later⟩

theorem Answers.append {fifo middle last : Fifo} {past later : History}
    (first : fifo.Answers past middle) (second : middle.Answers later last) :
    fifo.Answers (past ++ later) last := by
  induction past generalizing fifo with
  | nil =>
      have same : fifo = middle := congrArg Prod.snd first
      rw [same]
      exact second
  | cons entry rest ih =>
      obtain ⟨replied, remaining⟩ := Answers.cons.mp first
      exact Answers.cons.mpr ⟨replied, ih remaining⟩

/-- The vectors accepted are those delivered, in the order of their delivery, and then those still
queued. -/
theorem Answers.conserves {fifo last : Fifo} {history : History}
    (answers : fifo.Answers history last) :
    fifo.queued ++ history.accepted = history.delivered ++ last.queued := by
  induction history generalizing fifo with
  | nil =>
      have same : fifo = last := congrArg Prod.snd answers
      simp [History.accepted, History.delivered, same]
  | cons entry rest ih =>
      obtain ⟨op, reply⟩ := entry
      obtain ⟨replied, later⟩ := Answers.cons.mp answers
      calc
        fifo.queued ++ History.accepted ((op, reply) :: rest)
          = (fifo.queued ++ op.accepted (fifo.apply op).1) ++ History.accepted rest := by
            simp [History.accepted, replied]
        _ = (fifo.apply op).1.delivered ++
              ((fifo.apply op).2.queued ++ History.accepted rest) := by
            rw [apply_conserves, List.append_assoc]
        _ = History.delivered ((op, reply) :: rest) ++ last.queued := by
            rw [ih later, replied]
            simp [History.delivered]

theorem Answers.keeps {fifo last : Fifo} {history : History}
    (answers : fifo.Answers history last) :
    last.channel = fifo.channel ∧ last.capacity = fifo.capacity := by
  induction history generalizing fifo with
  | nil =>
      have same : fifo = last := congrArg Prod.snd answers
      simp [same]
  | cons entry rest ih =>
      obtain ⟨_, later⟩ := Answers.cons.mp answers
      obtain ⟨channel, capacity⟩ := ih later
      exact ⟨channel.trans (apply_keeps _ _).1, capacity.trans (apply_keeps _ _).2⟩

theorem Answers.settles {fifo last : Fifo} {history : History}
    (answers : fifo.Answers history last) (sound : fifo.Sound)
    (reader : Nat) (begun : reader < last.started) :
    reader ∈ last.waiting ∨ history.settles reader = true ∨
      reader < fifo.started ∧ reader ∉ fifo.waiting := by
  induction history generalizing fifo with
  | nil =>
      have same : fifo = last := congrArg Prod.snd answers
      by_cases waits : reader ∈ last.waiting
      · exact .inl waits
      · exact .inr (.inr ⟨same ▸ begun, same ▸ waits⟩)
  | cons entry rest ih =>
      obtain ⟨op, reply⟩ := entry
      obtain ⟨replied, later⟩ := Answers.cons.mp answers
      have split : History.settles ((op, reply) :: rest) reader =
          (op.settles reader (fifo.apply op).1 || History.settles rest reader) := by
        simp [History.settles, replied]
      rw [split, Bool.or_eq_true]
      rcases ih later (sound.apply op) with waits | settled | ⟨earlier, ended⟩
      · exact .inl waits
      · exact .inr (.inl (.inr settled))
      · rcases sound.settled op reader earlier with waits | now | before
        · exact absurd waits ended
        · exact .inr (.inl (.inl now))
        · exact .inr (.inr before)

end Fifo

end Transceiver
