import Transceiver.Proofs.Fifo.Basic

/-!
Whose turn it is, told from the history of a queue alone. The readers that a history started and did
not settle are the ones the queue lets wait, in the same order, and a reader takes a vector only
after every reader started before it was settled.
-/

namespace Transceiver.Fifo

def Op.begins : Op → Bool
  | .read => true
  | _ => false

theorem Op.settles_unique {op : Op} {reply : Reply} {first second : Nat}
    (settled : op.settles first reply = true) (also : op.settles second reply = true) :
    first = second := by
  cases op with
  | read | poll =>
      cases reply with
      | started number poll | polled poll =>
          cases poll with
          | item vector => simp_all [settles]
          | pending | gone => cases settled
      | _ => cases settled
  | cancel number =>
      simp only [settles, decide_eq_true_eq] at settled also
      exact settled.symm.trans also
  | _ => cases settled

theorem Op.begins_of_ne {op : Op} (other : op ≠ .read) : op.begins = false := by
  cases op with
  | read => exact absurd rfl other
  | _ => rfl

namespace History

def started (history : History) : Nat :=
  history.countP fun (op, _) => op.begins

def unfinished (history : History) : List Nat :=
  (List.range history.started).filter fun reader => !history.settles reader

def queued (history : History) : List SampleVector :=
  history.accepted.drop history.delivered.length

def Takes (history : History) (reader position : Nat) (vector : SampleVector) : Prop :=
  ∃ (before : History) (op : Op) (reply : Reply) (after : History),
    history = before ++ (op, reply) :: after ∧
    op.settles reader reply = true ∧ reply.delivered = [vector] ∧
    position = before.delivered.length

def queue (history : History) (channel depth : Nat) : Fifo where
  channel
  capacity := max depth 1
  queued := history.queued
  waiting := history.unfinished
  started := history.started

section

variable (past later : History) (op : Op) (reply : Reply)

theorem delivered_append : (past ++ later).delivered = past.delivered ++ later.delivered := by
  simp [delivered]

theorem settles_append (reader : Nat) :
    (past ++ later).settles reader = (past.settles reader || later.settles reader) := by
  simp [settles]

theorem accepted_snoc :
    accepted (past ++ [(op, reply)]) = past.accepted ++ op.accepted reply := by
  simp [accepted]

theorem delivered_snoc :
    delivered (past ++ [(op, reply)]) = past.delivered ++ reply.delivered := by
  simp [delivered]

theorem settles_snoc (reader : Nat) :
    settles (past ++ [(op, reply)]) reader = (past.settles reader || op.settles reader reply) := by
  simp [settles]

theorem started_snoc :
    started (past ++ [(op, reply)]) = past.started + if op.begins then 1 else 0 := by
  simp [started, List.countP_append, List.countP_singleton]

theorem unfinished_snoc (unsettled : past.settles past.started = false) :
    unfinished (past ++ [(op, reply)]) =
      (past.unfinished ++ if op.begins then [past.started] else []).filter
        fun reader => !op.settles reader reply := by
  have everyone : (List.range past.started ++ if op.begins then [past.started] else []).filter
      (fun reader => !past.settles reader) =
        past.unfinished ++ if op.begins then [past.started] else [] := by
    rw [List.filter_append, ← unfinished]
    cases op.begins with
    | true => simp [unsettled]
    | false => rfl
  have range : List.range (started (past ++ [(op, reply)])) =
      List.range past.started ++ if op.begins then [past.started] else [] := by
    rw [started_snoc]
    cases op.begins with
    | true => exact List.range_succ
    | false => exact (List.append_nil _).symm
  rw [← everyone, List.filter_filter, unfinished, range]
  congr 1
  funext reader
  rw [settles_snoc, Bool.not_or, Bool.and_comm]

theorem nodup_unfinished : past.unfinished.Nodup :=
  List.nodup_range.filter _

theorem mem_unfinished {reader : Nat} :
    reader ∈ past.unfinished ↔ reader < past.started ∧ past.settles reader = false := by
  simp [unfinished]

theorem head_unfinished {reader : Nat} (first : past.unfinished.head? = some reader) :
    past.settles reader = false ∧ ∀ earlier < reader, past.settles earlier = true := by
  rw [unfinished, List.head?_filter] at first
  obtain ⟨unsettled, _, settled⟩ := List.find?_range_eq_some.mp first
  exact ⟨by simpa using unsettled, by simpa using settled⟩

theorem settled_of_nobody (nobody : past.unfinished = []) {reader : Nat}
    (begun : reader < past.started) : past.settles reader = true := by
  refine Bool.of_not_eq_false fun unsettled => ?_
  have member := past.mem_unfinished.mpr ⟨begun, unsettled⟩
  rw [nobody] at member
  cases member

end

end History

theorem poll_item_iff (fifo : Fifo) (reader : Nat) (vector : SampleVector) :
    (fifo.poll reader).1 = .item vector ↔
      fifo.waiting.head? = some reader ∧ fifo.queued.head? = some vector := by
  rcases fifo.poll_cases reader with
    ⟨first, rest, later, queued, waiting, polled⟩ | ⟨_, idle, polled⟩ | ⟨absent, polled⟩
  · simp [polled, queued, waiting]
  · rw [polled]
    constructor
    · intro found
      cases found
    · rintro ⟨turn, oldest⟩
      rcases idle with empty | behind
      · simp [empty] at oldest
      · exact absurd turn behind
  · rw [polled]
    constructor
    · intro found
      cases found
    · rintro ⟨turn, _⟩
      exact absurd (List.mem_of_mem_head? turn) absent

theorem poll_pending_iff (fifo : Fifo) (reader : Nat) :
    (fifo.poll reader).1 = .pending ↔
      reader ∈ fifo.waiting ∧ (fifo.queued = [] ∨ fifo.waiting.head? ≠ some reader) := by
  rcases fifo.poll_cases reader with
    ⟨first, rest, later, queued, waiting, polled⟩ | ⟨member, idle, polled⟩ | ⟨absent, polled⟩
  · simp [polled, queued, waiting]
  · simp only [polled, member, idle, and_self]
  · simp [polled, absent]

theorem poll_gone_iff (fifo : Fifo) (reader : Nat) :
    (fifo.poll reader).1 = .gone ↔ reader ∉ fifo.waiting := by
  rcases fifo.poll_cases reader with
    ⟨first, rest, later, queued, waiting, polled⟩ | ⟨member, _, polled⟩ | ⟨absent, polled⟩
  · simp [polled, waiting]
  · simp [polled, member]
  · simp [polled, absent]

theorem apply_read_eq (fifo : Fifo) (numbered : ∀ reader ∈ fifo.waiting, reader < fifo.started) :
    fifo.apply .read =
      match fifo.waiting, fifo.queued with
      | [], vector :: rest =>
          (.started fifo.started (.item vector),
            { fifo with queued := rest, started := fifo.started + 1 })
      | _, _ =>
          (.started fifo.started .pending,
            { fifo with
              waiting := fifo.waiting ++ [fifo.started]
              started := fifo.started + 1 }) := by
  obtain ⟨channel, capacity, queued, waiting, started⟩ := fifo
  cases waiting with
  | nil =>
      cases queued with
      | nil => simp [apply, start, poll]
      | cons vector rest => simp [apply, start, poll]
  | cons first later =>
      -- The look that a new reader is given at once finds another one in front of it.
      have behind : first ≠ started := Nat.ne_of_lt (numbered first List.mem_cons_self)
      cases queued with
      | nil => simp [apply, start, poll]
      | cons vector rest => simp [apply, start, poll, behind]

theorem filter_unsettled {op : Op} {reply : Reply} (readers : List Nat)
    (nobody : ∀ reader, op.settles reader reply = false) :
    (readers.filter fun reader => !op.settles reader reply) = readers := by
  refine List.filter_eq_self.mpr ?_
  intro reader _
  rw [nobody, Bool.not_false]

theorem waiting_apply (fifo : Fifo) (numbered : ∀ reader ∈ fifo.waiting, reader < fifo.started)
    (distinct : fifo.waiting.Nodup) (op : Op) :
    (fifo.apply op).2.waiting =
      (fifo.waiting ++ if op.begins then [fifo.started] else []).filter
        fun reader => !op.settles reader (fifo.apply op).1 := by
  cases op with
  | read =>
      rcases fifo.apply_read numbered with applied | ⟨vector, rest, _, waiting, applied⟩
      · rw [applied, filter_unsettled _ fun _ => rfl]
        rfl
      · simp [applied, waiting, Op.begins, Op.settles]
  | write vector =>
      rw [filter_unsettled _ fun _ => rfl]
      by_cases space : fifo.queued.length < fifo.capacity
      · simp [apply, write?, space, Op.begins]
      · simp [apply, write?, space, Op.begins]
  | fill timestamp count =>
      rw [filter_unsettled _ fun _ => rfl]
      simp [apply, writeAll, Op.begins]
  | tryRead =>
      rw [filter_unsettled _ fun _ => rfl]
      simp only [apply, tryRead]
      split
      · simp [Op.begins]
      · simp [Op.begins]
  | drain =>
      rw [filter_unsettled _ fun _ => rfl]
      simp only [apply, drain]
      split
      · simp [Op.begins]
      · simp [Op.begins]
  | poll target =>
      simp only [apply, Op.begins, Bool.false_eq_true, if_false, List.append_nil]
      rcases fifo.poll_cases target with
        ⟨vector, rest, later, _, waiting, polled⟩ | ⟨_, _, polled⟩ | ⟨_, polled⟩
      · have behind : target ∉ later := by
          rw [waiting] at distinct
          exact (List.nodup_cons.mp distinct).1
        rw [polled, waiting, List.filter_cons_of_neg (by simp [Op.settles])]
        refine (List.filter_eq_self.mpr ?_).symm
        intro reader member
        have another : target ≠ reader := fun same => behind (same ▸ member)
        simp [Op.settles, another]
      · rw [polled]
        exact (filter_unsettled _ fun _ => rfl).symm
      · rw [polled]
        exact (filter_unsettled _ fun _ => rfl).symm
  | cancel target =>
      simp only [apply, cancel, Op.begins, Op.settles, Bool.false_eq_true, if_false,
        List.append_nil]
      congr 1
      funext reader
      simp [eq_comm]

theorem started_apply (fifo : Fifo) (numbered : ∀ reader ∈ fifo.waiting, reader < fifo.started)
    (op : Op) : (fifo.apply op).2.started = fifo.started + if op.begins then 1 else 0 := by
  by_cases begins : op = .read
  · subst begins
    rcases fifo.apply_read numbered with applied | ⟨_, _, _, _, applied⟩
    · rw [applied]
      rfl
    · rw [applied]
      rfl
  · obtain ⟨started, _, _, _⟩ := fifo.apply_readers op begins
    simp [started, Op.begins_of_ne begins]

theorem served_first (fifo : Fifo) (numbered : ∀ reader ∈ fifo.waiting, reader < fifo.started)
    {op : Op} {reader : Nat} {vector : SampleVector}
    (settled : op.settles reader (fifo.apply op).1 = true)
    (delivered : (fifo.apply op).1.delivered = [vector]) :
    fifo.waiting.head? = some reader ∨ fifo.waiting = [] ∧ reader = fifo.started := by
  cases op with
  | read =>
      rcases fifo.apply_read numbered with applied | ⟨first, rest, _, waiting, applied⟩
      · simp [applied, Op.settles] at settled
      · simp only [applied, Op.settles, decide_eq_true_eq] at settled
        exact .inr ⟨waiting, settled.symm⟩
  | poll target =>
      simp only [apply] at settled delivered
      cases look : (fifo.poll target).1 with
      | item found =>
          simp only [look, Op.settles, decide_eq_true_eq] at settled
          rw [← settled]
          exact .inl ((fifo.poll_item_iff target found).mp look).1
      | pending | gone => simp [look, Op.settles] at settled
  | cancel target => cases delivered
  | write | fill | tryRead | drain => cases settled

structure Tally (history : History) (fifo : Fifo) : Prop where
  ordered : history.accepted = history.delivered ++ fifo.queued
  counted : fifo.started = history.started
  waiting : fifo.waiting = history.unfinished
  settled : ∀ reader, history.settles reader = true → reader < history.started
  inTurn : ∀ (before : History) op reply after reader vector,
    history = before ++ (op, reply) :: after →
    op.settles reader reply = true → reply.delivered = [vector] →
      before.settles reader = false ∧ ∀ earlier < reader, before.settles earlier = true

namespace Tally

variable {history : History} {fifo : Fifo}

theorem create (channel depth : Nat) : Tally [] (create channel depth) := by
  constructor
  · rfl
  · rfl
  · rfl
  · intro reader settled
    cases settled
  · intro before op reply after reader vector split
    simp at split

theorem queued (tally : Tally history fifo) : fifo.queued = history.queued := by
  rw [History.queued, tally.ordered, List.drop_left]

theorem unsettled (tally : Tally history fifo) {reader : Nat}
    (unbegun : history.started ≤ reader) : history.settles reader = false := by
  rw [Bool.eq_false_iff]
  intro settled
  exact absurd (tally.settled reader settled) (Nat.not_lt.mpr unbegun)

theorem queue {channel depth : Nat} (tally : Tally history fifo)
    (answers : (Fifo.create channel depth).Answers history fifo) :
    fifo = history.queue channel depth := by
  obtain ⟨sameChannel, sameCapacity⟩ := answers.keeps
  obtain ⟨number, capacity, queued, waiting, started⟩ := fifo
  rw [History.queue, ← tally.queued, ← tally.waiting, ← tally.counted]
  cases sameChannel
  cases sameCapacity
  rfl

theorem numbered (tally : Tally history fifo) :
    ∀ reader ∈ fifo.waiting, reader < fifo.started := by
  intro reader member
  rw [tally.waiting] at member
  rw [tally.counted]
  exact (history.mem_unfinished.mp member).1

theorem settles_iff (tally : Tally history fifo) (reader : Nat) :
    reader < fifo.started ∧ reader ∉ fifo.waiting ↔ history.settles reader = true := by
  rw [tally.counted, tally.waiting, history.mem_unfinished]
  constructor
  · rintro ⟨begun, ended⟩
    exact Bool.of_not_eq_false fun unsettled => ended ⟨begun, unsettled⟩
  · intro settled
    exact ⟨tally.settled reader settled, by simp [settled]⟩

-- Only a reader that waits or is new can take a vector, and either way nobody before it is left.
theorem turn (tally : Tally history fifo) {op : Op} {reader : Nat} {vector : SampleVector}
    (settled : op.settles reader (fifo.apply op).1 = true)
    (delivered : (fifo.apply op).1.delivered = [vector]) :
    history.settles reader = false ∧ ∀ earlier < reader, history.settles earlier = true := by
  rcases fifo.served_first tally.numbered settled delivered with first | ⟨nobody, new⟩
  · rw [tally.waiting] at first
    exact history.head_unfinished first
  · rw [tally.waiting] at nobody
    rw [tally.counted] at new
    subst new
    refine ⟨tally.unsettled (Nat.le_refl _), fun earlier begun => ?_⟩
    exact history.settled_of_nobody nobody begun

theorem settled_apply (tally : Tally history fifo) {op : Op} {reader : Nat}
    (named : ∀ reader, op = .cancel reader → reader < fifo.started)
    (settled : op.settles reader (fifo.apply op).1 = true) :
    reader < (fifo.apply op).2.started := by
  rw [fifo.started_apply tally.numbered]
  cases op with
  | read =>
      rcases fifo.apply_read tally.numbered with applied | ⟨_, _, _, _, applied⟩
      · simp [applied, Op.settles] at settled
      · simp only [applied, Op.settles, decide_eq_true_eq] at settled
        simp [← settled, Op.begins]
  | poll target =>
      cases look : (fifo.poll target).1 with
      | item vector =>
          simp only [apply, look, Op.settles, decide_eq_true_eq] at settled
          have waits := List.mem_of_mem_head? ((fifo.poll_item_iff target vector).mp look).1
          exact Nat.lt_add_right _ (tally.numbered reader (settled ▸ waits))
      | pending | gone => simp [apply, look, Op.settles] at settled
  | cancel target =>
      have same : target = reader := by simpa [Op.settles] using settled
      exact Nat.lt_add_right _ (same ▸ named target rfl)
  | write | fill | tryRead | drain => cases settled

theorem snoc (tally : Tally history fifo) (op : Op)
    (named : ∀ reader, op = .cancel reader → reader < fifo.started) :
    Tally (history ++ [(op, (fifo.apply op).1)]) (fifo.apply op).2 := by
  have counted : (fifo.apply op).2.started =
      History.started (history ++ [(op, (fifo.apply op).1)]) := by
    rw [fifo.started_apply tally.numbered, History.started_snoc, tally.counted]
  constructor
  · rw [History.accepted_snoc, History.delivered_snoc, tally.ordered, List.append_assoc,
      fifo.apply_conserves, List.append_assoc]
  · exact counted
  · have distinct : fifo.waiting.Nodup := tally.waiting ▸ history.nodup_unfinished
    rw [fifo.waiting_apply tally.numbered distinct, tally.waiting, tally.counted,
      History.unfinished_snoc _ _ _ (tally.unsettled (Nat.le_refl _))]
  · intro reader settled
    rw [← counted]
    rw [History.settles_snoc, Bool.or_eq_true] at settled
    rcases settled with earlier | now
    · rw [fifo.started_apply tally.numbered, tally.counted]
      exact Nat.lt_add_right _ (tally.settled reader earlier)
    · exact tally.settled_apply named now
  · intro before last reply after reader vector split settled delivered
    rcases List.eq_nil_or_concat after with none | ⟨more, entry, rest⟩
    · subst none
      obtain ⟨same, only⟩ := List.append_inj' split rfl
      cases only
      exact same ▸ tally.turn settled delivered
    · subst rest
      have longer : history ++ [(op, (fifo.apply op).1)] =
          (before ++ (last, reply) :: more) ++ [entry] := by simpa using split
      have shorter : history = before ++ (last, reply) :: more := (List.append_inj' longer rfl).1
      exact tally.inTurn before last reply more reader vector shorter settled delivered

theorem accepted_of_takes (tally : Tally history fifo) {reader position : Nat}
    {vector : SampleVector} (takes : history.Takes reader position vector) :
    history.accepted[position]? = some vector := by
  obtain ⟨before, op, reply, after, split, _, delivered, rfl⟩ := takes
  have handed : history.delivered = before.delivered ++ vector :: History.delivered after := by
    rw [split, List.append_cons, History.delivered_append, History.delivered_snoc, delivered,
      List.append_assoc]
    rfl
  rw [tally.ordered, handed, List.append_assoc, List.getElem?_append_right (Nat.le_refl _),
    Nat.sub_self]
  rfl

theorem takes_in_order (tally : Tally history fifo) {first second : Nat} (earlier : first < second)
    {position later : Nat} {vector other : SampleVector}
    (takes : history.Takes first position vector) (follows : history.Takes second later other) :
    position < later := by
  obtain ⟨before, op, reply, after, split, settled, delivered, rfl⟩ := takes
  obtain ⟨past, next, answer, rest, parted, ended, handed, rfl⟩ := follows
  have unserved := (tally.inTurn before op reply after first vector split settled delivered).1
  have settledAll := (tally.inTurn past next answer rest second other parted ended handed).2
  have served := settledAll first earlier
  rcases List.append_eq_append_iff.mp (split.symm.trans parted) with
    ⟨between, longer, remain⟩ | ⟨between, longer, _⟩
  · cases between with
    | nil =>
        cases remain
        have same := Op.settles_unique settled ended
        omega
    | cons entry between =>
        cases remain
        have counted := congrArg (fun history => (History.delivered history).length) longer
        simp only [History.delivered_append] at counted
        simp [History.delivered, delivered] at counted ⊢
        omega
  · rw [longer, History.settles_append, served] at unserved
    cases unserved

end Tally

end Transceiver.Fifo
