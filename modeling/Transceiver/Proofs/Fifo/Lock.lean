import Transceiver.Proofs.Fifo.Endpoints

/-!
A queue whose receiver is behind a fair lock. A read takes the lock, or joins the line for it, and
keeps it until it is given a vector or cancelled; then the lock is handed to the first in line, who
has it from there on, also before the next look. The readers of a queue, in the order of its line,
are the one that has the lock and those behind it, so the queue answers as the lock makes it.
-/

namespace Transceiver.Fifo

/-- Who has the lock: a reader that took it, or one it was handed to that has not looked since. -/
inductive Hold
  | free
  | handed (reader : Nat)
  | taken (reader : Nat)

def Hold.reader? : Hold → Option Nat
  | free => none
  | handed reader | taken reader => some reader

structure Lock where
  hold : Hold := .free
  line : List Nat := []

namespace Lock

def everyone (lock : Lock) : List Nat :=
  lock.hold.reader?.toList ++ lock.line

def acquire (lock : Lock) (reader : Nat) : Lock :=
  match lock.hold with
  | .free => { lock with hold := .taken reader }
  | .handed _ | .taken _ => { lock with line := lock.line ++ [reader] }

def take (lock : Lock) (reader : Nat) : Lock :=
  { lock with hold := .taken reader }

def release (lock : Lock) : Lock :=
  match lock.line with
  | [] => {}
  | next :: later => { hold := .handed next, line := later }

def leaveLine (lock : Lock) (reader : Nat) : Lock :=
  { lock with line := lock.line.filter (· ≠ reader) }

def leave (lock : Lock) (reader : Nat) : Lock :=
  match lock.hold with
  | .free => lock.leaveLine reader
  | .handed owner => if owner = reader then lock.release else lock.leaveLine reader
  | .taken owner => if owner = reader then lock.release else lock.leaveLine reader

structure Fair (lock : Lock) (started : Nat) : Prop where
  vacant : lock.hold = .free → lock.line = []
  ordered : lock.everyone.Pairwise (· < ·)
  begun : ∀ reader ∈ lock.everyone, reader < started

section

variable {lock : Lock} {started : Nat}

theorem Fair.head?_everyone (fair : lock.Fair started) :
    lock.everyone.head? = lock.hold.reader? := by
  cases hold : lock.hold with
  | free => simp [everyone, hold, Hold.reader?, fair.vacant hold]
  | handed owner | taken owner => simp [everyone, hold, Hold.reader?]

theorem everyone_take {reader : Nat} (owned : lock.hold.reader? = some reader) :
    (lock.take reader).everyone = lock.everyone := by
  simp only [everyone, owned]
  rfl

theorem everyone_release : lock.release.everyone = lock.line := by
  cases line : lock.line with
  | nil => simp [release, line, everyone, Hold.reader?]
  | cons next later => simp [release, line, everyone, Hold.reader?]

theorem Fair.everyone_acquire (fair : lock.Fair started) (reader : Nat) :
    (lock.acquire reader).everyone = lock.everyone ++ [reader] := by
  cases hold : lock.hold with
  | free => simp [acquire, hold, everyone, Hold.reader?, fair.vacant hold]
  | handed owner | taken owner => simp [acquire, hold, everyone, Hold.reader?]

theorem everyone_leave_owner {reader : Nat} (owned : lock.hold.reader? = some reader)
    (ordered : lock.everyone.Pairwise (· < ·)) :
    lock.line = lock.everyone.filter (· ≠ reader) := by
  simp only [everyone, owned, Option.toList_some, List.singleton_append] at ordered ⊢
  have behind : ∀ later ∈ lock.line, later ≠ reader := by
    intro later member
    have above := (List.pairwise_cons.mp ordered).1 later member
    omega
  rw [List.filter_cons_of_neg (by simp)]
  exact (List.filter_eq_self.mpr (by simpa using behind)).symm

theorem Fair.everyone_leave (fair : lock.Fair started) (reader : Nat) :
    (lock.leave reader).everyone = lock.everyone.filter (· ≠ reader) := by
  cases hold : lock.hold with
  | free => simp [leave, leaveLine, hold, everyone, Hold.reader?, fair.vacant hold]
  | handed owner | taken owner =>
      by_cases owns : owner = reader
      · subst owns
        have owned : lock.hold.reader? = some owner := by rw [hold]; rfl
        simp only [leave, hold, if_true, everyone_release]
        exact everyone_leave_owner owned fair.ordered
      · simp [leave, leaveLine, hold, everyone, Hold.reader?, owns]

theorem Fair.acquire (fair : lock.Fair started) : (lock.acquire started).Fair (started + 1) := by
  constructor
  · cases hold : lock.hold with
    | free | handed | taken => simp [Lock.acquire, hold]
  · rw [fair.everyone_acquire, List.pairwise_append]
    refine ⟨fair.ordered, List.pairwise_singleton _ _, ?_⟩
    intro reader member new only
    rw [List.mem_singleton.mp only]
    exact fair.begun reader member
  · intro reader member
    rw [fair.everyone_acquire] at member
    rcases List.mem_append.mp member with earlier | new
    · exact Nat.lt_succ_of_lt (fair.begun reader earlier)
    · exact Nat.lt_succ_of_le (Nat.le_of_eq (List.mem_singleton.mp new))

theorem Fair.of_sublist {next : Lock} (fair : lock.Fair started)
    (fewer : next.everyone.Sublist lock.everyone)
    (vacant : next.hold = .free → next.line = []) : next.Fair started :=
  ⟨vacant, fair.ordered.sublist fewer, fun reader member => fair.begun reader (fewer.subset member)⟩

theorem Fair.release (fair : lock.Fair started) : lock.release.Fair started := by
  refine fair.of_sublist ?_ ?_
  · rw [everyone_release]
    exact List.sublist_append_right _ _
  · cases line : lock.line with
    | nil => simp [Lock.release, line]
    | cons next later => simp [Lock.release, line]

theorem Fair.take (fair : lock.Fair started) {reader : Nat}
    (owned : lock.hold.reader? = some reader) : (lock.take reader).Fair started := by
  have same := everyone_take owned
  exact fair.of_sublist (same ▸ List.Sublist.refl _) (by simp [Lock.take])

theorem Fair.leave (fair : lock.Fair started) (reader : Nat) :
    (lock.leave reader).Fair started := by
  refine fair.of_sublist ?_ ?_
  · rw [fair.everyone_leave]
    exact List.filter_sublist
  · cases hold : lock.hold with
    | free => simp [Lock.leave, leaveLine, hold, fair.vacant hold]
    | handed owner | taken owner =>
        by_cases owns : owner = reader
        · simpa [Lock.leave, hold, owns] using fair.release.vacant
        · simp [Lock.leave, leaveLine, hold, owns]

end

end Lock

structure Guarded where
  number : Nat
  channel : Channel
  lock : Lock := {}
  started : Nat := 0

namespace Guarded

def create (number depth : Nat) : Guarded where
  number
  channel := { capacity := max depth 1 }

def ends (guarded : Guarded) : Endpoints where
  number := guarded.number
  channel := guarded.channel
  line := guarded.lock.everyone
  started := guarded.started

def tryRead (guarded : Guarded) : Option SampleVector × Guarded :=
  match guarded.lock.hold with
  | .handed _ | .taken _ => (none, guarded)
  | .free =>
      match guarded.channel.receive with
      | (.item vector, rest) => (some vector, { guarded with channel := rest })
      | (_, _) => (none, guarded)

def drain (guarded : Guarded) : Nat → List SampleVector × Guarded
  | 0 => ([], guarded)
  | tries + 1 =>
      match guarded.tryRead with
      | (none, next) => ([], next)
      | (some vector, next) =>
          let (vectors, last) := next.drain tries
          (vector :: vectors, last)

def receive (guarded : Guarded) (reader : Nat) : Progress × Guarded :=
  match guarded.channel.receive with
  | (.item vector, rest) =>
      (.finished (some vector), { guarded with channel := rest, lock := guarded.lock.release })
  | (.closed, _) => (.finished none, { guarded with lock := guarded.lock.release })
  | (.empty, _) => (.pending, { guarded with lock := guarded.lock.take reader })

def poll (guarded : Guarded) (reader : Nat) : Progress × Guarded :=
  if guarded.lock.hold.reader? = some reader then guarded.receive reader
  else if reader ∈ guarded.lock.line then (.pending, guarded)
  else (.gone, guarded)

def start (guarded : Guarded) : Guarded :=
  { guarded with
    lock := guarded.lock.acquire guarded.started
    started := guarded.started + 1 }

def apply (guarded : Guarded) : Op → Response × Guarded
  | .write vector =>
      let (result, next) := guarded.ends.write vector
      (.written result, { guarded with channel := next.channel })
  | .fill timestamp count =>
      let (accepted, refusals, next) := guarded.ends.writeEach (consecutive timestamp count)
      (.filled accepted refusals, { guarded with channel := next.channel })
  | .tryRead =>
      let (vector, next) := guarded.tryRead
      (.found vector, next)
  | .drain =>
      let (vectors, next) := guarded.drain (guarded.channel.buffer.length + 1)
      (.drained vectors, next)
  | .read =>
      let (progress, next) := guarded.start.poll guarded.started
      (.started guarded.started progress, next)
  | .poll reader =>
      let (progress, next) := guarded.poll reader
      (.polled progress, next)
  | .cancel reader => (.cancelled, { guarded with lock := guarded.lock.leave reader })

def applyAll (guarded : Guarded) : List Op → List Response × Guarded
  | [] => ([], guarded)
  | op :: rest =>
      let (response, next) := guarded.apply op
      let (responses, last) := next.applyAll rest
      (response :: responses, last)

def Fair (guarded : Guarded) : Prop :=
  guarded.lock.Fair guarded.started

end Guarded

theorem Endpoints.write_keeps (ends : Endpoints) (vector : SampleVector) :
    (ends.write vector).2.number = ends.number ∧ (ends.write vector).2.line = ends.line ∧
      (ends.write vector).2.started = ends.started := by
  unfold Endpoints.write
  split
  · exact ⟨rfl, rfl, rfl⟩
  · exact ⟨rfl, rfl, rfl⟩
  · exact ⟨rfl, rfl, rfl⟩

theorem Endpoints.writeEach_keeps (ends : Endpoints) (vectors : List SampleVector) :
    (ends.writeEach vectors).2.2.number = ends.number ∧
      (ends.writeEach vectors).2.2.line = ends.line ∧
      (ends.writeEach vectors).2.2.started = ends.started := by
  induction vectors generalizing ends with
  | nil => exact ⟨rfl, rfl, rfl⟩
  | cons vector later ih =>
      obtain ⟨number, line, started⟩ := ends.write_keeps vector
      obtain ⟨numbers, lines, starts⟩ := ih (ends.write vector).2
      simp only [Endpoints.writeEach]
      split
      · exact ⟨numbers.trans number, lines.trans line, starts.trans started⟩
      · exact ⟨numbers.trans number, lines.trans line, starts.trans started⟩

namespace Guarded

theorem ends_of_kept (guarded : Guarded) {next : Endpoints}
    (kept : next.number = guarded.ends.number ∧ next.line = guarded.ends.line ∧
      next.started = guarded.ends.started) :
    { guarded with channel := next.channel }.ends = next := by
  obtain ⟨number, channel, line, started⟩ := next
  obtain ⟨rfl, rfl, rfl⟩ := kept
  rfl

theorem ends_tryRead {guarded : Guarded} (fair : guarded.Fair) :
    guarded.ends.tryRead = (guarded.tryRead.1, guarded.tryRead.2.ends) := by
  cases hold : guarded.lock.hold with
  | handed owner | taken owner =>
      simp [Endpoints.tryRead, tryRead, ends, Lock.everyone, hold, Hold.reader?]
  | free =>
      have alone : guarded.lock.everyone = [] := by
        simp [Lock.everyone, hold, Hold.reader?, fair.vacant hold]
      simp only [Endpoints.tryRead, tryRead, ends, hold, alone]
      rcases guarded.channel.receive with ⟨receipt, rest⟩
      cases receipt with
      | item vector => simp [alone]
      | empty | closed => simp [alone]

theorem fair_tryRead {guarded : Guarded} (fair : guarded.Fair) : guarded.tryRead.2.Fair := by
  unfold tryRead
  split
  · exact fair
  · exact fair
  · split
    · exact fair
    · exact fair

theorem ends_drain {guarded : Guarded} (fair : guarded.Fair) (tries : Nat) :
    guarded.ends.drain tries = ((guarded.drain tries).1, (guarded.drain tries).2.ends) ∧
      (guarded.drain tries).2.Fair := by
  induction tries generalizing guarded with
  | zero => exact ⟨rfl, fair⟩
  | succ tries ih =>
      have kept := fair_tryRead fair
      rw [Endpoints.drain, drain, ends_tryRead fair]
      rcases tried : guarded.tryRead with ⟨found, next⟩
      rw [tried] at kept
      cases found with
      | none => exact ⟨rfl, kept⟩
      | some vector =>
          obtain ⟨drained, fairly⟩ := ih kept
          exact ⟨by simp [drained], fairly⟩

theorem ends_receive {guarded : Guarded} (fair : guarded.Fair) {reader : Nat}
    (owned : guarded.lock.hold.reader? = some reader) :
    guarded.ends.poll reader = ((guarded.receive reader).1, (guarded.receive reader).2.ends) ∧
      (guarded.receive reader).2.Fair := by
  have first : guarded.lock.everyone = reader :: guarded.lock.line := by
    simp [Lock.everyone, owned]
  simp only [Endpoints.poll, receive, ends, first, List.mem_cons, true_or, if_true,
    List.head?_cons, List.tail_cons]
  rcases guarded.channel.receive with ⟨receipt, rest⟩
  cases receipt with
  | item vector => exact ⟨by simp [Lock.everyone_release], Lock.Fair.release fair⟩
  | closed => exact ⟨by simp [Lock.everyone_release], Lock.Fair.release fair⟩
  | empty => exact ⟨by simp [Lock.everyone_take owned, first], Lock.Fair.take fair owned⟩

theorem ends_poll {guarded : Guarded} (fair : guarded.Fair) (reader : Nat) :
    guarded.ends.poll reader = ((guarded.poll reader).1, (guarded.poll reader).2.ends) ∧
      (guarded.poll reader).2.Fair := by
  by_cases owned : guarded.lock.hold.reader? = some reader
  · rw [poll, if_pos owned]
    exact ends_receive fair owned
  · have behind : guarded.lock.everyone.head? ≠ some reader := by
      rw [Lock.Fair.head?_everyone fair]
      exact owned
    have member : reader ∈ guarded.lock.everyone ↔ reader ∈ guarded.lock.line := by
      simp [Lock.everyone, owned]
    rw [poll, if_neg owned]
    by_cases waits : reader ∈ guarded.lock.line
    · refine ⟨?_, by simpa [waits] using fair⟩
      simp [Endpoints.poll, ends, member.mpr waits, behind, waits]
    · refine ⟨?_, by simpa [waits] using fair⟩
      simp [Endpoints.poll, ends, member, waits]

theorem fair_start {guarded : Guarded} (fair : guarded.Fair) : guarded.start.Fair :=
  Lock.Fair.acquire fair

theorem ends_apply {guarded : Guarded} (fair : guarded.Fair) (op : Op) :
    guarded.ends.apply op = ((guarded.apply op).1, (guarded.apply op).2.ends) ∧
      (guarded.apply op).2.Fair := by
  cases op with
  | write vector =>
      have kept := guarded.ends_of_kept (guarded.ends.write_keeps vector)
      exact ⟨by simp [Endpoints.apply, apply, kept], fair⟩
  | fill timestamp count =>
      have kept :=
        guarded.ends_of_kept (guarded.ends.writeEach_keeps (consecutive timestamp count))
      exact ⟨by simp [Endpoints.apply, apply, kept], fair⟩
  | tryRead => exact ⟨by simp [Endpoints.apply, apply, ends_tryRead fair], fair_tryRead fair⟩
  | drain =>
      obtain ⟨drained, fairly⟩ := ends_drain fair (guarded.channel.buffer.length + 1)
      refine ⟨?_, fairly⟩
      simp only [Endpoints.apply, apply]
      rw [show guarded.ends.channel = guarded.channel from rfl, drained]
  | read =>
      have begun : { guarded.ends with
          line := guarded.ends.line ++ [guarded.ends.started]
          started := guarded.ends.started + 1 } = guarded.start.ends := by
        simp [ends, start, Lock.Fair.everyone_acquire fair]
      obtain ⟨polled, fairly⟩ := ends_poll (fair_start fair) guarded.started
      refine ⟨?_, fairly⟩
      simp only [Endpoints.apply, apply]
      rw [begun, show guarded.ends.started = guarded.started from rfl, polled]
  | poll reader =>
      obtain ⟨polled, fairly⟩ := ends_poll fair reader
      exact ⟨by simp [Endpoints.apply, apply, polled], fairly⟩
  | cancel reader =>
      refine ⟨?_, Lock.Fair.leave fair reader⟩
      simp [Endpoints.apply, apply, ends, Lock.Fair.everyone_leave fair]

theorem ends_applyAll {guarded : Guarded} (fair : guarded.Fair) (ops : List Op) :
    guarded.ends.applyAll ops = ((guarded.applyAll ops).1, (guarded.applyAll ops).2.ends) ∧
      (guarded.applyAll ops).2.Fair := by
  induction ops generalizing guarded with
  | nil => exact ⟨rfl, fair⟩
  | cons op rest ih =>
      obtain ⟨applied, fairly⟩ := ends_apply fair op
      obtain ⟨answered, last⟩ := ih fairly
      exact ⟨by simp [Endpoints.applyAll, applyAll, applied, answered], last⟩

theorem fair_create (number depth : Nat) : (create number depth).Fair := by
  constructor
  · intro _
    rfl
  · exact List.Pairwise.nil
  · intro reader member
    cases member

end Guarded

end Transceiver.Fifo
