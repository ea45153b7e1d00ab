import Mathlib.Algebra.GroupWithZero.Nat
import Transceiver.Proofs.Lifecycle.Switchboard

/-!
The course of one lifecycle: starting, running, shutting down, stopped. Each step but the entry into
running can only move on along it. That entry has no guard, so a lifecycle that is shutting down or
has stopped can be revived, and exactly a run without a revival keeps to the course.
-/

namespace Transceiver

namespace Phase

def rank : Phase → Nat
  | starting => 0
  | running => 1
  | shuttingDown => 2
  | stopped => 3

def due : Phase → Nat
  | starting | running => 1
  | shuttingDown | stopped => 0

theorem rank_le_stopped (phase : Phase) : phase.rank ≤ stopped.rank := by
  cases phase with
  | _ => decide

end Phase

namespace Lifecycle

def notices (trace : Trace) : Nat :=
  trace.announcements.count .shuttingDown

/-- A move along the course. What it announces is no longer due after it, and it leaves the phases
before the shutdown only if it shuts the lifecycle down. -/
structure Onward (phase : Phase) (notes : Trace × Phase) (shuts : Bool) : Prop where
  forward : phase.rank ≤ notes.2.rank
  announced : notices notes.1 + notes.2.due ≤ phase.due
  shut : notes.2.awaitsShutdown = (phase.awaitsShutdown && !shuts)

theorem onward_still (phase : Phase) : Onward phase ([], phase) false := by
  constructor
  · exact Nat.le_refl _
  · simp [notices]
  · simp

theorem onward_start (phase : Phase) (priority : Option Int) (scheduler : Scheduler) :
    Onward phase (start phase priority scheduler) (startError? priority scheduler).isSome := by
  cases priority with
  | none => exact onward_still phase
  | some level =>
      cases answer : scheduler level with
      | none =>
          constructor
          · simp [start, answer]
          · simp [start, answer, notices]
          · simp [start, startError?, answer]
      | some cause =>
          constructor
          · simpa [start, answer] using phase.rank_le_stopped
          · simp [start, answer, notices, moved, Phase.due]
          · simp [start, startError?, answer, Phase.awaitsShutdown]

theorem onward_beginShutdown (phase : Phase) : Onward phase (beginShutdown phase) true := by
  cases phase with
  | _ => exact ⟨by decide, by decide, rfl⟩

theorem onward_stop (phase : Phase) : Onward phase (stop phase) true := by
  cases phase with
  | _ => exact ⟨by decide, by decide, rfl⟩

theorem onward_enterRunning (phase : Phase) (channels : Nat)
    (before : phase.awaitsShutdown = true) :
    Onward phase (enterRunning phase channels) false := by
  cases phase with
  | starting | running =>
      constructor
      · simp [enterRunning, Phase.rank]
      · simp [enterRunning, announce, moved, notices, Phase.due]
      · rfl
  | shuttingDown | stopped => cases before

namespace Step

def shuts (lifecycle : Nat) : Step → Bool
  | .start target priority refusal? =>
      target = lifecycle && (startError? priority (Scheduler.answering refusal?)).isSome
  | .beginShutdown target | .stop target => target = lifecycle
  | _ => false

def entersRunning (lifecycle : Nat) : Step → Bool
  | .enterRunning target _ => target = lifecycle
  | _ => false

theorem moves_entering (lifecycle : Nat) (phase : Phase) {step : Step}
    (enters : step.entersRunning lifecycle = true) :
    (step.moves lifecycle phase).2 = .running := by
  cases step with
  | enterRunning target channels =>
      have same : target = lifecycle := by simpa [entersRunning] using enters
      simp [moves, move?, same, Lifecycle.enterRunning]
  | _ => cases enters

theorem moves_onward (lifecycle : Nat) (phase : Phase) (step : Step)
    (before : step.entersRunning lifecycle = true → phase.awaitsShutdown = true) :
    Onward phase (step.moves lifecycle phase) (step.shuts lifecycle) := by
  cases step with
  | start target priority refusal? =>
      by_cases same : target = lifecycle
      · simpa [moves, move?, shuts, same] using onward_start phase priority _
      · simpa [moves, move?, shuts, same] using onward_still phase
  | enterRunning target channels =>
      by_cases same : target = lifecycle
      · have awaits : phase.awaitsShutdown = true := before (by simp [entersRunning, same])
        simpa [moves, move?, shuts, same] using onward_enterRunning phase channels awaits
      · simpa [moves, move?, shuts, same] using onward_still phase
  | beginShutdown target =>
      by_cases same : target = lifecycle
      · simpa [moves, move?, shuts, same] using onward_beginShutdown phase
      · simpa [moves, move?, shuts, same] using onward_still phase
  | stop target =>
      by_cases same : target = lifecycle
      · simpa [moves, move?, shuts, same] using onward_stop phase
      · simpa [moves, move?, shuts, same] using onward_still phase
  | _ => exact onward_still phase

end Step

def phasesOf (lifecycle : Nat) (board : Switchboard) (steps : List Step) : List Phase :=
  (board :: (board.run steps).map Outcome.next).filterMap (·.phases[lifecycle]?)

def noticesOf (lifecycle : Nat) (board : Switchboard) (steps : List Step) : Nat :=
  ((steps.zip (board.run steps)).map fun (step, outcome) =>
    if step.lifecycle? = some lifecycle then notices outcome.trace else 0).sum

def Unrevived (lifecycle : Nat) (steps : List Step) : Prop :=
  steps.Pairwise fun earlier later =>
    earlier.shuts lifecycle = true → later.entersRunning lifecycle = false

instance (lifecycle : Nat) (steps : List Step) : Decidable (Unrevived lifecycle steps) :=
  inferInstanceAs (Decidable (steps.Pairwise _))

section Run

variable {lifecycle : Nat} {board : Switchboard} {phase : Phase}

theorem phasesOf_nil (found : board.phases[lifecycle]? = some phase) :
    phasesOf lifecycle board [] = [phase] := by
  simp [phasesOf, Switchboard.run, found]

theorem phasesOf_cons (found : board.phases[lifecycle]? = some phase) (step : Step)
    (rest : List Step) :
    phasesOf lifecycle board (step :: rest) =
      phase :: phasesOf lifecycle (board.step step).next rest := by
  simp only [phasesOf, Switchboard.run, List.map_cons, List.filterMap_cons, found]

theorem head_phasesOf (found : board.phases[lifecycle]? = some phase) (steps : List Step) :
    ∃ later, phasesOf lifecycle board steps = phase :: later := by
  cases steps with
  | nil => exact ⟨[], phasesOf_nil found⟩
  | cons step rest => exact ⟨_, phasesOf_cons found step rest⟩

theorem noticesOf_cons (found : board.phases[lifecycle]? = some phase) (step : Step)
    (rest : List Step) :
    noticesOf lifecycle board (step :: rest) =
      notices (step.moves lifecycle phase).1 +
        noticesOf lifecycle (board.step step).next rest := by
  have own : (if step.lifecycle? = some lifecycle then notices (board.step step).trace else 0) =
      notices (step.moves lifecycle phase).1 := by
    by_cases named : step.lifecycle? = some lifecycle
    · rw [if_pos named, notices, board.announcements_step lifecycle found named, notices]
    · rw [if_neg named, Step.moves_of_unnamed named]
      rfl
  simp [noticesOf, Switchboard.run, own]

theorem onward_of_unrevived (found : board.phases[lifecycle]? = some phase) (steps : List Step)
    (unrevived : Unrevived lifecycle steps)
    (ended : phase.awaitsShutdown = false → ∀ step ∈ steps, step.entersRunning lifecycle = false) :
    (phasesOf lifecycle board steps).Pairwise (·.rank ≤ ·.rank) ∧
      noticesOf lifecycle board steps ≤ phase.due := by
  -- The phase before the steps is general: a phase behind the running one only goes on if no step
  -- that is left enters running, and then nothing is due.
  induction steps generalizing board phase with
  | nil =>
      rw [phasesOf_nil found]
      exact ⟨List.pairwise_singleton _ _, by simp [noticesOf]⟩
  | cons step rest ih =>
      obtain ⟨first, rests⟩ := List.pairwise_cons.mp unrevived
      have before : step.entersRunning lifecycle = true → phase.awaitsShutdown = true := by
        intro enters
        cases awaits : phase.awaitsShutdown with
        | true => rfl
        | false => exact absurd enters (by simp [ended awaits step List.mem_cons_self])
      have onward := step.moves_onward lifecycle phase before
      have next := board.phase_step lifecycle found step
      have closed : (step.moves lifecycle phase).2.awaitsShutdown = false →
          ∀ later ∈ rest, later.entersRunning lifecycle = false := by
        intro shut later member
        rw [onward.shut] at shut
        cases awaits : phase.awaitsShutdown with
        | true => exact first later member (by simpa [awaits] using shut)
        | false => exact ended awaits later (List.mem_cons_of_mem step member)
      obtain ⟨ordered, announced⟩ := ih next rests closed
      obtain ⟨after, path⟩ := head_phasesOf next rest
      constructor
      · rw [phasesOf_cons found]
        refine List.pairwise_cons.mpr ⟨?_, ordered⟩
        intro later member
        rw [path] at ordered member
        have forward := onward.forward
        rcases List.mem_cons.mp member with same | further
        · rw [same]
          exact forward
        · have further := (List.pairwise_cons.mp ordered).1 later further
          omega
      · rw [noticesOf_cons found]
        have due := onward.announced
        omega

theorem unrevived_of_onward (found : board.phases[lifecycle]? = some phase) (steps : List Step)
    (ordered : (phasesOf lifecycle board steps).Pairwise (·.rank ≤ ·.rank)) :
    Unrevived lifecycle steps ∧
      (phase.awaitsShutdown = false →
        ∀ step ∈ steps, step.entersRunning lifecycle = false) := by
  induction steps generalizing board phase with
  | nil => exact ⟨List.Pairwise.nil, by simp⟩
  | cons step rest ih =>
      have next := board.phase_step lifecycle found step
      rw [phasesOf_cons found] at ordered
      obtain ⟨above, rests⟩ := List.pairwise_cons.mp ordered
      obtain ⟨unrevived, ended⟩ := ih next rests
      have before : step.entersRunning lifecycle = true → phase.awaitsShutdown = true := by
        intro enters
        obtain ⟨after, path⟩ := head_phasesOf next rest
        have bound := above _ (by rw [path]; exact List.mem_cons_self)
        rw [step.moves_entering lifecycle phase enters] at bound
        cases phase with
        | starting | running => rfl
        | shuttingDown | stopped => exact absurd bound (by decide)
      have onward := step.moves_onward lifecycle phase before
      constructor
      · refine List.pairwise_cons.mpr ⟨?_, unrevived⟩
        intro later member shuts
        exact ended (by rw [onward.shut, shuts]; simp) later member
      · intro shut later member
        rcases List.mem_cons.mp member with same | further
        · rw [same]
          cases enters : step.entersRunning lifecycle with
          | false => rfl
          | true => exact absurd (before enters) (by simp [shut])
        · exact ended (by rw [onward.shut, shut]; simp) later further

/-- A fresh lifecycle never moves backwards and prints its shutdown notice at most once, whatever is
done on its switchboard, exactly if no step lets it enter running after one that shut it down. -/
theorem keeps_course_iff (fresh : board.phases[lifecycle]? = some .starting)
    (steps : List Step) :
    ((phasesOf lifecycle board steps).Pairwise (·.rank ≤ ·.rank) ∧
        noticesOf lifecycle board steps ≤ 1) ↔ Unrevived lifecycle steps := by
  constructor
  · rintro ⟨ordered, _⟩
    exact (unrevived_of_onward fresh steps ordered).1
  · intro unrevived
    exact onward_of_unrevived fresh steps unrevived (by simp [Phase.awaitsShutdown])

end Run

theorem keeps_course_when_stopped_twice :
    let board : Switchboard := {}
    let steps : List Step :=
      [.start 0 (some 10), .enterRunning 0 2, .wait 0 (some 5), .stop 0, .beginShutdown 0, .stop 0]
    board.phases[0]? = some .starting ∧
      (phasesOf 0 board steps).Pairwise (·.rank ≤ ·.rank) ∧ noticesOf 0 board steps ≤ 1 := by
  intro board steps
  have fresh : board.phases[0]? = some .starting := rfl
  exact ⟨fresh, (keeps_course_iff fresh steps).mpr (by decide)⟩

/-- A stopped lifecycle that enters running is live again, and announces its shutdown once more. -/
theorem leaves_course_when_revived :
    let board : Switchboard := {}
    let steps : List Step := [.stop 0, .enterRunning 0 1, .stop 0]
    phasesOf 0 board steps = [.starting, .stopped, .running, .stopped] ∧
      noticesOf 0 board steps = 2 ∧
      ¬((phasesOf 0 board steps).Pairwise (·.rank ≤ ·.rank) ∧ noticesOf 0 board steps ≤ 1) := by
  decide

end Lifecycle

end Transceiver
