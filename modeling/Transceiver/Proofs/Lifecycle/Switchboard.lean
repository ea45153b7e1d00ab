import Transceiver.Lifecycle.Switchboard
import Transceiver.Proofs.Trace

/-!
One lifecycle among the others of a switchboard. Only four of the steps can move a lifecycle on, and
only the one they name; all they need to know of it is its phase.
-/

namespace Transceiver.Lifecycle

namespace Step

def move? : Step → Option (Nat × (Phase → Trace × Phase))
  | .start lifecycle priority refusal? =>
      some (lifecycle, (Lifecycle.start · priority (Scheduler.answering refusal?)))
  | .enterRunning lifecycle channels => some (lifecycle, (Lifecycle.enterRunning · channels))
  | .beginShutdown lifecycle => some (lifecycle, Lifecycle.beginShutdown)
  | .stop lifecycle => some (lifecycle, Lifecycle.stop)
  | _ => none

def lifecycle? : Step → Option Nat
  | .start lifecycle _ _ | .enterRunning lifecycle _ | .beginShutdown lifecycle | .stop lifecycle
  | .wait lifecycle _ => some lifecycle
  | _ => none

theorem lifecycle?_of_move {step : Step} {target : Nat} {move : Phase → Trace × Phase}
    (moving : step.move? = some (target, move)) : step.lifecycle? = some target := by
  cases step with
  | start | enterRunning | beginShutdown | stop =>
      cases moving
      rfl
  | _ => cases moving

def moves (lifecycle : Nat) (phase : Phase) (step : Step) : Trace × Phase :=
  match step.move? with
  | some (target, move) => if target = lifecycle then move phase else ([], phase)
  | none => ([], phase)

theorem moves_of_unnamed {lifecycle : Nat} {step : Step}
    (unnamed : step.lifecycle? ≠ some lifecycle) (phase : Phase) :
    step.moves lifecycle phase = ([], phase) := by
  unfold moves
  split
  · next target move moving =>
      rw [lifecycle?_of_move moving, ne_eq, Option.some.injEq] at unnamed
      rw [if_neg unnamed]
  · rfl

end Step

namespace Switchboard

theorem phase_found {board : Switchboard} {lifecycle : Nat} {phase : Phase} :
    board.phases[lifecycle]? = some phase ↔
      ∃ watcher, board.watchers[lifecycle]? = some watcher ∧ watcher.phase = phase := by
  simp [phases]

theorem phase_absent {board : Switchboard} {lifecycle : Nat} :
    board.phases[lifecycle]? = none ↔ board.watchers[lifecycle]? = none := by
  simp [phases]

theorem phases_advance (board : Switchboard) (lifecycle : Nat) (watcher : Watcher)
    (answer : Answer) (notes : Trace × Phase) :
    (board.advance lifecycle watcher answer notes).next.phases =
      board.phases.set lifecycle notes.2 := by
  simp [advance, phases, List.map_set]

theorem step_of_move (board : Switchboard) {step : Step} {target : Nat} {phase : Phase}
    {move : Phase → Trace × Phase} (moving : step.move? = some (target, move))
    (found : board.phases[target]? = some phase) :
    (board.step step).trace = (move phase).1 ∧
      (board.step step).next.phases = board.phases.set target (move phase).2 := by
  obtain ⟨watcher, watched, rfl⟩ := phase_found.mp found
  cases step with
  | start =>
      cases moving
      simp only [Switchboard.step, watched]
      split
      · exact ⟨rfl, phases_advance _ _ _ _ _⟩
      · exact ⟨rfl, phases_advance _ _ _ _ _⟩
  | enterRunning | beginShutdown | stop =>
      cases moving
      simp only [Switchboard.step, watched]
      exact ⟨rfl, phases_advance _ _ _ _ _⟩
  | _ => cases moving

theorem step_of_absent (board : Switchboard) {step : Step} {target : Nat}
    {move : Phase → Trace × Phase} (moving : step.move? = some (target, move))
    (absent : board.phases[target]? = none) :
    (board.step step).trace = [] ∧ (board.step step).next = board := by
  have missing := phase_absent.mp absent
  cases step with
  | start | enterRunning | beginShutdown | stop =>
      cases moving
      simp [Switchboard.step, missing]
  | _ => cases moving

/-- A step that moves no lifecycle may end a wait or make a lifecycle, which starts. -/
theorem step_of_still (board : Switchboard) {step : Step} (still : step.move? = none) :
    ((board.step step).trace = [] ∨ (board.step step).trace = [.logged .shutdownReceived]) ∧
      ∃ made, (board.step step).next.phases = board.phases ++ made ∧
        ∀ phase ∈ made, phase = .starting := by
  have same : ∃ made, board.phases = board.phases ++ made ∧ ∀ phase ∈ made, phase = .starting :=
    ⟨[], by simp⟩
  cases step with
  | start | enterRunning | beginShutdown | stop => cases still
  | newFlag => exact ⟨.inl rfl, same⟩
  | raise signal => exact ⟨.inl rfl, same⟩
  | cloneFlag flag | request flag | register flag =>
      simp only [Switchboard.step]
      split
      · exact ⟨.inl rfl, same⟩
      · exact ⟨.inl rfl, same⟩
  | newLifecycle flag interval =>
      simp only [Switchboard.step]
      split
      · exact ⟨.inl rfl, same⟩
      · exact ⟨.inl rfl, [.starting], by simp [phases]⟩
  | wait lifecycle requested =>
      simp only [Switchboard.step]
      split
      · exact ⟨.inl rfl, same⟩
      · simp only [Switchboard.wait]
        split
        · exact ⟨.inr rfl, same⟩
        · split
          · exact ⟨.inl rfl, same⟩
          · exact ⟨.inr rfl, same⟩

/-- A step leaves a lifecycle where its own move takes it, and where it was if the step moves
another or none. -/
theorem phase_step (board : Switchboard) (lifecycle : Nat) {phase : Phase}
    (found : board.phases[lifecycle]? = some phase) (step : Step) :
    (board.step step).next.phases[lifecycle]? = some (step.moves lifecycle phase).2 := by
  cases moving : step.move? with
  | none =>
      obtain ⟨_, made, kept, _⟩ := board.step_of_still moving
      simp only [Step.moves, moving]
      obtain ⟨bound, _⟩ := List.getElem?_eq_some_iff.mp found
      rw [kept, List.getElem?_append_left bound, found]
  | some named =>
      obtain ⟨target, move⟩ := named
      simp only [Step.moves, moving]
      by_cases same : target = lifecycle
      · subst same
        rw [(board.step_of_move moving found).2, if_pos rfl]
        exact List.getElem?_set_self (List.getElem?_eq_some_iff.mp found).1
      · rw [if_neg same]
        cases present : board.phases[target]? with
        | none => rw [(board.step_of_absent moving present).2, found]
        | some other =>
            rw [(board.step_of_move moving present).2, List.getElem?_set_ne same, found]

theorem announcements_step (board : Switchboard) (lifecycle : Nat) {phase : Phase}
    (found : board.phases[lifecycle]? = some phase) {step : Step}
    (named : step.lifecycle? = some lifecycle) :
    (board.step step).trace.announcements =
      (step.moves lifecycle phase).1.announcements := by
  cases moving : step.move? with
  | none =>
      simp only [Step.moves, moving]
      rcases (board.step_of_still moving).1 with nothing | received
      · rw [nothing]
      · rw [received]
        rfl
  | some move =>
      obtain ⟨target, move⟩ := move
      have same := Step.lifecycle?_of_move moving
      rw [named, Option.some.injEq] at same
      subst same
      rw [(board.step_of_move moving found).1]
      simp [Step.moves, moving]

end Switchboard

end Transceiver.Lifecycle
