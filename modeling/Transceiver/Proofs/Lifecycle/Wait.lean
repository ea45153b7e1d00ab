import Mathlib.Algebra.Order.Floor.Div
import Mathlib.Order.Bounds.Defs
import Transceiver.Proofs.Lifecycle.Latch

/-!
How long a wait for a shutdown takes. The loop looks at the flag after every sleep, so it ends at
the first multiple of the sleep that is not before the request. A sleep is as long as the interval,
but no longer than the longest sleep.
-/

namespace Transceiver.Lifecycle

structure FirstLook (interval requested time : Nat) : Prop where
  least : IsLeast {look | 0 < look ∧ interval ∣ look ∧ requested ≤ look} time
  rounded : time = interval * max 1 (requested ⌈/⌉ interval)
  atOnce : requested = 0 → time = interval
  prompt : 0 < requested → requested ≤ time ∧ time < requested + interval

def Lasts (interval : Nat) : Option Nat → Nat → Prop
  | none, time => time = 0
  | some requested, time => FirstLook interval requested time

theorem ceilDiv_le_iff {interval : Nat} (positive : 0 < interval) {requested count : Nat} :
    requested ⌈/⌉ interval ≤ count ↔ requested ≤ interval * count := by
  rw [ceilDiv_le_iff_le_mul positive, Nat.mul_comm]

theorem firstLook_rounded {interval : Nat} (positive : 0 < interval) (requested : Nat) :
    FirstLook interval requested (interval * max 1 (requested ⌈/⌉ interval)) := by
  have covered : requested ≤ interval * max 1 (requested ⌈/⌉ interval) :=
    (ceilDiv_le_iff positive).mp (Nat.le_max_right 1 _)
  constructor
  · constructor
    · exact ⟨Nat.mul_pos positive (by omega), Nat.dvd_mul_right _ _, covered⟩
    · rintro look ⟨later, ⟨count, rfl⟩, found⟩
      have counted : 1 ≤ count := Nat.pos_of_mul_pos_left later
      have enough : requested ⌈/⌉ interval ≤ count := (ceilDiv_le_iff positive).mpr found
      exact Nat.mul_le_mul_left interval (Nat.max_le.mpr ⟨counted, enough⟩)
  · rfl
  · rintro rfl
    simp
  · intro later
    refine ⟨covered, ?_⟩
    obtain ⟨before, rounded⟩ : ∃ before, requested ⌈/⌉ interval = before + 1 := by
      refine Nat.exists_eq_add_one.mpr (Nat.pos_of_ne_zero fun zero => ?_)
      have bound := (ceilDiv_le_iff positive).mp (Nat.le_of_eq zero)
      omega
    -- One look earlier the request would have been still to come.
    have missed : ¬requested ≤ interval * before := fun found => by
      have bound := (ceilDiv_le_iff positive).mpr found
      omega
    rw [rounded, Nat.max_eq_right (by omega), Nat.mul_succ]
    omega

theorem pollInterval_eq {interval : Nat} (positive : 1 ≤ interval) :
    pollInterval interval = min interval longestSleep := by
  rw [pollInterval, Nat.max_eq_left positive]

theorem pollInterval_pos (interval : Nat) : 0 < pollInterval interval := by
  simp only [pollInterval, longestSleep]
  omega

/-- The loop, from any of its looks on. -/
theorem waitFrom_eq (interval requested : Nat) {now count : Nat}
    (reached : now = pollInterval interval * count) :
    waitFrom interval requested now =
      pollInterval interval * max count (requested ⌈/⌉ pollInterval interval) := by
  have positive := pollInterval_pos interval
  fun_induction waitFrom interval requested now generalizing count with
  | case1 now found =>
      rw [reached, ← ceilDiv_le_iff positive] at found
      rw [Nat.max_eq_left found, reached]
  | case2 now early ih =>
      rw [reached, ← ceilDiv_le_iff positive] at early
      have next : now + pollInterval interval = pollInterval interval * (count + 1) := by
        rw [reached, Nat.mul_succ]
      rw [ih next]
      congr 1
      omega

theorem firstLook_waitTime {interval : Nat} (positive : 1 ≤ interval) (requested : Nat) :
    FirstLook (min interval longestSleep) requested (waitTime interval requested) := by
  rw [waitTime, waitFrom_eq interval requested (Nat.mul_one _).symm, ← pollInterval_eq positive]
  exact firstLook_rounded (pollInterval_pos interval) requested

structure Awaited (board : Switchboard) (lifecycle : Nat) (watcher : Watcher)
    (requested : Option Nat) (outcome : Outcome) : Prop where
  elapsed : ∃ time, outcome.answer = .elapsed time ∧
    Lasts (min watcher.interval longestSleep)
      (if board.isSet watcher.cell = true then none else requested) time
  logged : outcome.trace = [.logged .shutdownReceived]
  phases : outcome.next.phases = board.phases
  flag : outcome.next.watchedStates[lifecycle]? = some true
  unrelated : ∀ flag cell : Nat, board.flags[flag]? = some cell → cell ≠ watcher.cell →
    outcome.next.flagStates[flag]? = board.flagStates[flag]?

theorem awaited_wait {board : Switchboard} (sound : board.Sound) {lifecycle : Nat}
    {watcher : Watcher} (watched : board.watchers[lifecycle]? = some watcher)
    (positive : 1 ≤ watcher.interval) {requested : Option Nat}
    (comes : board.isSet watcher.cell = true ∨ requested.isSome = true) :
    Awaited board lifecycle watcher requested (board.step (.wait lifecycle requested)) := by
  have held : board.kinship.held[lifecycle]? = some watcher.cell := by
    simp [Switchboard.kinship, watched]
  have there : watcher.cell < board.cells.length :=
    sound.kinship.held watcher.cell (List.mem_of_getElem? held)
  simp only [Switchboard.step, watched, Switchboard.wait]
  split
  next set =>
    refine ⟨⟨0, rfl, by simp [Lasts, set]⟩, rfl, rfl, ?_, fun _ _ _ _ => rfl⟩
    rw [Switchboard.watchedStates_of_held held, set]
  next unset =>
    obtain ⟨time, rfl⟩ := Option.isSome_iff_exists.mp (comes.resolve_left unset)
    refine ⟨⟨_, rfl, ?_⟩, rfl, rfl, ?_, ?_⟩
    · simpa [Lasts, unset] using firstLook_waitTime positive time
    · have after : (board.setCell watcher.cell).kinship.held[lifecycle]? = some watcher.cell :=
        held
      rw [Switchboard.watchedStates_of_held after, board.isSet_setCell there]
      simp
    · intro flag cell named other
      have before : board.kinship.flags[flag]? = some cell := named
      have after : (board.setCell watcher.cell).kinship.flags[flag]? = some cell := named
      rw [Switchboard.flagStates_of_flag after, board.isSet_setCell there,
        Switchboard.flagStates_of_flag before]
      simp [other.symm]

end Transceiver.Lifecycle
