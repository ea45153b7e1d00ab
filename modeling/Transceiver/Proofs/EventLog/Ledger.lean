import Mathlib.Data.List.Induction
import Mathlib.Logic.Relation
import Transceiver.EventLog

/-!
What a history says of event logs. Handles share a log if clones connect them, and what is recorded
through one of them is recorded for all of them, whenever they were made. All of this is read off
the steps alone.
-/

namespace Transceiver.EventLogs

structure Ledger where
  made : Nat := 1
  clones : List (Nat × Nat) := []
  entries : List (Nat × Event) := []

def Ledger.after (ledger : Ledger) : Step → Ledger
  | .create => { ledger with made := ledger.made + 1 }
  | .clone handle =>
      if handle < ledger.made then
        { ledger with
          made := ledger.made + 1
          clones := (ledger.made, handle) :: ledger.clones }
      else ledger
  | .record handle event =>
      if handle < ledger.made then { ledger with entries := ledger.entries ++ [(handle, event)] }
      else ledger
  | .contains _ _ | .isEmpty _ | .events _ | .releases _ => ledger

def ledgerOf (steps : List Step) : Ledger :=
  steps.foldl Ledger.after {}

theorem ledgerOf_append_singleton (steps : List Step) (step : Step) :
    ledgerOf (steps ++ [step]) = (ledgerOf steps).after step := by
  simp [ledgerOf]

def Connected (clones : List (Nat × Nat)) : Nat → Nat → Prop :=
  Relation.EqvGen fun clone source => (clone, source) ∈ clones

/-- The first handle of a log: clones are followed back, from the newest one on. -/
def founder : List (Nat × Nat) → Nat → Nat
  | [], handle => handle
  | (clone, source) :: older, handle => founder older (if handle = clone then source else handle)

section Founder

variable {clones : List (Nat × Nat)} {left right : Nat}

theorem Connected.older {clone source : Nat} (connected : Connected clones left right) :
    Connected ((clone, source) :: clones) left right :=
  Relation.EqvGen.mono (fun _ _ member => List.mem_cons_of_mem _ member) _ _ connected

theorem connected_founder (clones : List (Nat × Nat)) (handle : Nat) :
    Connected clones handle (founder clones handle) := by
  induction clones generalizing handle with
  | nil => exact .refl handle
  | cons newest older ih =>
      obtain ⟨clone, source⟩ := newest
      rw [founder]
      split
      next same =>
        subst same
        exact .trans _ _ _ (.rel _ _ List.mem_cons_self) (ih source).older
      next => exact (ih handle).older

structure Ordered (clones : List (Nat × Nat)) : Prop where
  backward : ∀ pair ∈ clones, pair.2 < pair.1
  newest : clones.Pairwise fun newer older => older.1 < newer.1

theorem Ordered.older {newest : Nat × Nat} (ordered : Ordered (newest :: clones)) :
    Ordered clones where
  backward pair member := ordered.backward pair (List.mem_cons_of_mem newest member)
  newest := (List.pairwise_cons.mp ordered.newest).2

theorem Ordered.founder_source {source : Nat} (ordered : Ordered clones)
    (cloned : (left, source) ∈ clones) : founder clones left = founder clones source := by
  induction clones with
  | nil => cases cloned
  | cons newest older ih =>
      obtain ⟨clone, origin⟩ := newest
      have below := ordered.backward _ cloned
      rcases List.mem_cons.mp cloned with first | later
      · cases first
        simp [founder, Nat.ne_of_lt below]
      · -- Both handles are older than the newest clone, which leads back neither of them.
        have earlier : left < clone := (List.pairwise_cons.mp ordered.newest).1 _ later
        simp only [founder, if_neg (Nat.ne_of_lt earlier),
          if_neg (Nat.ne_of_lt (Nat.lt_trans below earlier))]
        exact ih ordered.older later

theorem Ordered.founder_le (ordered : Ordered clones) (handle : Nat) :
    founder clones handle ≤ handle := by
  induction clones generalizing handle with
  | nil => exact Nat.le_refl handle
  | cons newest older ih =>
      have tail := ordered.older
      have below := ordered.backward newest List.mem_cons_self
      rw [founder]
      split
      next same => exact Nat.le_trans (ih tail newest.2) (by omega)
      next => exact ih tail handle

theorem founder_of_uncloned {handle : Nat} (uncloned : ∀ pair ∈ clones, pair.1 ≠ handle) :
    founder clones handle = handle := by
  induction clones with
  | nil => rfl
  | cons newest older ih =>
      obtain ⟨first, others⟩ := List.forall_mem_cons.mp uncloned
      rw [founder, if_neg (Ne.symm first)]
      exact ih others

/-- Handles are connected if following their clones back leads to one handle. -/
theorem Ordered.connected_iff (ordered : Ordered clones) :
    Connected clones left right ↔ founder clones left = founder clones right := by
  constructor
  · intro connected
    induction connected with
    | rel clone source cloned => exact ordered.founder_source cloned
    | refl handle => rfl
    | symm _ _ _ ih => exact ih.symm
    | trans _ _ _ _ _ first second => exact first.trans second
  · intro same
    have way := connected_founder clones left
    rw [same] at way
    exact .trans _ _ _ way (.symm _ _ (connected_founder clones right))

end Founder

namespace Ledger

structure Sound (ledger : Ledger) : Prop where
  ordered : Ordered ledger.clones
  cloned : ∀ pair ∈ ledger.clones, pair.1 < ledger.made
  entered : ∀ entry ∈ ledger.entries, entry.1 < ledger.made

theorem Sound.after {ledger : Ledger} (sound : ledger.Sound) (step : Step) :
    (ledger.after step).Sound := by
  cases step with
  | create =>
      exact ⟨sound.ordered, fun pair member => Nat.lt_succ_of_lt (sound.cloned pair member),
        fun entry member => Nat.lt_succ_of_lt (sound.entered entry member)⟩
  | clone handle =>
      rw [Ledger.after]
      split
      next known =>
        refine ⟨⟨?_, ?_⟩, ?_, ?_⟩
        · exact List.forall_mem_cons.mpr ⟨known, sound.ordered.backward⟩
        · exact List.pairwise_cons.mpr ⟨sound.cloned, sound.ordered.newest⟩
        · exact List.forall_mem_cons.mpr ⟨Nat.lt_succ_self _,
            fun pair member => Nat.lt_succ_of_lt (sound.cloned pair member)⟩
        · exact fun entry member => Nat.lt_succ_of_lt (sound.entered entry member)
      next => exact sound
  | record handle event =>
      rw [Ledger.after]
      split
      next known =>
        refine ⟨sound.ordered, sound.cloned, ?_⟩
        intro entry member
        rcases List.mem_append.mp member with earlier | new
        · exact sound.entered entry earlier
        · rw [List.mem_singleton.mp new]
          exact known
      next => exact sound
  | contains | isEmpty | events | releases => exact sound

def through (ledger : Ledger) (handle : Nat) : List Event :=
  (ledger.entries.filter fun entry =>
    founder ledger.clones entry.1 = founder ledger.clones handle).map Prod.snd

variable {ledger : Ledger}

theorem Sound.founder_made (sound : ledger.Sound) :
    founder ledger.clones ledger.made = ledger.made :=
  founder_of_uncloned fun pair member => Nat.ne_of_lt (sound.cloned pair member)

theorem Sound.founder_lt (sound : ledger.Sound) {handle : Nat} (known : handle < ledger.made) :
    founder ledger.clones handle < ledger.made :=
  Nat.lt_of_le_of_lt (sound.ordered.founder_le handle) known

theorem Sound.through_made (sound : ledger.Sound) : ledger.through ledger.made = [] := by
  have none : ∀ entry ∈ ledger.entries,
      ¬founder ledger.clones entry.1 = founder ledger.clones ledger.made := by
    intro entry member
    rw [sound.founder_made]
    exact Nat.ne_of_lt (sound.founder_lt (sound.entered entry member))
  simpa [through] using none

/-- A clone shows what its source shows, and the other handles show what they showed. -/
theorem Sound.through_clone (sound : ledger.Sound) {source : Nat} (known : source < ledger.made)
    (handle : Nat) :
    (ledger.after (.clone source)).through handle =
      ledger.through (if handle = ledger.made then source else handle) := by
  -- Nothing was recorded through the clone before it was made.
  have same : ∀ entry ∈ ledger.entries,
      (if entry.1 = ledger.made then source else entry.1) = entry.1 := by
    intro entry member
    rw [if_neg (Nat.ne_of_lt (sound.entered entry member))]
  simp only [through, Ledger.after, if_pos known, founder]
  congr 1
  refine List.filter_congr fun entry member => ?_
  rw [same entry member]

theorem through_record {source : Nat} (known : source < ledger.made) (event : Event)
    (handle : Nat) :
    (ledger.after (.record source event)).through handle =
      ledger.through handle ++
        if founder ledger.clones source = founder ledger.clones handle then [event] else [] := by
  simp only [through, after, if_pos known, List.filter_append, List.map_append]
  congr 1
  by_cases same : founder ledger.clones source = founder ledger.clones handle
  · simp [same]
  · simp [same]

theorem Sound.through_after (sound : ledger.Sound) {handle : Nat} (known : handle < ledger.made)
    (step : Step) :
    handle < (ledger.after step).made ∧
      ledger.through handle <+: (ledger.after step).through handle := by
  cases step with
  | create => exact ⟨Nat.lt_succ_of_lt known, List.prefix_rfl⟩
  | clone source =>
      by_cases there : source < ledger.made
      · rw [sound.through_clone there, if_neg (Nat.ne_of_lt known), Ledger.after, if_pos there]
        exact ⟨Nat.lt_succ_of_lt known, List.prefix_rfl⟩
      · rw [Ledger.after, if_neg there]
        exact ⟨known, List.prefix_rfl⟩
  | record source event =>
      by_cases there : source < ledger.made
      · rw [through_record there, Ledger.after, if_pos there]
        exact ⟨known, List.prefix_append _ _⟩
      · rw [Ledger.after, if_neg there]
        exact ⟨known, List.prefix_rfl⟩
  | contains | isEmpty | events | releases => exact ⟨known, List.prefix_rfl⟩

end Ledger

theorem sound_ledgerOf (steps : List Step) : (ledgerOf steps).Sound := by
  induction steps using List.reverseRecOn with
  | nil => exact ⟨⟨by simp [ledgerOf], by simp [ledgerOf]⟩, by simp [ledgerOf], by simp [ledgerOf]⟩
  | append_singleton steps step ih =>
      rw [ledgerOf_append_singleton]
      exact ih.after step

def Shares (steps : List Step) : Nat → Nat → Prop :=
  Connected (ledgerOf steps).clones

instance (steps : List Step) (left right : Nat) : Decidable (Shares steps left right) :=
  decidable_of_iff _ (sound_ledgerOf steps).ordered.connected_iff.symm

def recorded (steps : List Step) (handle : Nat) : List Event :=
  ((ledgerOf steps).entries.filter fun entry => Shares steps handle entry.1).map Prod.snd

theorem shares_iff {steps : List Step} {left right : Nat} :
    Shares steps left right ↔
      founder (ledgerOf steps).clones left = founder (ledgerOf steps).clones right :=
  (sound_ledgerOf steps).ordered.connected_iff

theorem recorded_eq (steps : List Step) (handle : Nat) :
    recorded steps handle = (ledgerOf steps).through handle := by
  rw [recorded, Ledger.through]
  congr 1
  refine List.filter_congr fun entry _ => ?_
  rw [decide_eq_decide, shares_iff, eq_comm]

/-- Nothing that is recorded is lost or moved: what comes later stands behind it. -/
theorem recorded_append (steps later : List Step) {handle : Nat}
    (known : handle < (ledgerOf steps).made) :
    handle < (ledgerOf (steps ++ later)).made ∧
      recorded steps handle <+: recorded (steps ++ later) handle := by
  induction later using List.reverseRecOn with
  | nil =>
      rw [List.append_nil]
      exact ⟨known, List.prefix_rfl⟩
  | append_singleton later step ih =>
      obtain ⟨there, begins⟩ := ih
      simp only [recorded_eq] at begins ⊢
      rw [← List.append_assoc, ledgerOf_append_singleton]
      have sound := sound_ledgerOf (steps ++ later)
      obtain ⟨still, more⟩ := sound.through_after there step
      exact ⟨still, begins.trans more⟩

end Transceiver.EventLogs
