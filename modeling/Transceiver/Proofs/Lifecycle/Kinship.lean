import Transceiver.Lifecycle.Switchboard

/-!
The families of shutdown flags. Clones of a flag belong to its family, and so do the lifecycles that
hold one of them. Which families a history requested, registered and signalled is read off the steps
alone.
-/

namespace Transceiver.Lifecycle

/-- The families of the flags and of those the lifecycles hold. A flag made new begins a family. -/
structure Kinship where
  families : Nat := 1
  flags : List Nat := [0]
  held : List Nat := [0]

def Kinship.after (kinship : Kinship) : Step → Kinship
  | .newFlag =>
      { kinship with
        families := kinship.families + 1
        flags := kinship.flags ++ [kinship.families] }
  | .cloneFlag flag =>
      { kinship with flags := kinship.flags ++ (kinship.flags[flag]?).toList }
  | .newLifecycle flag _ =>
      { kinship with held := kinship.held ++ (kinship.flags[flag]?).toList }
  | _ => kinship

def kinshipOf (steps : List Step) : Kinship :=
  steps.foldl Kinship.after {}

namespace Step

def family? (kinship : Kinship) : Step → Option Nat
  | .cloneFlag flag | .newLifecycle flag _ | .request flag | .register flag =>
      kinship.flags[flag]?
  | .start lifecycle _ _ | .enterRunning lifecycle _ | .beginShutdown lifecycle | .stop lifecycle
  | .wait lifecycle _ => kinship.held[lifecycle]?
  | .newFlag | .raise _ => none

def requests : Step → Bool
  | .request _ | .wait _ (some _) => true
  | _ => false

def registers : Step → Bool
  | .register _ => true
  | .start _ priority refusal? => (startError? priority (Scheduler.answering refusal?)).isNone
  | _ => false

def raises : Step → Bool
  | .raise _ => true
  | _ => false

theorem registers_only {step : Step} (registers : step.registers = true) :
    step.requests = false ∧ step.raises = false ∧
      ∀ kinship : Kinship, kinship.after step = kinship := by
  cases step with
  | register | start => exact ⟨rfl, rfl, fun _ => rfl⟩
  | _ => cases registers

end Step

def Once (happens : List Step → Step → Prop) (steps : List Step) : Prop :=
  ∃ before step later, steps = before ++ step :: later ∧ happens before step

def Requested (family : Nat) : List Step → Prop :=
  Once fun before step =>
    step.requests = true ∧ step.family? (kinshipOf before) = some family

def Registered (family : Nat) : List Step → Prop :=
  Once fun before step =>
    step.registers = true ∧ step.family? (kinshipOf before) = some family

def Signalled (family : Nat) : List Step → Prop :=
  Once fun before step => step.raises = true ∧ Registered family before

section Once

variable {happens : List Step → Step → Prop}

theorem not_once_nil : ¬Once happens [] := by
  rintro ⟨before, step, later, split, _⟩
  simp at split

theorem once_append_singleton {steps : List Step} {step : Step} :
    Once happens (steps ++ [step]) ↔ Once happens steps ∨ happens steps step := by
  constructor
  · rintro ⟨before, found, later, split, happened⟩
    rcases List.eq_nil_or_concat later with rfl | ⟨rest, last, rfl⟩
    · obtain ⟨rfl, same⟩ := List.append_inj' split rfl
      cases same
      exact .inr happened
    · have shorter : steps ++ [step] = (before ++ found :: rest) ++ [last] := by simp [split]
      obtain ⟨rfl, _⟩ := List.append_inj' shorter rfl
      exact .inl ⟨before, found, rest, rfl, happened⟩
  · rintro (⟨before, found, later, rfl, happened⟩ | happened)
    · exact ⟨before, found, later ++ [step], by simp, happened⟩
    · exact ⟨steps, step, [], rfl, happened⟩

theorem Once.append {steps : List Step} (once : Once happens steps) (more : List Step) :
    Once happens (steps ++ more) := by
  obtain ⟨before, step, later, rfl, happened⟩ := once
  exact ⟨before, step, later ++ more, by simp, happened⟩

end Once

section History

variable {family : Nat} {steps : List Step} {step : Step}

theorem requested_append_singleton :
    Requested family (steps ++ [step]) ↔ Requested family steps ∨
      step.requests = true ∧ step.family? (kinshipOf steps) = some family :=
  once_append_singleton

theorem registered_append_singleton :
    Registered family (steps ++ [step]) ↔ Registered family steps ∨
      step.registers = true ∧ step.family? (kinshipOf steps) = some family :=
  once_append_singleton

theorem signalled_append_singleton :
    Signalled family (steps ++ [step]) ↔
      Signalled family steps ∨ step.raises = true ∧ Registered family steps :=
  once_append_singleton

end History

structure Kinship.Sound (kinship : Kinship) : Prop where
  flags : ∀ family ∈ kinship.flags, family < kinship.families
  held : ∀ family ∈ kinship.held, family < kinship.families

theorem Kinship.families_le_after (kinship : Kinship) (step : Step) :
    kinship.families ≤ (kinship.after step).families := by
  cases step with
  | newFlag => exact Nat.le_succ kinship.families
  | _ => exact Nat.le_refl kinship.families

theorem Kinship.Sound.named {kinship : Kinship} (sound : kinship.Sound) {step : Step}
    {family : Nat} (named : step.family? kinship = some family) : family < kinship.families := by
  cases step with
  | newFlag | raise => cases named
  | cloneFlag | newLifecycle | request | register =>
      exact sound.flags family (List.mem_of_getElem? named)
  | start | enterRunning | beginShutdown | stop | wait =>
      exact sound.held family (List.mem_of_getElem? named)

theorem Kinship.Sound.after {kinship : Kinship} (sound : kinship.Sound) (step : Step) :
    (kinship.after step).Sound := by
  cases step with
  | newFlag =>
      constructor
      · intro family member
        rcases List.mem_append.mp member with earlier | new
        · exact Nat.lt_succ_of_lt (sound.flags family earlier)
        · exact Nat.lt_succ_of_le (Nat.le_of_eq (List.mem_singleton.mp new))
      · intro family member
        exact Nat.lt_succ_of_lt (sound.held family member)
  | cloneFlag flag =>
      refine ⟨?_, sound.held⟩
      intro family member
      rcases List.mem_append.mp member with earlier | new
      · exact sound.flags family earlier
      · exact sound.flags family (List.mem_of_getElem? (Option.mem_toList.mp new))
  | newLifecycle flag interval =>
      refine ⟨sound.flags, ?_⟩
      intro family member
      rcases List.mem_append.mp member with earlier | new
      · exact sound.held family earlier
      · exact sound.flags family (List.mem_of_getElem? (Option.mem_toList.mp new))
  | _ => exact sound

theorem Kinship.flags_after {kinship : Kinship} {flag family : Nat}
    (found : kinship.flags[flag]? = some family) (step : Step) :
    (kinship.after step).flags[flag]? = some family := by
  obtain ⟨inside, _⟩ := List.getElem?_eq_some_iff.mp found
  cases step with
  | newFlag | cloneFlag => exact (List.getElem?_append_left inside).trans found
  | _ => exact found

theorem kinshipOf_append_singleton (steps : List Step) (step : Step) :
    kinshipOf (steps ++ [step]) = (kinshipOf steps).after step := by
  simp [kinshipOf]

end Transceiver.Lifecycle
