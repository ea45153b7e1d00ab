import Mathlib.Data.List.Induction
import Transceiver.Proofs.Lifecycle.Kinship

/-!
Shutdown flags as latches. A flag is set exactly if, earlier in the history, its family was
requested, or a signal was raised after its family had been registered.
-/

namespace Transceiver.Lifecycle

namespace Switchboard

def after (board : Switchboard) (steps : List Step) : Switchboard :=
  ((board.run steps).map Outcome.next).getLastD board

@[simp] theorem after_nil (board : Switchboard) : board.after [] = board := rfl

@[simp] theorem after_cons (board : Switchboard) (step : Step) (rest : List Step) :
    board.after (step :: rest) = (board.step step).next.after rest := by
  simp only [after, run, List.map_cons, List.getLastD_cons]

theorem after_append (board : Switchboard) (first second : List Step) :
    board.after (first ++ second) = (board.after first).after second := by
  induction first generalizing board with
  | nil => rfl
  | cons step rest ih => simp [ih]

def kinship (board : Switchboard) : Kinship where
  families := board.cells.length
  flags := board.flags
  held := board.watchers.map Watcher.cell

structure Sound (board : Switchboard) : Prop where
  kinship : board.kinship.Sound
  registered : ∀ cell ∈ board.registered, cell < board.kinship.families

theorem isSet_setCell (board : Switchboard) {target : Nat} (there : target < board.cells.length)
    (cell : Nat) : (board.setCell target).isSet cell = (board.isSet cell || target = cell) := by
  simp only [isSet, setCell, List.getD_eq_getElem?_getD, List.getElem?_set]
  by_cases same : target = cell
  · subst same
    simp [there]
  · simp [same]

theorem isSet_setRegistered (board : Switchboard) {cell : Nat}
    (there : cell ∈ board.registered → cell < board.cells.length) :
    board.setRegistered.isSet cell = (board.isSet cell || board.registered.contains cell) := by
  simp only [isSet, setRegistered, List.getD_eq_getElem?_getD, List.getElem?_mapIdx]
  by_cases inside : cell < board.cells.length
  · simp [inside]
  · have absent : cell ∉ board.registered := fun member => inside (there member)
    simp [inside, absent]

theorem isSet_newCell (board : Switchboard) (cell : Nat) :
    { board with cells := board.cells ++ [false] }.isSet cell = board.isSet cell := by
  simp only [isSet, List.getD_eq_getElem?_getD, List.getElem?_append]
  by_cases inside : cell < board.cells.length
  · simp [inside]
  · simp [inside, List.getElem?_singleton]
    split
    · rfl
    · rfl

theorem kinship_advance (board : Switchboard) {lifecycle : Nat} {watcher : Watcher}
    (watched : board.watchers[lifecycle]? = some watcher) (answer : Answer)
    (notes : Trace × Phase) :
    (board.advance lifecycle watcher answer notes).next.kinship = board.kinship := by
  have same : (board.watchers.map Watcher.cell)[lifecycle]? = some watcher.cell := by
    simp [watched]
  obtain ⟨inside, found⟩ := List.getElem?_eq_some_iff.mp same
  simp only [advance, kinship, List.map_set]
  rw [← found, List.set_getElem_self]

theorem kinship_step (board : Switchboard) (step : Step) :
    (board.step step).next.kinship = board.kinship.after step := by
  cases step with
  | newFlag => simp [Switchboard.step, kinship, Kinship.after]
  | cloneFlag flag | newLifecycle flag interval =>
      simp only [Switchboard.step, Kinship.after]
      split
      next absent => simp [kinship, absent]
      next cell found => simp [kinship, found]
  | request flag =>
      simp only [Switchboard.step, Kinship.after]
      split
      · rfl
      · simp [kinship, setCell]
  | register flag =>
      simp only [Switchboard.step, Kinship.after]
      split
      · rfl
      · rfl
  | raise signal => simp [Switchboard.step, kinship, setRegistered, Kinship.after]
  | start lifecycle priority =>
      simp only [Switchboard.step, Kinship.after]
      split
      next => rfl
      next watcher watched =>
        split
        · exact board.kinship_advance watched _ _
        · exact (board.registerCell watcher.cell).kinship_advance watched _ _
  | enterRunning lifecycle channels | beginShutdown lifecycle | stop lifecycle =>
      simp only [Switchboard.step, Kinship.after]
      split
      next => rfl
      next watcher watched => exact board.kinship_advance watched _ _
  | wait lifecycle requested =>
      simp only [Switchboard.step, Kinship.after, Switchboard.wait]
      split
      next => rfl
      next watcher watched =>
        split
        · rfl
        · split
          · rfl
          · simp [kinship, setCell]

theorem mem_registered_step (board : Switchboard) (step : Step) (cell : Nat) :
    cell ∈ (board.step step).next.registered ↔
      cell ∈ board.registered ∨
        step.registers = true ∧ step.family? board.kinship = some cell := by
  cases step with
  | newFlag | raise => simp [Switchboard.step, Step.registers, setRegistered]
  | cloneFlag flag | newLifecycle flag | request flag =>
      cases found : board.flags[flag]? with
      | none => simp [Switchboard.step, Step.registers, found]
      | some target => simp [Switchboard.step, Step.registers, setCell, found]
  | register flag =>
      cases found : board.flags[flag]? with
      | none => simp [Switchboard.step, Step.family?, kinship, found]
      | some target =>
          simp [Switchboard.step, Step.registers, Step.family?, kinship, registerCell, found,
            or_comm, eq_comm]
  | start lifecycle priority refusal? =>
      cases watched : board.watchers[lifecycle]? with
      | none => simp [Switchboard.step, Step.family?, kinship, watched]
      | some watcher =>
          cases refused : startError? priority (Scheduler.answering refusal?) with
          | some error => simp [Switchboard.step, Step.registers, advance, watched, refused]
          | none =>
              simp [Switchboard.step, Step.registers, Step.family?, kinship, registerCell, advance,
                watched, refused, or_comm, eq_comm]
  | enterRunning lifecycle | beginShutdown lifecycle | stop lifecycle =>
      cases watched : board.watchers[lifecycle]? with
      | none => simp [Switchboard.step, Step.registers, watched]
      | some watcher => simp [Switchboard.step, Step.registers, advance, watched]
  | wait lifecycle requested =>
      simp only [Switchboard.step, Step.registers, Switchboard.wait]
      split
      · simp
      · split
        · simp
        · split
          · simp
          · simp [setCell]

theorem isSet_step {board : Switchboard} (sound : board.Sound) (step : Step) (cell : Nat) :
    (board.step step).next.isSet cell = true ↔
      board.isSet cell = true ∨
        step.requests = true ∧ step.family? board.kinship = some cell ∨
        step.raises = true ∧ cell ∈ board.registered := by
  cases step with
  | newFlag =>
      have same : (board.step .newFlag).next.isSet cell = board.isSet cell :=
        board.isSet_newCell cell
      simp [same, Step.requests, Step.raises]
  | cloneFlag flag | newLifecycle flag | register flag =>
      cases found : board.flags[flag]? with
      | none => simp [Switchboard.step, Step.requests, Step.raises, found]
      | some target =>
          simp [Switchboard.step, Step.requests, Step.raises, registerCell, isSet, found]
  | request flag =>
      cases found : board.flags[flag]? with
      | none => simp [Switchboard.step, Step.family?, Step.raises, kinship, found]
      | some target =>
          have there := sound.kinship.flags target (List.mem_of_getElem? found)
          simp [Switchboard.step, Step.requests, Step.raises, Step.family?, kinship, found,
            board.isSet_setCell there]
  | raise signal =>
      simp [Switchboard.step, Step.requests, Step.raises,
        board.isSet_setRegistered (sound.registered cell)]
  | start lifecycle priority =>
      simp only [Switchboard.step, Step.requests, Step.raises]
      split
      · simp
      · split
        · simp [advance, isSet]
        · simp [advance, registerCell, isSet]
  | enterRunning lifecycle | beginShutdown lifecycle | stop lifecycle =>
      cases watched : board.watchers[lifecycle]? with
      | none => simp [Switchboard.step, Step.requests, Step.raises, watched]
      | some watcher => simp [Switchboard.step, Step.requests, Step.raises, advance, isSet, watched]
  | wait lifecycle requested =>
      cases watched : board.watchers[lifecycle]? with
      | none => simp [Switchboard.step, Step.family?, Step.raises, kinship, watched]
      | some watcher =>
          have there : watcher.cell < board.cells.length :=
            sound.kinship.held watcher.cell (List.mem_map_of_mem (List.mem_of_getElem? watched))
          simp only [Switchboard.step, watched, Switchboard.wait]
          split
          -- Such a wait ends before anyone can request the flag, which is set anyway.
          next already =>
            simp only [Step.raises, Step.family?, kinship, List.getElem?_map, watched,
              Option.map_some, Option.some.injEq, Bool.false_eq_true, false_and, or_false]
            constructor
            · exact .inl
            · rintro (set | ⟨_, rfl⟩)
              · exact set
              · exact already
          next unset =>
            cases requested with
            | none => simp [Step.requests, Step.raises]
            | some time =>
                simp [Step.requests, Step.raises, Step.family?, kinship, watched,
                  board.isSet_setCell there]

theorem Sound.step {board : Switchboard} (sound : board.Sound) (step : Step) :
    (board.step step).next.Sound := by
  constructor
  · rw [kinship_step]
    exact sound.kinship.after step
  · intro cell member
    rw [kinship_step]
    refine Nat.lt_of_lt_of_le ?_ (board.kinship.families_le_after step)
    rcases (board.mem_registered_step step cell).mp member with before | ⟨_, named⟩
    · exact sound.registered cell before
    · exact sound.kinship.named named

theorem after_append_singleton (board : Switchboard) (steps : List Step) (step : Step) :
    board.after (steps ++ [step]) = ((board.after steps).step step).next := by
  simp [after_append]

structure Agree (left right : Switchboard) : Prop where
  kinship : left.kinship = right.kinship
  set : ∀ cell, left.isSet cell = right.isSet cell
  registered : ∀ cell, cell ∈ left.registered ↔ cell ∈ right.registered

theorem flagStates_eq (board : Switchboard) :
    board.flagStates = board.kinship.flags.map board.isSet := rfl

theorem watchedStates_eq (board : Switchboard) :
    board.watchedStates = board.kinship.held.map board.isSet := by
  simp [watchedStates, kinship]

theorem Agree.flagStates {left right : Switchboard} (agree : Agree left right) :
    left.flagStates = right.flagStates ∧ left.watchedStates = right.watchedStates := by
  have same : left.isSet = right.isSet := funext agree.set
  simp [flagStates_eq, watchedStates_eq, agree.kinship, same]

theorem Agree.step {left right : Switchboard} (agree : Agree left right) (leftSound : left.Sound)
    (rightSound : right.Sound) (step : Step) :
    Agree (left.step step).next (right.step step).next := by
  constructor
  · rw [kinship_step, kinship_step, agree.kinship]
  · intro cell
    rw [Bool.eq_iff_iff, isSet_step leftSound, isSet_step rightSound, agree.kinship, agree.set,
      agree.registered]
  · intro cell
    rw [mem_registered_step, mem_registered_step, agree.kinship, agree.registered]

theorem Agree.after {left right : Switchboard} (agree : Agree left right) (leftSound : left.Sound)
    (rightSound : right.Sound) (steps : List Step) :
    Agree (left.after steps) (right.after steps) := by
  induction steps generalizing left right with
  | nil => exact agree
  | cons step rest ih =>
      rw [after_cons, after_cons]
      exact ih (agree.step leftSound rightSound step) (leftSound.step step) (rightSound.step step)

structure Recorded (steps : List Step) (board : Switchboard) : Prop where
  kinship : board.kinship = kinshipOf steps
  sound : board.Sound
  registered : ∀ family, family ∈ board.registered ↔ Registered family steps
  set : ∀ family, board.isSet family = true ↔ Requested family steps ∨ Signalled family steps

theorem Recorded.step {steps : List Step} {board : Switchboard} (recorded : Recorded steps board)
    (step : Step) : Recorded (steps ++ [step]) (board.step step).next := by
  constructor
  · rw [kinship_step, recorded.kinship, kinshipOf_append_singleton]
  · exact recorded.sound.step step
  · intro family
    rw [mem_registered_step, recorded.registered, recorded.kinship, registered_append_singleton]
  · intro family
    rw [isSet_step recorded.sound, recorded.set, recorded.registered, recorded.kinship,
      requested_append_singleton, signalled_append_singleton, or_or_or_comm]

theorem recorded_fresh : Recorded [] {} := by
  constructor
  · rfl
  · refine ⟨⟨?_, ?_⟩, ?_⟩
    · decide
    · decide
    · simp
  · intro family
    simp [Registered, not_once_nil]
  · intro family
    have clear : ({} : Switchboard).isSet family = false := by
      cases family with
      | _ => rfl
    simp [clear, Requested, Signalled, not_once_nil]

theorem recorded_after (steps : List Step) : Recorded steps (({} : Switchboard).after steps) := by
  induction steps using List.reverseRecOn with
  | nil => exact recorded_fresh
  | append_singleton steps step ih =>
      rw [after_append_singleton]
      exact ih.step step

section Reading

variable {steps : List Step} {board : Switchboard} {flag family : Nat}

theorem flagStates_of_flag (found : board.kinship.flags[flag]? = some family) :
    board.flagStates[flag]? = some (board.isSet family) := by
  simp [flagStates_eq, found]

theorem watchedStates_of_held {lifecycle : Nat}
    (found : board.kinship.held[lifecycle]? = some family) :
    board.watchedStates[lifecycle]? = some (board.isSet family) := by
  simp [watchedStates_eq, found]

theorem isSet_after (sound : board.Sound) (set : board.isSet family = true) (later : List Step) :
    (board.after later).isSet family = true := by
  induction later generalizing board with
  | nil => exact set
  | cons step rest ih =>
      rw [after_cons]
      exact ih (sound.step step) ((isSet_step sound step family).mpr (.inl set))

theorem flags_after (found : board.kinship.flags[flag]? = some family) (later : List Step) :
    (board.after later).kinship.flags[flag]? = some family := by
  induction later generalizing board with
  | nil => exact found
  | cons step rest ih =>
      rw [after_cons]
      refine ih ?_
      rw [kinship_step]
      exact Kinship.flags_after found step

theorem latched_after (sound : board.Sound) (set : board.flagStates[flag]? = some true)
    (later : List Step) : (board.after later).flagStates[flag]? = some true := by
  obtain ⟨family, found, isSet⟩ : ∃ family, board.kinship.flags[flag]? = some family ∧
      board.isSet family = true := by
    simpa [flagStates_eq] using set
  rw [flagStates_of_flag (flags_after found later), isSet_after sound isSet later]

theorem flagStates_step_of_other (sound : board.Sound)
    (found : board.kinship.flags[flag]? = some family) (step : Step)
    (other : step.family? board.kinship ≠ some family)
    (unheard : step.raises = true → family ∉ board.registered) :
    (board.step step).next.flagStates[flag]? = board.flagStates[flag]? := by
  have after : (board.step step).next.kinship.flags[flag]? = some family := by
    rw [kinship_step]
    exact Kinship.flags_after found step
  rw [flagStates_of_flag found, flagStates_of_flag after, Option.some.injEq, Bool.eq_iff_iff,
    isSet_step sound]
  constructor
  · rintro (set | ⟨_, named⟩ | ⟨raises, member⟩)
    · exact set
    · exact absurd named other
    · exact absurd member (unheard raises)
  · exact .inl

theorem agree_of_idle (sound : board.Sound) {step : Step}
    (related : board.kinship.after step = board.kinship) (asks : step.requests = false)
    (silent : step.raises = false)
    (known : step.registers = true → ∀ cell, step.family? board.kinship = some cell →
      cell ∈ board.registered) : Agree (board.step step).next board := by
  constructor
  · rw [kinship_step, related]
  · intro cell
    rw [Bool.eq_iff_iff, isSet_step sound]
    simp [asks, silent]
  · intro cell
    rw [mem_registered_step]
    constructor
    · rintro (member | ⟨registers, named⟩)
      · exact member
      · exact known registers cell named
    · exact .inl

theorem flagStates_step_of_registers (sound : board.Sound) {step : Step}
    (registers : step.registers = true) : (board.step step).next.flagStates = board.flagStates := by
  obtain ⟨asks, silent, related⟩ := Step.registers_only registers
  have same : (board.step step).next.isSet = board.isSet := by
    funext cell
    rw [Bool.eq_iff_iff, isSet_step sound]
    simp [asks, silent]
  rw [flagStates_eq, flagStates_eq, kinship_step, related, same]

end Reading

end Switchboard

structure Shows (steps : List Step) (board : Switchboard) : Prop where
  flags : ∀ flag family : Nat, (kinshipOf steps).flags[flag]? = some family →
    ∃ value, board.flagStates[flag]? = some value ∧
      (value = true ↔ Requested family steps ∨ Signalled family steps)
  held : ∀ lifecycle family : Nat, (kinshipOf steps).held[lifecycle]? = some family →
    ∃ value, board.watchedStates[lifecycle]? = some value ∧
      (value = true ↔ Requested family steps ∨ Signalled family steps)
  latched : ∀ flag : Nat, board.flagStates[flag]? = some true →
    ∀ later, (board.after later).flagStates[flag]? = some true
  unheard : ∀ flag family : Nat, (kinshipOf steps).flags[flag]? = some family →
    ¬Registered family steps → ∀ signal registration, registration.registers = true →
      (board.after [.raise signal, registration]).flagStates[flag]? = board.flagStates[flag]?
  again : ∀ registration family, registration.registers = true →
    registration.family? (kinshipOf steps) = some family → Registered family steps →
      ∀ later, (board.after (registration :: later)).flagStates = (board.after later).flagStates
  refused : ∀ lifecycle level cause later,
    (board.after (.start lifecycle (some level) (some cause) :: later)).flagStates =
      (board.after later).flagStates
  clones : ∀ left right family : Nat, (kinshipOf steps).flags[left]? = some family →
    (kinshipOf steps).flags[right]? = some family →
      board.flagStates[left]? = board.flagStates[right]?
  others : ∀ step, ∀ flag family : Nat, (kinshipOf steps).flags[flag]? = some family →
    step.family? (kinshipOf steps) ≠ some family →
      (step.raises = true → ¬Registered family steps) →
        (board.step step).next.flagStates[flag]? = board.flagStates[flag]?

/-- After every sequence of steps a flag is set exactly if its family was requested, or a signal was
raised after its family had been registered. -/
theorem flags_show_history (steps : List Step) :
    Shows steps (({} : Switchboard).after steps) := by
  have recorded := Switchboard.recorded_after steps
  generalize ({} : Switchboard).after steps = board at recorded
  obtain ⟨kinship, sound, registered, set⟩ := recorded
  constructor
  · intro flag family found
    rw [← kinship] at found
    exact ⟨_, Switchboard.flagStates_of_flag found, set family⟩
  · intro lifecycle family found
    rw [← kinship] at found
    exact ⟨_, Switchboard.watchedStates_of_held found, set family⟩
  · intro flag isSet later
    exact Switchboard.latched_after sound isSet later
  · intro flag family found unregistered signal registration registers
    rw [← kinship] at found
    rw [← registered] at unregistered
    simp only [Switchboard.after_cons, Switchboard.after_nil]
    rw [Switchboard.flagStates_step_of_registers (sound.step _) registers,
      Switchboard.flagStates_step_of_other sound found _ (by simp [Step.family?])
        (fun _ => unregistered)]
  · intro registration family registers named before later
    rw [← kinship] at named
    rw [← registered] at before
    obtain ⟨asks, silent, related⟩ := Step.registers_only registers
    have agree : Switchboard.Agree (board.step registration).next board := by
      refine Switchboard.agree_of_idle sound (related _) asks silent ?_
      intro _ cell known
      rw [named, Option.some.injEq] at known
      exact known ▸ before
    rw [Switchboard.after_cons]
    exact (agree.after (sound.step registration) sound later).flagStates.1
  · intro lifecycle level cause later
    have idle : (Step.start lifecycle (some level) (some cause)).registers = false := rfl
    have agree :
        Switchboard.Agree (board.step (.start lifecycle (some level) (some cause))).next board :=
      Switchboard.agree_of_idle sound rfl rfl rfl (by simp [idle])
    rw [Switchboard.after_cons]
    exact (agree.after (sound.step _) sound later).flagStates.1
  · intro left right family foundLeft foundRight
    rw [← kinship] at foundLeft foundRight
    rw [Switchboard.flagStates_of_flag foundLeft, Switchboard.flagStates_of_flag foundRight]
  · intro step flag family found other unheard
    rw [← kinship] at found other
    refine Switchboard.flagStates_step_of_other sound found step other ?_
    intro raises
    rw [registered]
    exact unheard raises

-- A signal that comes too early for one flag sets the other, whose lifecycle has started.
example : (({} : Switchboard).after
    [.newFlag, .start 0 none, .raise .interrupt, .register 1]).flagStates = [true, false] := by
  decide

end Transceiver.Lifecycle
