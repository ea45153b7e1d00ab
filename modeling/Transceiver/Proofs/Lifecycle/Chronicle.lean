import Transceiver.Proofs.Lifecycle.Course
import Transceiver.Proofs.Lifecycle.Latch

/-!
What a lifecycle tells of itself. Its logged moves join up to its present phase, it prints what it
logs for the operator and nothing else, and it announces a shutdown as often as one is asked for in
time. That holds of every order of steps, also after it has stopped.
-/

namespace Transceiver

theorem Phase.awaitsShutdown_iff {phase : Phase} :
    phase.awaitsShutdown = true ↔ phase = .starting ∨ phase = .running := by
  cases phase with
  | _ => decide

def isForOperator (text : String) : Bool :=
  ["-- Transceiver active with ", "Shutting down transceiver..."].any fun head =>
    head.toList.isPrefixOf text.toList

theorem isForOperator_announcement (announcement : Announcement) :
    isForOperator announcement.text = true := by
  cases announcement with
  | active channels =>
      have text : (Announcement.active channels).text =
          "-- Transceiver active with " ++ (toString channels ++ " channel(s)") :=
        String.append_assoc
      simp [isForOperator, text]
  | shuttingDown => rfl

namespace LogEntry

def announces (entry : LogEntry) : Bool :=
  entry.severity = .info && isForOperator entry.text

theorem text_announced (announcement : Announcement) :
    (announced announcement).text = announcement.text := rfl

theorem announces_announced (announcement : Announcement) :
    (announced announcement).announces = true :=
  isForOperator_announcement announcement

theorem announces_settingPriority (priority : Int) :
    (settingPriority priority).announces = false := by
  have text : (settingPriority priority).text =
      "Setting SCHED_RR priority(" ++ (toString priority ++ ")") :=
    String.append_assoc
  simp only [announces, text, isForOperator, String.toList_append]
  rfl

end LogEntry

namespace Trace

def announcedTexts (trace : Trace) : List String :=
  (trace.entries.filter LogEntry.announces).map LogEntry.text

def printedLines (trace : Trace) : List String :=
  trace.announcements.map Announcement.text

end Trace

namespace Lifecycle

def Joined (first : Phase) : List (Phase × Phase) → Phase → Prop
  | [], last => first = last
  | (source, target) :: rest, last => first = source ∧ Joined target rest last

theorem Joined.append {first middle last : Phase} {earlier later : List (Phase × Phase)}
    (before : Joined first earlier middle) (after : Joined middle later last) :
    Joined first (earlier ++ later) last := by
  induction earlier generalizing first with
  | nil => exact before ▸ after
  | cons move rest ih => exact ⟨before.1, ih before.2⟩

def Spaced : Bool → List Announcement → Prop
  | _, [] => True
  | _, .active _ :: rest => Spaced true rest
  | due, .shuttingDown :: rest => due = true ∧ Spaced false rest

theorem Spaced.of_undue {announcements : List Announcement} (spaced : Spaced false announcements)
    (due : Bool) : Spaced due announcements := by
  cases announcements with
  | nil => exact trivial
  | cons announcement rest =>
      cases announcement with
      | active channels => exact spaced
      | shuttingDown => exact absurd spaced.1 Bool.false_ne_true

theorem Spaced.of_append {due : Bool} {before later : List Announcement}
    (spaced : Spaced due (before ++ later)) : ∃ still, Spaced still later := by
  induction before generalizing due with
  | nil => exact ⟨due, spaced⟩
  | cons announcement rest ih =>
      cases announcement with
      | active channels => exact ih spaced
      | shuttingDown => exact ih spaced.2

theorem Spaced.active_of_undue {between later : List Announcement}
    (spaced : Spaced false (between ++ .shuttingDown :: later)) :
    ∃ channels, .active channels ∈ between := by
  cases between with
  | nil => exact absurd spaced.1 Bool.false_ne_true
  | cons announcement rest =>
      cases announcement with
      | active channels => exact ⟨channels, List.mem_cons_self⟩
      | shuttingDown => exact absurd spaced.1 Bool.false_ne_true

structure Told (phase : Phase) (notes : Trace × Phase) : Prop where
  joined : Joined phase notes.1.transitions notes.2
  printed : notes.1.printedLines = notes.1.announcedTexts
  spaced : ∀ later, Spaced notes.2.awaitsShutdown later →
    Spaced phase.awaitsShutdown (notes.1.announcements ++ later)

namespace Told

variable {phase : Phase}

theorem append {middle last : Phase} {first second : Trace} (before : Told phase (first, middle))
    (after : Told middle (second, last)) : Told phase (first ++ second, last) := by
  constructor
  · rw [Trace.transitions_append]
    exact before.joined.append after.joined
  · have printed := before.printed
    have printedThen := after.printed
    simp only [Trace.printedLines, Trace.announcedTexts] at printed printedThen ⊢
    simp [printed, printedThen]
  · intro later spaced
    rw [Trace.announcements_append, List.append_assoc]
    exact before.spaced _ (after.spaced later spaced)

theorem still (phase : Phase) : Told phase ([], phase) :=
  ⟨rfl, rfl, fun _ spaced => spaced⟩

theorem aside {entry : LogEntry} (unmoved : entry.transition? = none)
    (silent : entry.announces = false) : Told phase ([.logged entry], phase) := by
  constructor
  · simp [Trace.transitions, unmoved, Joined]
  · simp [Trace.printedLines, Trace.announcedTexts, silent]
  · exact fun _ spaced => spaced

theorem moved_stopped (phase : Phase) : Told phase ([moved phase .stopped], .stopped) :=
  ⟨⟨rfl, rfl⟩, rfl, fun _ spaced => spaced.of_undue _⟩

/-- A move that is announced; a notice needs a shutdown that is awaited. -/
theorem announcing {next : Phase} {announcement : Announcement}
    (spaced : ∀ later, Spaced next.awaitsShutdown later →
      Spaced phase.awaitsShutdown (announcement :: later)) :
    Told phase (moved phase next :: announce announcement, next) := by
  constructor
  · exact ⟨rfl, rfl⟩
  · have unmoved : (LogEntry.transition phase next).announces = false := rfl
    simp [Trace.printedLines, Trace.announcedTexts, moved, announce, unmoved,
      LogEntry.announces_announced, LogEntry.text_announced]
  · exact spaced

theorem start (phase : Phase) (priority : Option Int) (scheduler : Scheduler) :
    Told phase (Lifecycle.start phase priority scheduler) := by
  cases priority with
  | none => exact still phase
  | some level =>
      have setting : Told phase ([.logged (.settingPriority level)], phase) :=
        aside rfl (LogEntry.announces_settingPriority level)
      rw [Lifecycle.start]
      split
      · exact setting
      · exact setting.append ((aside rfl rfl).append (moved_stopped phase))

theorem enterRunning (phase : Phase) (channels : Nat) :
    Told phase (Lifecycle.enterRunning phase channels) :=
  announcing fun _ spaced => spaced

theorem beginShutdown (phase : Phase) : Told phase (Lifecycle.beginShutdown phase) := by
  rw [Lifecycle.beginShutdown]
  split
  next awaits => exact announcing fun _ spaced => ⟨awaits, spaced⟩
  next => exact still phase

theorem stop (phase : Phase) : Told phase (Lifecycle.stop phase) :=
  (beginShutdown phase).append (moved_stopped _)

end Told

namespace Step

def asksShutdown (lifecycle : Nat) : Step → Bool
  | .beginShutdown target | .stop target => target = lifecycle
  | _ => false

theorem told_moves (lifecycle : Nat) (phase : Phase) (step : Step) :
    Told phase (step.moves lifecycle phase) := by
  unfold moves
  split
  next target move moving =>
    split
    next =>
      cases step with
      | start target priority =>
          cases moving
          exact Told.start phase priority _
      | enterRunning target channels =>
          cases moving
          exact Told.enterRunning phase channels
      | beginShutdown target =>
          cases moving
          exact Told.beginShutdown phase
      | stop target =>
          cases moving
          exact Told.stop phase
      | _ => cases moving
    next => exact Told.still phase
  next => exact Told.still phase

end Step

theorem notices_start (phase : Phase) (priority : Option Int) (scheduler : Scheduler) :
    notices (start phase priority scheduler).1 = 0 := by
  cases priority with
  | none => rfl
  | some level =>
      rw [start]
      split
      · rfl
      · rfl

theorem notices_beginShutdown (phase : Phase) :
    notices (beginShutdown phase).1 = if phase.awaitsShutdown = true then 1 else 0 := by
  cases phase with
  | _ => rfl

theorem notices_stop (phase : Phase) :
    notices (stop phase).1 = if phase.awaitsShutdown = true then 1 else 0 := by
  cases phase with
  | _ => rfl

theorem Step.notices_moves (lifecycle : Nat) (phase : Phase) (step : Step) :
    notices (step.moves lifecycle phase).1 =
      if step.asksShutdown lifecycle = true ∧ phase.awaitsShutdown = true then 1 else 0 := by
  by_cases named : step.lifecycle? = some lifecycle
  · cases step with
    | start target priority =>
        cases named
        simp [moves, move?, notices_start, asksShutdown]
    | enterRunning target channels =>
        cases named
        simp [moves, move?, notices, Lifecycle.enterRunning, moved, announce, asksShutdown]
    | beginShutdown target =>
        cases named
        simp [moves, move?, notices_beginShutdown, asksShutdown]
    | stop target =>
        cases named
        simp [moves, move?, notices_stop, asksShutdown]
    | wait target requested => rfl
    | _ => cases named
  · have unasked : step.asksShutdown lifecycle = false := by
      cases step with
      | beginShutdown target | stop target => simpa [asksShutdown, lifecycle?] using named
      | _ => rfl
    simp [moves_of_unnamed named, notices, unasked]

namespace Switchboard

def phaseOf (board : Switchboard) (lifecycle : Nat) : Phase :=
  board.phases[lifecycle]?.getD .starting

def notesOf (board : Switchboard) (lifecycle : Nat) (step : Step) : Trace :=
  if step.lifecycle? = some lifecycle then (board.step step).trace else []

theorem phaseOf_found {board : Switchboard} {lifecycle : Nat} {phase : Phase}
    (found : board.phases[lifecycle]? = some phase) : board.phaseOf lifecycle = phase := by
  rw [phaseOf, found, Option.getD_some]

theorem phaseOf_unmade {board : Switchboard} {lifecycle : Nat}
    (unmade : board.phases[lifecycle]? = none) : board.phaseOf lifecycle = .starting := by
  rw [phaseOf, unmade, Option.getD_none]

theorem notesOf_unmade (board : Switchboard) {lifecycle : Nat}
    (unmade : board.phases[lifecycle]? = none) (step : Step) :
    board.notesOf lifecycle step = [] := by
  rw [notesOf]
  split
  next named =>
    cases moving : step.move? with
    | some move =>
        have same := Step.lifecycle?_of_move moving
        rw [named, Option.some.injEq] at same
        exact (board.step_of_absent moving (same ▸ unmade)).1
    | none =>
        cases step with
        | wait target requested =>
            cases named
            simp [Switchboard.step, phase_absent.mp unmade]
        | start | enterRunning | beginShutdown | stop => cases moving
        | _ => cases named
  next => rfl

/-- A lifecycle that a step makes starts. -/
theorem phaseOf_step_unmade (board : Switchboard) {lifecycle : Nat}
    (unmade : board.phases[lifecycle]? = none) (step : Step) :
    (board.step step).next.phaseOf lifecycle = .starting := by
  cases moving : step.move? with
  | some move =>
      cases present : board.phases[move.1]? with
      | none => rw [(board.step_of_absent moving present).2, phaseOf_unmade unmade]
      | some phase =>
          refine phaseOf_unmade ?_
          rw [(board.step_of_move moving present).2]
          simpa using unmade
  | none =>
      obtain ⟨_, made, kept, starts⟩ := board.step_of_still moving
      have beyond := List.getElem?_eq_none_iff.mp unmade
      rw [phaseOf, kept, List.getElem?_append_right beyond]
      cases found : made[lifecycle - board.phases.length]? with
      | none => rfl
      | some phase => exact starts phase (List.mem_of_getElem? found)

theorem told_step (board : Switchboard) (lifecycle : Nat) (step : Step) :
    Told (board.phaseOf lifecycle)
      (board.notesOf lifecycle step, (board.step step).next.phaseOf lifecycle) := by
  cases found : board.phases[lifecycle]? with
  | none =>
      rw [phaseOf_unmade found, board.notesOf_unmade found, board.phaseOf_step_unmade found]
      exact Told.still .starting
  | some phase =>
      have told := step.told_moves lifecycle phase
      rw [phaseOf_found found, phaseOf_found (board.phase_step lifecycle found step), notesOf]
      split
      next named =>
        cases moving : step.move? with
        | some move =>
            obtain ⟨target, move⟩ := move
            have same := Step.lifecycle?_of_move moving
            rw [named, Option.some.injEq] at same
            subst same
            rw [(board.step_of_move moving found).1]
            simpa [Step.moves, moving] using told
        | none =>
            simp only [Step.moves, moving] at told ⊢
            rcases (board.step_of_still moving).1 with nothing | received
            · rw [nothing]
              exact told
            · rw [received]
              exact Told.aside rfl rfl
      next unnamed =>
        rw [Step.moves_of_unnamed unnamed] at told ⊢
        exact told

theorem notices_step (board : Switchboard) (lifecycle : Nat) (step : Step) :
    notices (board.notesOf lifecycle step) =
      if step.asksShutdown lifecycle = true ∧ (board.phases[lifecycle]? = some .starting ∨
        board.phases[lifecycle]? = some .running) then 1 else 0 := by
  cases found : board.phases[lifecycle]? with
  | none => simp [board.notesOf_unmade found, notices]
  | some phase =>
      have own : notices (board.notesOf lifecycle step) =
          notices (step.moves lifecycle phase).1 := by
        rw [notesOf]
        split
        next named => rw [notices, board.announcements_step lifecycle found named, notices]
        next unnamed => rw [Step.moves_of_unnamed unnamed]
      simp only [own, Step.notices_moves, Phase.awaitsShutdown_iff, Option.some.injEq]

theorem answer_beginShutdown {board : Switchboard} {lifecycle : Nat} {phase : Phase}
    (found : board.phases[lifecycle]? = some phase) :
    (board.step (.beginShutdown lifecycle)).answer =
      .truth (phase = .starting ∨ phase = .running) := by
  obtain ⟨watcher, watched, rfl⟩ := phase_found.mp found
  simp only [Switchboard.step, watched, advance]
  refine congrArg Answer.truth ?_
  rw [Bool.eq_iff_iff, Phase.awaitsShutdown_iff, decide_eq_true_eq]

theorem phase_stop {board : Switchboard} {lifecycle : Nat} {phase : Phase}
    (found : board.phases[lifecycle]? = some phase) :
    (board.step (.stop lifecycle)).next.phases[lifecycle]? = some .stopped := by
  rw [board.phase_step lifecycle found]
  simp [Step.moves, Step.move?, Lifecycle.stop]

end Switchboard

def chronicle (lifecycle : Nat) (board : Switchboard) (steps : List Step) : Trace :=
  (steps.zip (board.run steps)).flatMap fun (step, outcome) =>
    if step.lifecycle? = some lifecycle then outcome.trace else []

def callsInTime (lifecycle : Nat) (board : Switchboard) (steps : List Step) : Nat :=
  (steps.zip (board :: (board.run steps).map Outcome.next)).countP fun (step, before) =>
    step.asksShutdown lifecycle && (before.phases[lifecycle]? = some .starting ∨
      before.phases[lifecycle]? = some .running)

section Run

variable (lifecycle : Nat) (board : Switchboard)

theorem chronicle_cons (step : Step) (rest : List Step) :
    chronicle lifecycle board (step :: rest) =
      board.notesOf lifecycle step ++ chronicle lifecycle (board.step step).next rest := by
  simp [chronicle, Switchboard.run, Switchboard.notesOf]

theorem callsInTime_cons (step : Step) (rest : List Step) :
    callsInTime lifecycle board (step :: rest) =
      callsInTime lifecycle (board.step step).next rest +
        notices (board.notesOf lifecycle step) := by
  simp [callsInTime, Switchboard.run, List.countP_cons, board.notices_step]

theorem told_chronicle (steps : List Step) :
    Told (board.phaseOf lifecycle)
      (chronicle lifecycle board steps, (board.after steps).phaseOf lifecycle) := by
  induction steps generalizing board with
  | nil => exact Told.still _
  | cons step rest ih =>
      rw [chronicle_cons, Switchboard.after_cons]
      exact (board.told_step lifecycle step).append (ih _)

theorem notices_chronicle (steps : List Step) :
    notices (chronicle lifecycle board steps) = callsInTime lifecycle board steps := by
  induction steps generalizing board with
  | nil => rfl
  | cons step rest ih =>
      rw [chronicle_cons, callsInTime_cons, ← ih, notices, Trace.announcements_append,
        List.count_append, Nat.add_comm, notices, notices]

end Run

structure Chronicled (lifecycle : Nat) (board : Switchboard) (trace : Trace) (calls : Nat) :
    Prop where
  joined : Joined .starting trace.transitions (board.phaseOf lifecycle)
  printed : trace.printedLines = trace.announcedTexts
  answered : ∀ phase, board.phases[lifecycle]? = some phase →
    (board.step (.beginShutdown lifecycle)).answer = .truth (phase = .starting ∨ phase = .running)
  counted : trace.announcements.count .shuttingDown = calls
  spaced : ∀ before between later,
    trace.announcements = before ++ .shuttingDown :: (between ++ .shuttingDown :: later) →
      ∃ channels, .active channels ∈ between
  stopped : ∀ phase, board.phases[lifecycle]? = some phase →
    (board.step (.stop lifecycle)).next.phases[lifecycle]? = some .stopped

/-- After any steps on a switchboard, the moves that a lifecycle logged join up from the first phase
to its present one, it printed what it logged for the operator, and it announced every shutdown
asked for in time, with its being active between any two of them. -/
theorem chronicled_after (lifecycle : Nat) (steps : List Step) :
    Chronicled lifecycle (({} : Switchboard).after steps) (chronicle lifecycle {} steps)
      (callsInTime lifecycle {} steps) := by
  have told := told_chronicle lifecycle {} steps
  have starts : ({} : Switchboard).phaseOf lifecycle = .starting := by
    cases lifecycle with
    | zero | succ => rfl
  rw [starts] at told
  constructor
  · exact told.joined
  · exact told.printed
  · intro phase found
    exact Switchboard.answer_beginShutdown found
  · exact notices_chronicle lifecycle {} steps
  · intro before between later split
    have spaced := told.spaced [] trivial
    rw [List.append_nil, split] at spaced
    obtain ⟨due, fromNotice⟩ := spaced.of_append
    exact fromNotice.2.active_of_undue
  · intro phase found
    exact Switchboard.phase_stop found

-- A lifecycle that is revived announces its next shutdown, too.
example : (chronicle 0 {} [.stop 0, .enterRunning 0 1, .stop 0]).announcements =
    [.shuttingDown, .active 1, .shuttingDown] := by
  decide

end Lifecycle

end Transceiver
