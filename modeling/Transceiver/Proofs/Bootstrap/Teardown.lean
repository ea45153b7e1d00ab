import Transceiver.Proofs.Bootstrap.Paths
import Transceiver.Proofs.Pipeline.Brackets

/-!
The phases in which a run builds and releases its components. Every scope begins the shutdown before
it releases its own component, so only a component that a failing stage drops itself goes while the
lifecycle is still starting.
-/

namespace Transceiver

open Pipeline (Part)

def Note.next (phase : Phase) : Note → Phase
  | logged (.transition _ target) => target
  | _ => phase

namespace Trace

def phaseAfter (phase : Phase) (trace : Trace) : Phase :=
  trace.foldl Note.next phase

def timed (phase : Phase) : Trace → List (Phase × Event)
  | [] => []
  | note :: rest => note.event?.toList.map (phase, ·) ++ timed (note.next phase) rest

@[simp] theorem phaseAfter_append (phase : Phase) (first second : Trace) :
    phaseAfter phase (first ++ second) = phaseAfter (phaseAfter phase first) second :=
  List.foldl_append

@[simp] theorem timed_append (phase : Phase) (first second : Trace) :
    timed phase (first ++ second) = timed phase first ++ timed (phaseAfter phase first) second := by
  induction first generalizing phase with
  | nil => rfl
  | cons note rest ih =>
      simp only [List.cons_append, timed, ih, List.append_assoc]
      rfl

theorem next_of_course {note : Note} {rest : Trace} (phase : Phase)
    (quiet : Trace.course (note :: rest) = []) :
    note.next phase = phase ∧ Trace.course rest = [] := by
  cases own : note.ofLifecycle with
  | true => simp [course, own] at quiet
  | false =>
      refine ⟨?_, by simpa [course, own] using quiet⟩
      cases note with
      | logged entry =>
          cases entry with
          | transition source target => cases own
          | _ => rfl
      | _ => rfl

theorem phaseAfter_of_course {trace : Trace} (phase : Phase) (quiet : trace.course = []) :
    trace.phaseAfter phase = phase := by
  induction trace with
  | nil => rfl
  | cons note rest ih =>
      obtain ⟨same, later⟩ := next_of_course phase quiet
      rw [phaseAfter, List.foldl_cons, same]
      exact ih later

theorem timed_of_course {trace : Trace} (phase : Phase) (quiet : trace.course = []) :
    trace.timed phase = trace.events.map (phase, ·) := by
  induction trace with
  | nil => rfl
  | cons note rest ih =>
      obtain ⟨same, later⟩ := next_of_course phase quiet
      rw [timed, same, ih later]
      cases note with
      | _ => rfl

theorem mem_timed_of_split {past later : Trace} {event : Event} (phase : Phase) :
    (past.phaseAfter phase, event) ∈ timed phase (past ++ .event event :: later) := by
  rw [timed_append]
  refine List.mem_append_right _ ?_
  exact List.mem_cons_self

theorem map_snd_timed (phase : Phase) (trace : Trace) :
    (trace.timed phase).map Prod.snd = trace.events := by
  induction trace generalizing phase with
  | nil => rfl
  | cons note rest ih =>
      rw [timed, List.map_append, ih]
      cases note with
      | _ => rfl

end Trace

namespace Lifecycle

/-- A shutdown that is begun leaves the lifecycle shutting down, and no event on the way. -/
theorem beginShutdown_cases {phase : Phase} (live : phase ≠ .stopped) :
    (beginShutdown phase).2 = .shuttingDown ∧
      (beginShutdown phase).1.phaseAfter phase = .shuttingDown ∧
      (beginShutdown phase).1.timed phase = [] := by
  cases phase with
  | starting | running | shuttingDown => exact ⟨rfl, rfl, rfl⟩
  | stopped => exact absurd rfl live

theorem stop_cases (phase : Phase) :
    (stop phase).2 = .stopped ∧ (stop phase).1.phaseAfter phase = .stopped ∧
      (stop phase).1.timed phase = [] := by
  cases phase with
  | _ => exact ⟨rfl, rfl, rfl⟩

end Lifecycle

namespace Bootstrap

open Lifecycle Pipeline

namespace Result

def early? : Result → Option Part
  | failed (.interfaceInit _) => some .interface
  | failed (.coreInit _) | failed (.missingFifo _) | failed (.attachFailed _ _) => some .core
  | _ => none

def late : Result → List Part
  | ok => [.core, .interface, .device]
  | failed (.coreInit _) | failed (.missingFifo _) | failed (.attachFailed _ _) =>
      [.interface, .device]
  | failed (.negotiation _) | failed (.unsupportedInterface _) | failed (.interfaceInit _) =>
      [.device]
  | _ => []

theorem not_mem_late {result : Result} {part : Part} (early : result.early? = some part) :
    part ∉ result.late := by
  cases result with
  | ok | aborted => cases early
  | failed error =>
      cases error with
      | interfaceInit | coreInit | missingFifo | attachFailed =>
          cases early
          simp [late]
      | _ => cases early

end Result

structure Raises {α : Type} (attempt : Attempt BootstrapError α) (outer : List Part) : Prop where
  quiet : attempt.trace.course = []
  done : ∀ value, attempt.outcome = .done value →
    ∀ event ∈ attempt.trace.events, event.closes = none
  failed : ∀ error, attempt.outcome = .failed error → (Result.failed error).late = outer ∧
    ∃ built early, attempt.trace.events = built ++ early ∧ (∀ event ∈ built, event.closes = none) ∧
      early.map Event.closes = (Result.failed error).early?.toList.map some

section Stages

variable (script : Script) (config : Config)

theorem raises_negotiate (device : Device) :
    Raises (negotiate script config device) [.device] := by
  cases fails : script.failOpen with
  | true =>
      rw [negotiate_failed script config device fails]
      refine ⟨rfl, by simp, ?_⟩
      rintro error ⟨⟩
      exact ⟨rfl, _, [], (List.append_nil _).symm, by simp [Event.closes], rfl⟩
  | false =>
      rw [negotiate_done script config device fails]
      exact ⟨rfl, by simp [Event.closes], by simp⟩

theorem raises_buildInterface (code table : Nat) :
    Raises (buildInterface script config code table) [.device] := by
  cases known : Topology.ofCode? code with
  | none =>
      rw [buildInterface_unsupported script config table (Topology.ofCode?_eq_none_iff.mp known)]
      refine ⟨rfl, by simp, ?_⟩
      rintro error ⟨⟩
      exact ⟨rfl, [], [], rfl, by simp, rfl⟩
  | some topology =>
      cases works : script.failInterface with
      | true =>
          rw [buildInterface_failed script config table known works]
          refine ⟨rfl, by simp, ?_⟩
          rintro error ⟨⟩
          exact ⟨rfl, [_], [.interfaceReleased], rfl, by simp [Event.closes], rfl⟩
      | false =>
          cases fits : tableFits (topology.width config.channels) with
          | true =>
              rw [buildInterface_ready script config table known works fits]
              exact ⟨rfl, by simp [Event.closes], by simp⟩
          | false =>
              rw [buildInterface_overflow script config table known works fits]
              exact ⟨rfl, by simp, by simp⟩

theorem closes_attachNotes (channel count : Nat) :
    ∀ event ∈ (attachNotes channel count).events, event.closes = none := by
  intro event member
  rw [events_attachNotes] at member
  obtain ⟨attached, _, rfl⟩ := List.mem_map.mp member
  rfl

theorem closes_building (count : Nat) :
    ∀ event ∈ .coreBuilt config.coreParams :: .coreInitialized config.coreSettings ::
      (attachNotes 0 count).events, event.closes = none := by
  intro event member
  rcases List.mem_cons.mp member with rfl | member
  · rfl
  · rcases List.mem_cons.mp member with rfl | attached
    · rfl
    · exact closes_attachNotes 0 count event attached

theorem parts_attachError (interface : Interface) (channel : Nat) :
    (Result.failed (attachError script interface channel)).late = [.interface, .device] ∧
      (Result.failed (attachError script interface channel)).early? = some .core := by
  unfold attachError
  split
  · exact ⟨rfl, rfl⟩
  · exact ⟨rfl, rfl⟩

theorem raises_assemble (interface : Interface) :
    Raises (assemble script config interface) [.interface, .device] := by
  cases fits : tableFits config.channels with
  | false =>
      rw [assemble_overflow script config interface fits]
      exact ⟨rfl, by simp, by simp⟩
  | true =>
      cases works : script.failCore with
      | true =>
          rw [assemble_failed script config interface fits works]
          refine ⟨rfl, by simp, ?_⟩
          rintro error ⟨⟩
          exact ⟨rfl, [_], [.coreReleased 0], rfl, by simp [Event.closes], rfl⟩
      | false =>
          cases first : firstUnattached? script interface config.channels with
          | none =>
              rw [assemble_done script config interface fits works first]
              refine ⟨?_, fun _ _ => closes_building config config.channels, by simp⟩
              simp only [Trace.course_event_cons, course_attachNotes]
          | some channel =>
              rw [assemble_unattached script config interface fits works first]
              refine ⟨?_, by simp, ?_⟩
              · simp only [List.cons_append, Trace.course_event_cons, Trace.course_append,
                  course_attachNotes]
                rfl
              · rintro error ⟨⟩
                obtain ⟨late, early⟩ := parts_attachError script interface channel
                refine ⟨late, _, [.coreReleased channel], ?_, closes_building config channel, ?_⟩
                · simp
                · rw [early]
                  rfl

end Stages

/-- How far a scope entered with a new lifecycle has come: whatever it built and what a failing
stage released came before the shutdown, what the scopes released came during it, and the scopes
around it still have `outer` to release. -/
structure Paced (run : Run) (outer : List Part) : Prop where
  followed : run.trace.phaseAfter .starting = run.phase
  live : run.phase ≠ .stopped
  timed : ∃ built early late : List Event, run.trace.timed .starting =
      (built ++ early).map (.starting, ·) ++ late.map (.shuttingDown, ·) ∧
    (∀ event ∈ built, event.closes = none) ∧
    early.map Event.closes = run.result.early?.toList.map some ∧
    late.map Event.closes ++ outer.map some = run.result.late.map some

namespace Paced

variable {run : Run} {outer : List Part}

theorem stopped {α : Type} {notes : Trace} {error : BootstrapError}
    (raises : Raises (⟨notes, .failed error⟩ : Attempt BootstrapError α) outer) :
    Paced (.stopped (.failed error) .starting notes) outer := by
  obtain ⟨remains, built, early, events, bare, released⟩ := raises.failed error rfl
  have quiet : notes.course = [] := raises.quiet
  refine ⟨Trace.phaseAfter_of_course .starting quiet, by simp [Run.stopped],
    built, early, [], ?_, bare, released, ?_⟩
  · rw [List.map_nil, List.append_nil, ← events]
    exact Trace.timed_of_course .starting quiet
  · rw [List.map_nil, List.nil_append, ← remains]
    rfl

theorem after {notes : Trace} (quiet : notes.course = [])
    (bare : ∀ event ∈ notes.events, event.closes = none) (inner : Paced run outer) :
    Paced (run.after notes) outer := by
  obtain ⟨built, early, late, timed, others, released, remains⟩ := inner.timed
  have same := Trace.phaseAfter_of_course .starting quiet
  refine ⟨?_, inner.live, notes.events ++ built, early, late, ?_, ?_, released, remains⟩
  · rw [Run.after, Trace.phaseAfter_append, same]
    exact inner.followed
  · rw [Run.after, Trace.timed_append, same, timed, Trace.timed_of_course .starting quiet]
    simp only [List.map_append, List.append_assoc]
  · intro event member
    rcases List.mem_append.mp member with first | second
    · exact bare event first
    · exact others event second

/-- A scope begins the shutdown ahead of the release of its component, if that was not done. -/
theorem leaving (released : Event) {part : Part} (closes : released.closes = some part)
    (alive : run.result ≠ .aborted) (inner : Paced run (part :: outer)) :
    Paced (run.leaving released) outer := by
  obtain ⟨built, early, late, timed, bare, dropped, remains⟩ := inner.timed
  obtain ⟨entered, moved, silent⟩ := beginShutdown_cases inner.live
  rw [leaving_eq released alive]
  refine ⟨?_, by simp [entered], built, early, late ++ [released], ?_, bare, dropped, ?_⟩
  · simp only [Trace.phaseAfter_append, inner.followed, moved, entered]
    rfl
  · simp only [Trace.timed_append, inner.followed, moved, silent, timed, List.map_append,
      List.append_assoc, List.nil_append]
    rfl
  · rw [← remains]
    simp [closes]

theorem phase_leaving (released : Event) (alive : run.result ≠ .aborted)
    (inner : Paced run outer) : (run.leaving released).phase = .shuttingDown := by
  rw [leaving_eq released alive]
  exact (beginShutdown_cases inner.live).1

end Paced

theorem result_leaving (run : Run) (released : Event) :
    (run.leaving released).result = run.result := by
  unfold Run.leaving
  split
  · rfl
  · rfl

section Scopes

variable (script : Script) (config : Config) (interval : Nat) (shutdown : Shutdown)

theorem paced_serveCore (core : Core) :
    Paced (serveCore core interval shutdown .starting) [.interface, .device] := by
  dsimp only [serveCore, enterRunning]
  refine Paced.leaving _ rfl (by simp) ?_
  exact ⟨rfl, by simp, [], [], [], rfl, by simp, rfl, rfl⟩

theorem paced_runInterface (interface : Interface)
    (alive : (runInterface script config interface interval shutdown .starting).result ≠
      .aborted) :
    Paced (runInterface script config interface interval shutdown .starting)
      [.interface, .device] := by
  have raises := raises_assemble script config interface
  unfold runInterface at alive ⊢
  generalize assemble script config interface = attempt at raises alive
  obtain ⟨notes, outcome⟩ := attempt
  cases outcome with
  | done core =>
      exact (paced_serveCore interval shutdown core).after raises.quiet (raises.done core rfl)
  | failed error => exact .stopped raises
  | overflow => exact absurd rfl alive

theorem paced_runDevice (device : Device)
    (alive : (runDevice script config device interval shutdown .starting).result ≠ .aborted) :
    Paced (runDevice script config device interval shutdown .starting) [.device] := by
  have opens := raises_negotiate script config device
  unfold runDevice at alive ⊢
  generalize negotiate script config device = negotiated at opens alive
  obtain ⟨opened, outcome⟩ := negotiated
  cases outcome with
  | failed error => exact .stopped opens
  | overflow => exact absurd rfl alive
  | done code =>
      have builds := raises_buildInterface script config code 0
      generalize built : buildInterface script config code 0 = attempt at builds
      obtain ⟨notes, outcome⟩ := attempt
      simp only [built] at alive ⊢
      cases outcome with
      | failed error =>
          exact (Paced.stopped builds).after opens.quiet (opens.done code rfl)
      | overflow => exact absurd rfl alive
      | done interface =>
          have lives : (runInterface script config interface interval shutdown .starting).result ≠
              .aborted := by
            simpa only [Run.after, result_leaving] using alive
          have inner := paced_runInterface script config interval shutdown interface lives
          have scope := (inner.leaving .interfaceReleased rfl lives).after
            builds.quiet (builds.done interface rfl)
          have whole := scope.after opens.quiet (opens.done code rfl)
          simpa only [Run.after, List.append_assoc] using whole

end Scopes

/-! The whole run. -/

/-- A run of a new lifecycle builds while it is starting and releases while it is shutting down,
but for the component that a failing stage releases itself, which goes before the shutdown. -/
structure Timely (run : Run) : Prop where
  followed : run.trace.phaseAfter .starting = run.phase
  built : ∀ (past : Trace) (event : Event) (later : Trace),
    run.trace = past ++ .event event :: later → event.closes = none →
      past.phaseAfter .starting = .starting
  released : ∀ (past : Trace) (event : Event) (later : Trace) (part : Part),
    run.trace = past ++ .event event :: later → event.closes = some part →
      past.phaseAfter .starting =
        if run.result.early? = some part then .starting else .shuttingDown
  complete : run.trace.events.filterMap Event.closes = run.result.early?.toList ++ run.result.late

theorem closes_of_mem {events : List Event} {parts : List Part}
    (released : events.map Event.closes = parts.map some) {event : Event}
    (member : event ∈ events) : ∃ part ∈ parts, event.closes = some part := by
  have closes : event.closes ∈ parts.map some := released ▸ List.mem_map_of_mem member
  obtain ⟨part, among, same⟩ := List.mem_map.mp closes
  exact ⟨part, among, same.symm⟩

theorem filterMap_closes {events : List Event} {parts : List Part}
    (released : events.map Event.closes = parts.map some) :
    events.filterMap Event.closes = parts := by
  calc
    events.filterMap Event.closes = (events.map Event.closes).filterMap id := by
      rw [List.filterMap_map]
      rfl
    _ = (parts.map some).filterMap id := by rw [released]
    _ = parts := by simp

theorem timely_of_timed {run : Run} (built early late : List Event)
    (followed : run.trace.phaseAfter .starting = run.phase)
    (timed : run.trace.timed .starting =
      (built ++ early).map (.starting, ·) ++ late.map (.shuttingDown, ·))
    (inert : ∀ event ∈ built, event.closes = none)
    (dropped : early.map Event.closes = run.result.early?.toList.map some)
    (released : late.map Event.closes = run.result.late.map some) : Timely run := by
  -- Where an event stands in the trace decides in which of the three parts it is.
  have place {past later : Trace} {event : Event}
      (split : run.trace = past ++ .event event :: later) :
      event ∈ built ∧ past.phaseAfter .starting = .starting ∨
        event ∈ early ∧ past.phaseAfter .starting = .starting ∨
          event ∈ late ∧ past.phaseAfter .starting = .shuttingDown := by
    have member : (past.phaseAfter .starting, event) ∈
        Trace.timed .starting (past ++ .event event :: later) := Trace.mem_timed_of_split .starting
    rw [← split, timed] at member
    simpa [eq_comm] using member
  constructor
  · exact followed
  · intro past event later split nothing
    rcases place split with ⟨_, starting⟩ | ⟨_, starting⟩ | ⟨member, _⟩
    · exact starting
    · exact starting
    · obtain ⟨part, _, closes⟩ := closes_of_mem released member
      rw [nothing] at closes
      cases closes
  · intro past event later part split closes
    rcases place split with ⟨member, _⟩ | ⟨member, starting⟩ | ⟨member, ending⟩
    · rw [inert event member] at closes
      cases closes
    · obtain ⟨other, among, same⟩ := closes_of_mem dropped member
      rw [closes] at same
      cases same
      rw [if_pos (by simpa using among), starting]
    · obtain ⟨other, among, same⟩ := closes_of_mem released member
      rw [closes] at same
      cases same
      rw [if_neg fun early => Result.not_mem_late early among, ending]
  · have events := congrArg (List.map Prod.snd) timed
    have silent : built.filterMap Event.closes = [] := List.filterMap_eq_nil_iff.mpr inert
    rw [Trace.map_snd_timed] at events
    rw [events]
    simp only [List.map_append, List.map_map, List.filterMap_append, Function.comp_def,
      List.map_id', silent, filterMap_closes dropped, filterMap_closes released, List.nil_append]

theorem Paced.timely {run : Run} {notes : Trace} (paced : Paced run [])
    (alive : run.result ≠ .aborted) (quiet : notes.course = [])
    (bare : ∀ event ∈ notes.events, event.closes = none) :
    Timely (run.stopping.after notes) := by
  have whole := paced.after quiet bare
  obtain ⟨built, early, late, timed, inert, dropped, released⟩ := whole.timed
  obtain ⟨entered, moved, silent⟩ := stop_cases run.phase
  have before : (run.after notes).trace.phaseAfter .starting = run.phase := whole.followed
  have result : (run.stopping.after notes).result = run.result := result_stopping run
  have trace : (run.stopping.after notes).trace =
      (run.after notes).trace ++ (stop run.phase).1 := by
    rw [stopping_eq alive]
    simp [Run.after]
  rw [List.map_nil, List.append_nil] at released
  refine timely_of_timed built early late ?_ ?_ inert ?_ ?_
  · rw [trace, Trace.phaseAfter_append, before, moved, stopping_eq alive]
    exact entered.symm
  · rw [trace, Trace.timed_append, before, silent, List.append_nil, timed]
  · rw [result]
    exact dropped
  · rw [result]
    exact released

/-- A run of a new lifecycle that no table stops builds before the shutdown and releases during it;
only what a failing stage drops itself goes earlier. -/
theorem run_tears_down_timely (script : Script) (config : Config) (interval : Nat)
    (shutdown : Shutdown) (scheduler : Scheduler)
    (alive : (run script config interval shutdown .starting scheduler).result ≠ .aborted) :
    Timely (run script config interval shutdown .starting scheduler) := by
  cases asked : startError? config.priority scheduler with
  | some error =>
      obtain ⟨level, cause, _, rfl, started⟩ := start_refused .starting asked
      simp only [run, asked, started]
      exact timely_of_timed [] [] [] rfl rfl (by simp) rfl rfl
  | none =>
      have unmoved : (start .starting config.priority scheduler).2 = .starting := by
        rw [start_accepted .starting asked]
      have made : (makeDevice config).2 = ⟨config.deviceParams⟩ := rfl
      simp only [run, asked, unmoved, made] at alive ⊢
      have lives : (runDevice script config ⟨config.deviceParams⟩ interval shutdown
          .starting).result ≠ .aborted := by
        simpa only [Run.after, result_stopping, result_leaving] using alive
      have inner := paced_runDevice script config interval shutdown ⟨config.deviceParams⟩ lives
      have left := inner.leaving .deviceReleased rfl lives
      refine left.timely (by rwa [result_leaving]) ?_ ?_
      · rw [Trace.course_append, course_start .starting asked]
        rfl
      · simp [makeDevice, Event.closes]

/-- The core goes with the second channel missing, ahead of the shutdown that the interface and the
device wait for. -/
theorem run_tears_down_timely_of_missing_fifo :
    (run { missingFifo := some 1 } (Config.shipped 2) 1000 (.requestedAt 5) .starting
        Scheduler.privileged).result = .failed (.missingFifo 1) ∧
      (run { missingFifo := some 1 } (Config.shipped 2) 1000 (.requestedAt 5) .starting
        Scheduler.privileged).result ≠ .aborted ∧
      Timely (run { missingFifo := some 1 } (Config.shipped 2) 1000 (.requestedAt 5) .starting
        Scheduler.privileged) :=
  ⟨by decide, by decide, run_tears_down_timely { missingFifo := some 1 } (Config.shipped 2) 1000
    (.requestedAt 5) Scheduler.privileged (by decide)⟩

end Bootstrap

end Transceiver
