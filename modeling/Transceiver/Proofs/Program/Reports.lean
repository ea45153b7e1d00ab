import Transceiver.Proofs.Fault
import Transceiver.Proofs.Program.Layers

/-!
What an operator learns of a failure. A failed run logs its error once, the text tells the stage and
the code or channel, and the line is printed under every log level; so the program fails exactly if
it prints one such line.
-/

namespace Transceiver

namespace Trace

def errors (trace : Trace) : List LogEntry :=
  trace.entries.filter (·.severity = .error)

@[simp] theorem errors_printed_cons (announcement : Announcement) (rest : Trace) :
    errors (.printed announcement :: rest) = rest.errors := rfl

theorem errors_logged_cons (entry : LogEntry) (rest : Trace) :
    errors (.logged entry :: rest) =
      if entry.severity = .error then entry :: rest.errors else rest.errors := by
  simp [errors, List.filter_cons]

theorem errors_eq_filter_verdicts (trace : Trace) :
    trace.errors = trace.verdicts.filter (·.severity = .error) := by
  rw [errors, verdicts, List.filter_filter]
  congr 1
  funext entry
  cases entry with
  | _ => rfl

end Trace

namespace Bootstrap

def Run.errorTexts (run : Run) : List String :=
  run.trace.errors.map LogEntry.text

structure LogsOnce (run : Run) : Prop where
  failed : ∀ error, run.result = .failed error → run.errorTexts = [error.report]
  whole : ∀ error, run.result = .failed error → error.stage ≠ .scheduling →
    error.stage ≠ .attachment → run.errorTexts = [error.message]
  otherwise : (∀ error, run.result ≠ .failed error) → run.errorTexts = []

def TellsApart (first second : Run) : Prop :=
  ∀ error other, first.result = .failed error → second.result = .failed other →
    first.errorTexts = second.errorTexts →
    error.stage = other.stage ∧ error.number? = other.number?

namespace Tells

variable {run next : Run}

theorem errors_failed {error : BootstrapError} (tells : Tells run)
    (ends : run.result = .failed error) :
    ∃ entry, entry.Reports error ∧ run.trace.errors = [entry] := by
  cases tells with
  | served ok told => cases ends.symm.trans ok
  | failed other entry other_ends reports told =>
      cases ends.symm.trans other_ends
      refine ⟨entry, reports, ?_⟩
      rw [Trace.errors_eq_filter_verdicts, told]
      simp [reports.severity]
  | aborted aborts told => cases ends.symm.trans aborts

theorem errors_otherwise (tells : Tells run) (alive : ∀ error, run.result ≠ .failed error) :
    run.trace.errors = [] := by
  rw [Trace.errors_eq_filter_verdicts]
  cases tells with
  | served ok told =>
      rw [told]
      rfl
  | failed error entry ends reports told => exact absurd ends (alive error)
  | aborted aborts told =>
      rw [told]
      rfl

theorem errorTexts_failed {error : BootstrapError} (tells : Tells run)
    (ends : run.result = .failed error) : run.errorTexts = [error.report] := by
  obtain ⟨entry, reports, logged⟩ := tells.errors_failed ends
  rw [Run.errorTexts, logged, List.map_singleton, reports.text]

theorem logsOnce (tells : Tells run) : LogsOnce run where
  failed error ends := tells.errorTexts_failed ends
  whole error ends scheduled attached := by
    rw [← BootstrapError.report_of_stage scheduled attached]
    exact tells.errorTexts_failed ends
  otherwise alive := by
    rw [Run.errorTexts, tells.errors_otherwise alive]
    rfl

theorem tellsApart (first : Tells run) (second : Tells next) : TellsApart run next := by
  intro error other ends finishes same
  rw [first.errorTexts_failed ends, second.errorTexts_failed finishes] at same
  exact BootstrapError.stage_of_report (List.singleton_inj.mp same)

end Tells

end Bootstrap

namespace Program

open Bootstrap Lifecycle

def isErrorLine (text : String) : Bool :=
  "ERROR ".toList.isPrefixOf text.toList

def errorLines (level : LogLevel) (trace : Trace) : List String :=
  (shownTexts level trace).filter isErrorLine

theorem isErrorLine_append (head rest : String) (long : 6 ≤ head.toList.length) :
    isErrorLine (head ++ rest) = isErrorLine head := by
  rw [isErrorLine, isErrorLine, String.toList_append, Bool.eq_iff_iff, List.isPrefixOf_iff_prefix,
    List.isPrefixOf_iff_prefix]
  constructor
  · intro begins
    exact List.prefix_of_prefix_length_le begins (List.prefix_append _ _) long
  · intro begins
    exact begins.trans (List.prefix_append _ _)

theorem isErrorLine_logLine (entry : LogEntry) :
    isErrorLine (logLine entry) = decide (entry.severity = .error) := by
  have heads : ∀ severity, 6 ≤ (alignedSeverity severity ++ " ").toList.length ∧
      isErrorLine (alignedSeverity severity ++ " ") = decide (severity = .error) := by
    intro severity
    cases severity with
    | _ => decide
  rw [logLine, isErrorLine_append _ _ (heads entry.severity).1, (heads entry.severity).2]

theorem isErrorLine_announcement (announcement : Announcement) :
    isErrorLine announcement.text = false := by
  cases announcement with
  | active channels =>
      have long : 6 ≤ "-- Transceiver active with ".toList.length := by decide
      have text : (Announcement.active channels).text =
          "-- Transceiver active with " ++ (toString channels ++ " channel(s)") :=
        String.append_assoc
      rw [text]
      exact (isErrorLine_append _ _ long).trans rfl
  | shuttingDown => rfl

theorem shows_error (threshold : Severity) : threshold.shows .error = true := by
  simp [Severity.shows, Severity.rank]

theorem shownTexts_logged_cons (level : LogLevel) (entry : LogEntry) (rest : Trace) :
    shownTexts level (.logged entry :: rest) =
      if level.severity.shows entry.severity then logLine entry :: shownTexts level rest
      else shownTexts level rest := by
  cases shown : level.severity.shows entry.severity with
  | true | false => simp [shownTexts, noteText?, shown]

/-- Every level prints the errors of a trace, and nothing else that could be taken for one. -/
theorem errorLines_eq (level : LogLevel) (trace : Trace) :
    errorLines level trace = trace.errors.map logLine := by
  induction trace with
  | nil => rfl
  | cons note rest ih =>
      cases note with
      | event event => exact ih
      | printed announcement =>
          have silent := isErrorLine_announcement announcement
          simpa [errorLines, shownTexts, noteText?, silent] using ih
      | logged entry =>
          have line := isErrorLine_logLine entry
          rw [errorLines, shownTexts_logged_cons, Trace.errors_logged_cons]
          -- An error passes every threshold; other entries may not, but are not counted either.
          by_cases severe : entry.severity = .error
          · rw [severe, shows_error, if_pos rfl, if_pos rfl, List.map_cons, ← ih]
            exact List.filter_cons_of_pos (by simp [line, severe])
          · rw [if_neg severe, ← ih]
            split
            · exact List.filter_cons_of_neg (by simp [line, severe])
            · rfl

theorem execute_errors (arguments : List String) (shutdown : Shutdown) (scheduler : Scheduler) :
    ((execute arguments shutdown scheduler).exitCode? = some 1 ∧
        ∃ entry, (execute arguments shutdown scheduler).trace.errors = [entry]) ∨
      (execute arguments shutdown scheduler).exitCode? ≠ some 1 ∧
        (execute arguments shutdown scheduler).trace.errors = [] := by
  cases layer arguments with
  | declined declined =>
      obtain ⟨output, errors, executed⟩ := execute_declined declined
      rw [executed shutdown scheduler]
      exact .inr ⟨by simp, rfl⟩
  | faulty config fault asks faulty =>
      rw [execute_faulty shutdown scheduler asks faulty]
      exact .inl ⟨rfl, _, rfl⟩
  | served config script asks read =>
      have tells := tells_run script config defaultPollInterval shutdown .starting scheduler
      rw [execute_served shutdown scheduler asks read]
      by_cases fails : ∃ error,
          (run script config defaultPollInterval shutdown .starting scheduler).result =
            .failed error
      · obtain ⟨error, ends⟩ := fails
        obtain ⟨entry, _, logged⟩ := tells.errors_failed ends
        exact .inl ⟨Result.exitCode?_eq_one_iff.mpr ⟨error, ends⟩, entry, logged⟩
      · refine .inr ⟨fun code => fails (Result.exitCode?_eq_one_iff.mp code), ?_⟩
        exact tells.errors_otherwise fun error ends => fails ⟨error, ends⟩

theorem errorLines_length_iff (arguments : List String) (shutdown : Shutdown)
    (scheduler : Scheduler) (level : LogLevel) :
    (errorLines level (execute arguments shutdown scheduler).trace).length = 1 ↔
      (execute arguments shutdown scheduler).exitCode? = some 1 := by
  rw [errorLines_eq, List.length_map]
  rcases execute_errors arguments shutdown scheduler with ⟨code, entry, logged⟩ | ⟨code, none⟩
  · simp [code, logged]
  · simp [code, none]

/-- Every run logs its failure once, two failures that are logged alike are of one stage and name
one code or channel, and under every log level the program fails exactly if it prints one error. -/
theorem failures_told (script other : Script) (config another : Config) (interval pause : Nat)
    (shutdown later : Shutdown) (phase origin : Phase) (scheduler asked : Scheduler)
    (arguments : List String) (level : LogLevel) :
    LogsOnce (run script config interval shutdown phase scheduler) ∧
      TellsApart (run script config interval shutdown phase scheduler)
        (run other another pause later origin asked) ∧
      ((execute arguments shutdown scheduler).exitCode? = some 1 ↔
        (errorLines level (execute arguments shutdown scheduler).trace).length = 1) := by
  have tells := tells_run script config interval shutdown phase scheduler
  have tellsToo := tells_run other another pause later origin asked
  exact ⟨tells.logsOnce, tells.tellsApart tellsToo,
    (errorLines_length_iff arguments shutdown scheduler level).symm⟩

/-- A second channel without a queue and one whose queue is refused are told alike, as failures of
that channel; and the highest of all thresholds lets the line of a refused priority pass. -/
theorem failures_told_of_second_channel :
    let missing := run { missingFifo := some 1 } (Config.shipped 2) 1000 .beforeStart .starting
      Scheduler.privileged
    let rejected := run { rejectedFifo := some 1 } (Config.shipped 3) 30
      (.signalledAt 90 .terminate) .starting Scheduler.privileged
    let refused := execute ["-t", "10"] .beforeStart
      (Scheduler.answering (some "Operation not permitted (os error 1)"))
    missing.result = .failed (.missingFifo 1) ∧
      rejected.result = .failed (.attachFailed 1 (Pipeline.rejection 1)) ∧
      missing.errorTexts = ["Could not attach FIFO to channel 1"] ∧
      rejected.errorTexts = missing.errorTexts ∧ TellsApart missing rejected ∧
      refused.exitCode? = some 1 ∧ (errorLines .emergency refused.trace).length = 1 := by
  intro missing rejected refused
  obtain ⟨once, apart, told⟩ := failures_told { missingFifo := some 1 } { rejectedFifo := some 1 }
    (Config.shipped 2) (Config.shipped 3) 1000 30 .beforeStart (.signalledAt 90 .terminate)
    .starting .starting Scheduler.privileged Scheduler.privileged [] .emergency
  obtain ⟨_, _, tells⟩ := failures_told {} {} (Config.shipped 1) (Config.shipped 1) 1000 1000
    .beforeStart .beforeStart .starting .starting
    (Scheduler.answering (some "Operation not permitted (os error 1)")) Scheduler.privileged
    ["-t", "10"] .emergency
  have misses : missing.result = .failed (.missingFifo 1) := by decide
  have exits : refused.exitCode? = some 1 := by decide +kernel
  exact ⟨misses, by decide, once.failed _ misses, by decide, apart, exits, tells.mp exits⟩

end Program

end Transceiver
