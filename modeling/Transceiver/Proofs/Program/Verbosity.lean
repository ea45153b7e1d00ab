import Mathlib.Data.List.Flatten
import Transceiver.Proofs.Bootstrap.Settings
import Transceiver.Proofs.CommandLine.Choices
import Transceiver.Proofs.Config.Summary
import Transceiver.Proofs.Config.Validate
import Transceiver.Proofs.Program.Reports

/-!
The log level of a command line. It decides which of the log entries are printed and stands in one
line of the summary; everything else that a run does, logs or prints is the same under every level.
-/

namespace Transceiver

/-! The options of two command lines that differ in the level. -/

def Options.atLevel (options : Options) (name : String) : Options :=
  { options with logLevel := name }

namespace CommandLine

def Choice.ofLevel : Choice → Bool
  | logLevel _ => true
  | _ => false

def apart (choices : List Choice) : List Choice :=
  choices.filter fun choice => !choice.ofLevel

theorem set_atLevel (options : Options) (choice : Choice) (name : String) :
    (options.set choice.setting).atLevel name =
      if choice.ofLevel then options.atLevel name
      else (options.atLevel name).set choice.setting := by
  fun_cases Choice.setting choice with
  | _ => rfl

theorem foldl_atLevel (choices : List Choice) (options : Options) (name : String) :
    ((choices.map Choice.setting).foldl Options.set options).atLevel name =
      ((apart choices).map Choice.setting).foldl Options.set (options.atLevel name) := by
  induction choices generalizing options with
  | nil => rfl
  | cons choice rest ih =>
      rw [List.map_cons, List.foldl_cons, ih, set_atLevel]
      cases level : choice.ofLevel with
      | true => simp [apart, level]
      | false => simp [apart, level]

theorem apart_inTurn (choices : List Choice) : apart (inTurn choices) = inTurn (apart choices) := by
  simp only [apart, inTurn, List.filter_append, List.filter_filter, Bool.and_comm]

theorem optionsOf_apart {choices others : List Choice} (same : apart others = apart choices)
    (name : String) : (optionsOf others).atLevel name = (optionsOf choices).atLevel name := by
  have settled (choices : List Choice) : (optionsOf choices).atLevel name =
      ((inTurn (apart choices)).map Choice.setting).foldl Options.set
        (Options.atLevel {} name) := by
    rw [← apart_inTurn]
    exact foldl_atLevel (inTurn choices) {} name
  rw [settled, settled, same]

end CommandLine

/-- Accepted options that differ in the level have configurations that do. -/
theorem Options.Accepted.atLevel {options other : Options} {config another : Config}
    (accepted : options.Accepted config) (acceptedToo : other.Accepted another)
    (same : other.atLevel options.logLevel = options) :
    another = config.atLevel another.logLevel := by
  have txRate := accepted.txRate
  have rxRate := accepted.rxRate
  have built := accepted.config_eq
  rw [← same] at txRate rxRate built
  have tx : another.txRate = config.txRate :=
    Option.some.inj (acceptedToo.txRate.symm.trans txRate)
  have rx : another.rxRate = config.rxRate :=
    Option.some.inj (acceptedToo.rxRate.symm.trans rxRate)
  rw [built, acceptedToo.config_eq, tx, rx]
  rfl

namespace Program

open Bootstrap CommandLine

/-! What of a run is printed under a level. -/

def shownUnder (level : LogLevel) : Note → Bool
  | .event _ => false
  | .printed _ => true
  | .logged entry => level.severity.shows entry.severity

def noteLines : Note → List String
  | .event _ => []
  | .printed announcement => (Text.endedLines announcement.text.toList).map String.ofList
  | .logged entry => (Text.endedLines (logLine entry).toList).map String.ofList

/-- The lines that a printed note takes, without the one of the summary that tells the level. -/
def plainLines : Note → List String
  | .logged (.settings config) => (noteLines (.logged (.settings config))).eraseIdx 1
  | note => noteLines note

def Process.shown (process : Process) : Trace :=
  process.trace.filter (shownUnder process.level)

def Process.plainLines (process : Process) : List String :=
  process.shown.flatMap Program.plainLines

theorem shownTexts_lines (level : LogLevel) (trace : Trace) :
    (shownTexts level trace).flatMap
        (fun text => (Text.endedLines text.toList).map String.ofList) =
      (trace.filter (shownUnder level)).flatMap noteLines := by
  induction trace with
  | nil => rfl
  | cons note rest ih =>
      cases note with
      | event event => exact ih
      | printed announcement =>
          rw [List.filter_cons_of_pos rfl, List.flatMap_cons, ← ih]
          rfl
      | logged entry =>
          rw [shownTexts_logged_cons, List.filter_cons, shownUnder]
          split
          · rw [List.flatMap_cons, List.flatMap_cons, ih]
            rfl
          · exact ih

theorem Process.lines_eq {process : Process} (bare : process.output = "") :
    process.lines = process.shown.flatMap noteLines := by
  have folded (texts : List String) (text : String) :
      (texts.foldl (fun text shown => text ++ shown ++ "\n") text).toList =
        text.toList ++ (texts.map String.toList).flatMap (· ++ ['\n']) := by
    induction texts generalizing text with
    | nil => simp
    | cons shown rest ih =>
        rw [List.foldl_cons, ih]
        simp
  rw [Process.lines, Process.printed, folded, bare, String.toList_empty, List.nil_append,
    Text.lines_flatMap, Process.shown, ← shownTexts_lines, List.flatMap_map, List.map_flatMap]

def levelLine (level : LogLevel) : String :=
  "   Log Level............... " ++ level.name

theorem toList_levelLine (level : LogLevel) :
    (levelLine level).toList = "   Log Level............... ".toList ++ level.name.toList :=
  String.toList_append

theorem summary_atLevel (config : Config) :
    ∃ below, ∀ level, (config.atLevel level).summary.toList =
      "Config Settings".toList ++ '\n' :: ((levelLine level).toList ++ '\n' :: below) := by
  refine ⟨"   Device args............. ".toList ++
    (config.deviceArgs.toList ++ config.closing.flatMap Config.line), ?_⟩
  intro level
  have closing : (config.atLevel level).closing = config.closing := rfl
  rw [Config.toList_summary_split, toList_levelLine, closing]
  rfl

theorem spellControls_line (line rest : List Char) :
    Text.spellControls (line ++ '\n' :: rest) =
      Text.spellControls line ++ '\n' :: Text.spellControls rest := by
  rw [Text.spellControls, List.flatMap_append, List.flatMap_cons]
  rfl

/-- The second line of the summary tells the level, and no other line of it depends on that. -/
theorem noteLines_settings (config : Config) :
    ∃ rest, ∀ level, noteLines (.logged (.settings (config.atLevel level))) =
      " INFO Config Settings" :: levelLine level :: rest := by
  obtain ⟨below, split⟩ := summary_atLevel config
  refine ⟨(Text.endedLines (Text.spellControls below)).map String.ofList, ?_⟩
  intro level
  have spelled : Text.spellControls (levelLine level).toList = (levelLine level).toList := by
    cases level with
    | _ => rfl
  have told : Text.endedLines (levelLine level).toList = [(levelLine level).toList] := by
    cases level with
    | _ => rfl
  have heading : Text.endedLines " INFO Config Settings".toList =
      [" INFO Config Settings".toList] := by rfl
  have whole : (logLine (.settings (config.atLevel level))).toList =
      " INFO Config Settings".toList ++ '\n' ::
        ((levelLine level).toList ++ '\n' :: Text.spellControls below) := by
    have start : (alignedSeverity .info ++ " ").toList ++
        Text.spellControls "Config Settings".toList = " INFO Config Settings".toList := by rfl
    have line : logLine (.settings (config.atLevel level)) =
        alignedSeverity .info ++ " " ++
          String.ofList (Text.spellControls (config.atLevel level).summary.toList) := rfl
    rw [line, String.toList_append, String.toList_ofList, split, ← start, List.append_assoc,
      spellControls_line, spellControls_line, spelled]
  rw [noteLines, whole, Text.endedLines_append, Text.endedLines_append, heading, told]
  simp

theorem plainLines_settings (config : Config) (level other : LogLevel) :
    plainLines (.logged (.settings (config.atLevel level))) =
      plainLines (.logged (.settings (config.atLevel other))) := by
  obtain ⟨rest, lines⟩ := noteLines_settings config
  rw [plainLines, plainLines, lines, lines]
  rfl

theorem shownUnder_mono {quiet loud : LogLevel} (less : quiet.severity.rank ≤ loud.severity.rank)
    (note : Note) (shown : shownUnder quiet note = true) : shownUnder loud note = true := by
  cases note with
  | event event => cases shown
  | printed announcement => rfl
  | logged entry =>
      simp only [shownUnder, Severity.shows, decide_eq_true_eq] at shown ⊢
      omega

/-! What a process comes to under each level. -/

structure PrintsLevel (process : Process) : Prop where
  lines : process.lines = process.shown.flatMap noteLines
  entries : process.shown.entries =
    process.trace.entries.filter fun entry => process.level.severity.shows entry.severity
  announcements : process.shown.announcements = process.trace.announcements
  errors : ∀ entry ∈ process.trace.entries, entry.severity = .error →
    noteLines (.logged entry) <:+: process.lines
  summary : process.trace.summaries ≠ [] → process.level.severity.shows .info = true →
    ∃ before after,
      process.lines = before ++ " INFO Config Settings" :: levelLine process.level :: after ∧
        process.plainLines = before ++ " INFO Config Settings" :: after
  plain : process.trace.summaries = [] ∨ process.level.severity.shows .info = false →
    process.plainLines = process.lines

theorem shown_entries (level : LogLevel) (trace : Trace) :
    Trace.entries (trace.filter (shownUnder level)) =
      trace.entries.filter fun entry => level.severity.shows entry.severity := by
  induction trace with
  | nil => rfl
  | cons note rest ih =>
      cases note with
      | event event => exact ih
      | printed announcement => exact ih
      | logged entry =>
          rw [Trace.entries_logged_cons, List.filter_cons, List.filter_cons, ← ih, shownUnder]
          split
          · rfl
          · rfl

theorem shown_announcements (level : LogLevel) (trace : Trace) :
    Trace.announcements (trace.filter (shownUnder level)) = trace.announcements := by
  induction trace with
  | nil => rfl
  | cons note rest ih =>
      cases note with
      | event event => exact ih
      | printed announcement => exact congrArg (announcement :: ·) ih
      | logged entry =>
          rw [Trace.announcements_logged_cons, List.filter_cons, ← ih]
          split
          · rfl
          · rfl

theorem plainLines_eq_noteLines {trace : Trace} (silent : trace.summaries = []) {note : Note}
    (member : note ∈ trace) : plainLines note = noteLines note := by
  cases note with
  | event | printed => rfl
  | logged entry =>
      cases entry with
      | settings config =>
          have logged : config ∈ trace.summaries :=
            List.mem_filterMap.mpr ⟨.settings config, Trace.mem_entries.mpr member, rfl⟩
          rw [silent] at logged
          cases logged
      | _ => rfl

theorem flatMap_plainLines (level : LogLevel) {trace : Trace} (silent : trace.summaries = []) :
    (trace.filter (shownUnder level)).flatMap plainLines =
      (trace.filter (shownUnder level)).flatMap noteLines :=
  List.flatMap_congr fun _ member => plainLines_eq_noteLines silent (List.mem_filter.mp member).1

inductive Leveled (config : Config) (shutdown : Shutdown) (scheduler : Lifecycle.Scheduler) : Prop
  | bare (exitCode? : Option Nat) (trace : Trace) (silent : trace.summaries = [])
      (same : ∀ arguments level, Asks arguments (config.atLevel level) →
        execute arguments shutdown scheduler = { exitCode?, level, trace })
  | summarized (exitCode? : Option Nat) (before after : Trace) (silent : before.summaries = [])
      (quiet : after.summaries = [])
      (same : ∀ arguments level, Asks arguments (config.atLevel level) →
        execute arguments shutdown scheduler =
          { exitCode?, level
            trace := before ++ .logged (.settings (config.atLevel level)) :: after })

theorem leveled (config : Config) (shutdown : Shutdown) (scheduler : Lifecycle.Scheduler) :
    Leveled config shutdown scheduler := by
  cases read : Script.ofArgs config.deviceArgs with
  | error fault =>
      refine .bare (some 1) [.logged (.badDeviceArgs (badArgsText fault))] rfl ?_
      intro arguments level asks
      exact execute_faulty shutdown scheduler asks read
  | ok script =>
      let result :=
        (run script config Lifecycle.defaultPollInterval shutdown .starting
          scheduler).result.exitCode?
      cases summarizes_run script config Lifecycle.defaultPollInterval shutdown .starting
        scheduler with
      | refused silent same =>
          refine .bare result _ silent ?_
          intro arguments level asks
          rw [execute_served shutdown scheduler asks read, same level]
          rfl
      | started before after silent quiet same =>
          refine .summarized result before after silent quiet ?_
          intro arguments level asks
          rw [execute_served shutdown scheduler asks read, same level]
          rfl

theorem infix_flatMap {trace : Trace} {note : Note} (member : note ∈ trace) :
    noteLines note <:+: trace.flatMap noteLines := by
  obtain ⟨before, after, rfl⟩ := List.append_of_mem member
  refine ⟨before.flatMap noteLines, after.flatMap noteLines, ?_⟩
  rw [List.flatMap_append, List.flatMap_cons, List.append_assoc]

inductive Summary (process : Process) : Prop
  | absent (silent : process.trace.summaries = [])
  | present (config : Config) (before after : Trace) (silent : before.summaries = [])
      (quiet : after.summaries = [])
      (trace : process.trace =
        before ++ .logged (.settings (config.atLevel process.level)) :: after)

section

variable {process : Process}

theorem plainLines_eq_lines (bare : process.output = "") (summary : Summary process)
    (hidden : process.trace.summaries = [] ∨ process.level.severity.shows .info = false) :
    process.plainLines = process.lines := by
  rw [Process.lines_eq bare]
  cases summary with
  | absent silent => exact flatMap_plainLines process.level silent
  | present config before after silent quiet trace =>
      have unshown : process.level.severity.shows .info = false := by
        rcases hidden with none | unshown
        · rw [trace, Trace.summaries_append] at none
          simp [Trace.summaries, LogEntry.settings?] at none
        · exact unshown
      rw [Process.plainLines, Process.shown, trace, List.filter_append,
        List.filter_cons_of_neg (by simp [shownUnder, LogEntry.severity, unshown]),
        List.flatMap_append, List.flatMap_append, flatMap_plainLines _ silent,
        flatMap_plainLines _ quiet]

theorem plainLines_of_summary (bare : process.output = "") (summary : Summary process)
    (told : process.trace.summaries ≠ []) (shown : process.level.severity.shows .info = true) :
    ∃ before after,
      process.lines = before ++ " INFO Config Settings" :: levelLine process.level :: after ∧
        process.plainLines = before ++ " INFO Config Settings" :: after := by
  cases summary with
  | absent silent => exact absurd silent told
  | present config before after silent quiet trace =>
      obtain ⟨rest, lines⟩ := noteLines_settings config
      have parted : process.shown = before.filter (shownUnder process.level) ++
          .logged (.settings (config.atLevel process.level)) ::
            after.filter (shownUnder process.level) := by
        have printed : shownUnder process.level
            (.logged (.settings (config.atLevel process.level))) = true := shown
        rw [Process.shown, trace, List.filter_append, List.filter_cons_of_pos printed]
      refine ⟨(before.filter (shownUnder process.level)).flatMap noteLines,
        rest ++ (after.filter (shownUnder process.level)).flatMap noteLines, ?_, ?_⟩
      · rw [Process.lines_eq bare, parted, List.flatMap_append, List.flatMap_cons, lines]
        rfl
      · rw [Process.plainLines, parted, List.flatMap_append, List.flatMap_cons, plainLines, lines,
          flatMap_plainLines _ silent, flatMap_plainLines _ quiet]
        rfl

theorem printsLevel (bare : process.output = "") (summary : Summary process) :
    PrintsLevel process where
  lines := Process.lines_eq bare
  entries := shown_entries process.level process.trace
  announcements := shown_announcements process.level process.trace
  errors := by
    intro entry member severe
    rw [Process.lines_eq bare]
    refine infix_flatMap (List.mem_filter.mpr ⟨Trace.mem_entries.mp member, ?_⟩)
    rw [shownUnder, severe, shows_error]
  summary := plainLines_of_summary bare summary
  plain := plainLines_eq_lines bare summary

end

theorem printsLevel_execute {arguments : List String} {config : Config}
    (asks : Asks arguments config) (shutdown : Shutdown) (scheduler : Lifecycle.Scheduler) :
    (execute arguments shutdown scheduler).level = config.logLevel ∧
      PrintsLevel (execute arguments shutdown scheduler) := by
  have own : Asks arguments (config.atLevel config.logLevel) := asks
  cases leveled config shutdown scheduler with
  | bare exitCode? trace silent same =>
      rw [same arguments config.logLevel own]
      exact ⟨rfl, printsLevel rfl (.absent silent)⟩
  | summarized exitCode? before after silent quiet same =>
      rw [same arguments config.logLevel own]
      exact ⟨rfl, printsLevel rfl (.present config before after silent quiet rfl)⟩

structure FilteredByLevel (config : Config) (first second : Process) : Prop where
  exitCode : second.exitCode? = first.exitCode?
  errors : second.errors = first.errors
  announcements : second.trace.announcements = first.trace.announcements
  log : second.trace = first.trace ∨ ∃ before after,
    first.trace = before ++ .logged (.settings (config.atLevel first.level)) :: after ∧
      second.trace = before ++ .logged (.settings (config.atLevel second.level)) :: after
  nested : second.level.severity.rank ≤ first.level.severity.rank →
    second.plainLines.Sublist first.plainLines

theorem sublist_shown {quiet loud : LogLevel} (less : quiet.severity.rank ≤ loud.severity.rank)
    (trace : Trace) :
    ((trace.filter (shownUnder quiet)).flatMap plainLines).Sublist
      ((trace.filter (shownUnder loud)).flatMap plainLines) :=
  (List.monotone_filter_right trace (shownUnder_mono less)).flatMap plainLines

/-- Without the line of the level it makes no difference which level the summary tells. -/
theorem plainLines_around (threshold level other : LogLevel) (config : Config)
    (before after : Trace) :
    ((before ++ .logged (.settings (config.atLevel level)) :: after).filter
        (shownUnder threshold)).flatMap plainLines =
      ((before ++ .logged (.settings (config.atLevel other)) :: after).filter
        (shownUnder threshold)).flatMap plainLines := by
  have same : shownUnder threshold (.logged (.settings (config.atLevel level))) =
      shownUnder threshold (.logged (.settings (config.atLevel other))) := rfl
  rw [List.filter_append, List.filter_append, List.filter_cons, List.filter_cons, same,
    List.flatMap_append, List.flatMap_append]
  split
  · rw [List.flatMap_cons, List.flatMap_cons, plainLines_settings config level other]
  · rfl

theorem filteredByLevel {first second : List String} {config another : Config}
    (asks : Asks first config) (asksToo : Asks second another)
    (same : another = config.atLevel another.logLevel) (shutdown : Shutdown)
    (scheduler : Lifecycle.Scheduler) :
    FilteredByLevel config (execute first shutdown scheduler)
      (execute second shutdown scheduler) := by
  have own : Asks first (config.atLevel config.logLevel) := asks
  rw [same] at asksToo
  cases leveled config shutdown scheduler with
  | bare exitCode? trace silent runs =>
      rw [runs first config.logLevel own, runs second another.logLevel asksToo]
      exact ⟨rfl, rfl, rfl, .inl rfl, fun less => sublist_shown less trace⟩
  | summarized exitCode? before after silent quiet runs =>
      rw [runs first config.logLevel own, runs second another.logLevel asksToo]
      refine ⟨rfl, rfl, ?_, .inr ⟨before, after, rfl, rfl⟩, ?_⟩
      · simp
      · intro less
        have louder := sublist_shown less
          (before ++ .logged (.settings (config.atLevel config.logLevel)) :: after)
        rw [plainLines_around another.logLevel config.logLevel another.logLevel] at louder
        exact louder

def ChooseApart (first second : List String) : Prop :=
  ∃ choices others, parse first = .ok choices ∧ parse second = .ok others ∧
    apart others = apart choices

/-- Two accepted command lines that differ in the level alone come to the same process but for what
the level filters. -/
theorem level_only_filters {first second : List String} {config another : Config}
    (asks : Asks first config) (asksToo : Asks second another) (same : ChooseApart first second)
    (shutdown : Shutdown) (scheduler : Lifecycle.Scheduler) :
    ((execute first shutdown scheduler).level = config.logLevel ∧
        PrintsLevel (execute first shutdown scheduler)) ∧
      ((execute second shutdown scheduler).level = another.logLevel ∧
        PrintsLevel (execute second shutdown scheduler)) ∧
      FilteredByLevel config (execute first shutdown scheduler)
        (execute second shutdown scheduler) := by
  obtain ⟨choices, parsed, valid⟩ := asks
  obtain ⟨others, parsedToo, validToo⟩ := asksToo
  have alike : apart others = apart choices := by
    obtain ⟨given, givenToo, reads, readsToo, alike⟩ := same
    cases parsed.symm.trans reads
    cases parsedToo.symm.trans readsToo
    exact alike
  have accepted := Options.accepted_of_validate valid
  have another_eq : another = config.atLevel another.logLevel :=
    accepted.atLevel (Options.accepted_of_validate validToo)
      (optionsOf_apart alike (optionsOf choices).logLevel)
  have asks : Asks first config := ⟨choices, parsed, valid⟩
  have asksToo : Asks second another := ⟨others, parsedToo, validToo⟩
  exact ⟨printsLevel_execute asks shutdown scheduler,
    printsLevel_execute asksToo shutdown scheduler,
    filteredByLevel asks asksToo another_eq shutdown scheduler⟩

theorem level_only_filters_failed_run :
    let loud := ["-l", "debug", "-a", "capability=9"]
    let quiet := ["-a", "capability=9", "-l", "Crit"]
    let config : Config :=
      { Config.shipped 1 with deviceArgs := "capability=9", logLevel := .debug }
    Asks loud config ∧ Asks quiet (config.atLevel .critical) ∧ ChooseApart loud quiet ∧
      (execute quiet .beforeStart Lifecycle.Scheduler.privileged).lines =
        ["ERROR Unsupported radio interface configuration (type code 9)",
          "Shutting down transceiver..."] ∧
      PrintsLevel (execute loud .beforeStart Lifecycle.Scheduler.privileged) ∧
      FilteredByLevel config (execute loud .beforeStart Lifecycle.Scheduler.privileged)
        (execute quiet .beforeStart Lifecycle.Scheduler.privileged) := by
  intro loud quiet config
  have asks : Asks loud config :=
    ⟨[.logLevel "debug", .deviceArgs "capability=9"], by decide +kernel, by decide +kernel⟩
  have asksToo : Asks quiet (config.atLevel .critical) :=
    ⟨[.deviceArgs "capability=9", .logLevel "Crit"], by decide +kernel, by decide +kernel⟩
  have same : ChooseApart loud quiet :=
    ⟨[.logLevel "debug", .deviceArgs "capability=9"],
      [.deviceArgs "capability=9", .logLevel "Crit"], by decide +kernel, by decide +kernel, rfl⟩
  have filters := level_only_filters asks asksToo same .beforeStart Lifecycle.Scheduler.privileged
  exact ⟨asks, asksToo, same, by decide +kernel, filters.1.2, filters.2.2⟩

end Program

end Transceiver
