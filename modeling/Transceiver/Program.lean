import Transceiver.Bootstrap
import Transceiver.CommandLine.Parse
import Transceiver.Config.Validate

/-!
The program as a whole: from the words of a command line to an exit code, what is printed, and what
is reported as an error. Usage, help and rejected configurations end the program with code zero.
-/

namespace Transceiver.Program

open Bootstrap CommandLine

inductive Request
  | query (query : Query)
  | misused (error : UsageError)
  | rejected (error : ConfigError)
  | serve (config : Config)
  deriving DecidableEq, Repr

def Request.ofArguments (arguments : List String) : Request :=
  match parse arguments with
  | .error (.query asked) => .query asked
  | .error (.error error) => .misused error
  | .ok choices =>
      match (optionsOf choices).validate with
      | .ok config => .serve config
      | .error error => .rejected error

def badArgsHeading : String := "invalid mock device arguments"

def serve (config : Config) (shutdown : Shutdown)
    (scheduler : Lifecycle.Scheduler := Lifecycle.Scheduler.privileged) : Except Fault Run :=
  (Script.ofArgs config.deviceArgs).map fun script =>
    run script config Lifecycle.defaultPollInterval shutdown .starting scheduler

def badArgsText (fault : Fault) : String :=
  badArgsHeading ++ ": " ++ fault.message

def rejectionReport (error : ConfigError) : String :=
  let hint :=
    match error with
    | .unknownLogLevel _ => "Valid levels: " ++ LogLevel.names ++ "\n"
    | _ => ""
  error.message ++ "\n" ++ hint ++ "\n"

structure Process where
  exitCode? : Option Nat
  level : LogLevel := default
  output : String := ""
  trace : Trace := []
  errors : String := ""

def execute (arguments : List String) (shutdown : Shutdown)
    (scheduler : Lifecycle.Scheduler := Lifecycle.Scheduler.privileged) : Process :=
  match Request.ofArguments arguments with
  | .query query => { exitCode? := some 0, output := query.answer }
  | .misused error => { exitCode? := some 0, errors := error.report .stream }
  | .rejected error =>
      { exitCode? := some 0, output := helpText, errors := rejectionReport error }
  | .serve config =>
      match serve config shutdown scheduler with
      | .ok run =>
          { exitCode? := run.result.exitCode?, level := config.logLevel, trace := run.trace }
      | .error fault =>
          { exitCode? := some 1
            level := config.logLevel
            trace := [.logged (.badDeviceArgs (badArgsText fault))] }

def alignedSeverity (severity : Severity) : String :=
  String.ofList (List.replicate (5 - severity.name.length) ' ') ++ severity.name

/-- A log entry as it is printed, with the controls in its text spelled out, but without the time
stamp in front and the colours of a terminal. -/
def logLine (entry : LogEntry) : String :=
  alignedSeverity entry.severity ++ " " ++ String.ofList (Text.spellControls entry.text.toList)

def noteText? (level : LogLevel) : Note → Option String
  | .event _ => none
  | .printed announcement => some announcement.text
  | .logged entry =>
      if level.severity.shows entry.severity then some (logLine entry) else none

def shownTexts (level : LogLevel) (trace : Trace) : List String :=
  trace.filterMap (noteText? level)

def Process.printed (process : Process) : String :=
  (shownTexts process.level process.trace).foldl (fun text shown => text ++ shown ++ "\n")
    process.output

def Process.lines (process : Process) : List String :=
  (Text.lines process.printed.toList).map String.ofList

end Transceiver.Program
