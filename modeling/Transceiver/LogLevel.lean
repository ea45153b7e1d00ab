import Transceiver.Text.Blank
import Transceiver.Text.Uppercase

/-!
The operator's log levels and the coarser severities of log entries. Level names are read without
surrounding blanks and in any letter case; a few have two names.
-/

namespace Transceiver

inductive Severity
  | error
  | warning
  | info
  | debug
  deriving DecidableEq, Repr

namespace Severity

def name : Severity → String
  | error => "ERROR"
  | warning => "WARN"
  | info => "INFO"
  | debug => "DEBUG"

def rank : Severity → Nat
  | error => 0
  | warning => 1
  | info => 2
  | debug => 3

def shows (threshold entry : Severity) : Bool :=
  entry.rank ≤ threshold.rank

end Severity

inductive LogLevel
  | emergency
  | alert
  | critical
  | error
  | warning
  | notice
  | info
  | debug
  deriving DecidableEq, Repr

instance : Inhabited LogLevel := ⟨.notice⟩

namespace LogLevel

def name : LogLevel → String
  | emergency => "EMERG"
  | alert => "ALERT"
  | critical => "CRT"
  | error => "ERR"
  | warning => "WARNING"
  | notice => "NOTICE"
  | info => "INFO"
  | debug => "DEBUG"

def severity : LogLevel → Severity
  | emergency | alert | critical | error => .error
  | warning => .warning
  | notice | info => .info
  | debug => .debug

def ofName? : String → Option LogLevel
  | "EMERG" => some emergency
  | "ALERT" => some alert
  | "CRT" | "CRIT" => some critical
  | "ERR" | "ERROR" => some error
  | "WARNING" | "WARN" => some warning
  | "NOTICE" => some notice
  | "INFO" => some info
  | "DEBUG" => some debug
  | _ => none

def read (text : String) : Option LogLevel :=
  ofName? (String.ofList (Text.upper (Text.trim text.toList)))

def all : List LogLevel := [emergency, alert, critical, error, warning, notice, info, debug]

def names : String := ", ".intercalate (all.map name)

def unknownMessage (text : String) : String := "unknown log level: " ++ text

structure Unknown where
  text : String
  deriving DecidableEq, Repr

def Unknown.message (unknown : Unknown) : String := unknownMessage unknown.text

def parse (text : String) : Except Unknown LogLevel :=
  match read text with
  | some level => .ok level
  | none => .error ⟨text⟩

end LogLevel

end Transceiver
