import Transceiver.CommandLine.Options
import Transceiver.Text.ControlSequence
import Transceiver.Text.Similarity

/-!
What the command line answers by itself: the help text, the version, and the errors of usage.
-/

namespace Transceiver.CommandLine

def programName : String := "trxd"

def versionText : String := programName ++ " 0.1.0\n"

def usageOf (options : List String) : String :=
  options.foldl (fun line option => line ++ " " ++ option) ("Usage: " ++ programName)

def usageLine : String := usageOf ["[OPTIONS]"]

def runLetters : List Letter :=
  [.field .deviceArgs, .field .logLevel, .field .remoteAddress, .field .localAddress, .field .port,
    .switch .edge, .switch .multiArfcn, .switch .externalReference, .switch .gpsReference,
    .field .txRate, .field .rxRate, .field .channels, .switch .fillerTable, .field .offset,
    .field .trainingSequence, .field .rachDelay, .field .rssiOffset, .switch .swapChannels,
    .field .priority]

def alternatives : String :=
  "<" ++ "|".intercalate (runLetters.map Letter.usage) ++ ">"

def helpEntries : List (String × String) :=
  [("-a <ARGS>     ",
      "Device args (mock script: capability=<n>, fail-open, missing-fifo=<n>, ...)"),
    ("-l <LEVEL>    ", "Logging level (" ++ LogLevel.names ++ ")"),
    ("-i <ADDR>     ", "Remote address of the GSM core"),
    ("-j <ADDR>     ", "Bind to this address"),
    ("-p <PORT>     ", "Base port number"),
    ("-e            ", "Enable EDGE receiver"),
    ("-m            ", "Enable multi-ARFCN transceiver"),
    ("-x            ", "Enable external 10 MHz reference"),
    ("-g            ", "Enable GPSDO reference"),
    ("-s <SPS>      ", "Tx samples-per-symbol (1 or 4)"),
    ("-b <SPS>      ", "Rx samples-per-symbol (1 or 4)"),
    ("-c <CHANS>    ", "Number of ARFCN channels"),
    ("-f            ", "Enable C0 filler table"),
    ("-o <HZ>       ", "Baseband frequency offset in Hz"),
    ("-r <TSC>      ", "Random normal burst test mode with given TSC"),
    ("-A <DELAY>    ", "Random access burst test mode with given delay"),
    ("-R <DB>       ", "RSSI to dBm offset in dB"),
    ("-S            ", "Swap channels (UmTRX only)"),
    ("-t <PRIO>     ", "SCHED_RR real-time priority (1..99)"),
    ("-h, --help    ", "Print help"),
    ("-V, --version ", "Print version")]

def helpText : String :=
  helpEntries.foldl (fun text (option, purpose) => text ++ "  " ++ option ++ " " ++ purpose ++ "\n")
    (programName ++ " -- multi-channel GSM transceiver bootstrap\n\n" ++ usageLine ++
      "\n\nOptions:\n")

def Query.answer : Query → String
  | help => helpText
  | version => versionText

def leastSimilarity : Text.Share := ⟨7, 10⟩

def closer (word : List Char) (first second : Query) : Query :=
  let similarityTo (query : Query) := Text.similarity word query.word.toList
  if (similarityTo first).atMost (similarityTo second) then second else first

def Query.meantBy? (word : List Char) : Option Query :=
  let close := [Query.help, Query.version].filter fun query =>
    leastSimilarity.atMost (Text.similarity word query.word.toList)
  match close with
  | [] => none
  | query :: others => some (others.foldl (closer word) query)

inductive UsageError
  /-- A word that cannot stand on its own, or a letter without a meaning. -/
  | unknownArgument (argument : String)
  /-- An unknown word behind two dashes, with the options given before it and the query that it may
  have meant. -/
  | unknownWord (word : String) (given : List Letter) (meant : Option Query)
  | missingValue (field : Field)
  | repeatedSwitch (switch : Switch)
  | repeatedField (field : Field)
  | invalidValue (field : Field) (value : String) (reason : String)
  /-- A value attached to a query, which may stand behind other options. -/
  | unexpectedValue (query : Query) (value : String) (afterOptions : Bool)
  deriving DecidableEq, Repr

namespace UsageError

def repeated (outlet : Text.Outlet) (text : String) : String :=
  "'" ++ String.ofList (Text.withoutControls outlet text.toList) ++ "'"

def message (outlet : Text.Outlet) : UsageError → String
  | unknownArgument argument =>
      "error: unexpected argument " ++ repeated outlet argument ++ " found"
  | unknownWord word _ _ =>
      "error: unexpected argument " ++ repeated outlet ("--" ++ word) ++ " found"
  | missingValue field =>
      "error: a value is required for '" ++ field.usage ++ "' but none was supplied"
  | repeatedSwitch switch =>
      "error: the argument '" ++ switch.usage ++ "' cannot be used multiple times"
  | repeatedField field =>
      "error: the argument '" ++ field.usage ++ "' cannot be used multiple times"
  | invalidValue field value reason =>
      "error: invalid value " ++ repeated outlet value ++ " for '" ++ field.usage ++ "': " ++ reason
  | unexpectedValue query value _ =>
      "error: unexpected value " ++ repeated outlet value ++ " for '--" ++ query.word ++
        "' found; no more were expected"

def tip? : UsageError → Option String
  | unknownWord _ _ (some query) =>
      some ("  tip: a similar argument exists: '--" ++ query.word ++ "'")
  | _ => none

def usage? : UsageError → Option String
  | unknownArgument _ | repeatedSwitch _ | repeatedField _ => some usageLine
  | unknownWord _ given meant =>
      match given ++ (meant.map Letter.query).toList with
      | [] => some usageLine
      | shown => some (usageOf (shown.map Letter.usage))
  | unexpectedValue query _ afterOptions =>
      some (usageOf ((Letter.query query).usage :: if afterOptions then [alternatives] else []))
  | missingValue _ | invalidValue _ _ _ => none

def report (outlet : Text.Outlet) (error : UsageError) : String :=
  let paragraphs := error.message outlet :: (error.tip?.toList ++ error.usage?.toList)
  paragraphs.foldr (fun paragraph rest => paragraph ++ "\n\n" ++ rest)
    "For more information, try '--help'.\n"

end UsageError

end Transceiver.CommandLine
