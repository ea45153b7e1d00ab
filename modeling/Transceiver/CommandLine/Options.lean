import Transceiver.Address.Reader
import Transceiver.Number.Nearest
import Transceiver.Number.Whole
import Transceiver.Options

/-!
The options of the command line: their letters, the names of their values, and how a value is read.
A `Switch` takes no value and a `Field` takes one; a `Choice` is either of them as it was given.
-/

namespace Transceiver.CommandLine

open Number (Binary64)

inductive Switch
  | edge
  | multiArfcn
  | externalReference
  | gpsReference
  | fillerTable
  | swapChannels
  deriving DecidableEq, Repr

inductive Field
  | deviceArgs
  | logLevel
  | remoteAddress
  | localAddress
  | port
  | txRate
  | rxRate
  | channels
  | offset
  | trainingSequence
  | rachDelay
  | rssiOffset
  | priority
  deriving DecidableEq, Repr

inductive Query
  | help
  | version
  deriving DecidableEq, Repr

inductive Letter
  | switch (switch : Switch)
  | field (field : Field)
  | query (query : Query)
  deriving DecidableEq, Repr

def Letter.ofChar? : Char → Option Letter
  | 'a' => some (.field .deviceArgs)
  | 'l' => some (.field .logLevel)
  | 'i' => some (.field .remoteAddress)
  | 'j' => some (.field .localAddress)
  | 'p' => some (.field .port)
  | 'e' => some (.switch .edge)
  | 'm' => some (.switch .multiArfcn)
  | 'x' => some (.switch .externalReference)
  | 'g' => some (.switch .gpsReference)
  | 's' => some (.field .txRate)
  | 'b' => some (.field .rxRate)
  | 'c' => some (.field .channels)
  | 'f' => some (.switch .fillerTable)
  | 'o' => some (.field .offset)
  | 'r' => some (.field .trainingSequence)
  | 'A' => some (.field .rachDelay)
  | 'R' => some (.field .rssiOffset)
  | 'S' => some (.switch .swapChannels)
  | 't' => some (.field .priority)
  | 'h' => some (.query .help)
  | 'V' => some (.query .version)
  | _ => none

def Switch.usage : Switch → String
  | edge => "-e"
  | multiArfcn => "-m"
  | externalReference => "-x"
  | gpsReference => "-g"
  | fillerTable => "-f"
  | swapChannels => "-S"

namespace Field

def usage : Field → String
  | deviceArgs => "-a <ARGS>"
  | logLevel => "-l <LEVEL>"
  | remoteAddress => "-i <ADDR>"
  | localAddress => "-j <ADDR>"
  | port => "-p <PORT>"
  | txRate => "-s <SPS>"
  | rxRate => "-b <SPS>"
  | channels => "-c <CHANS>"
  | offset => "-o <HZ>"
  | trainingSequence => "-r <TSC>"
  | rachDelay => "-A <DELAY>"
  | rssiOffset => "-R <DB>"
  | priority => "-t <PRIO>"

def takesNegative : Field → Bool
  | offset | rssiOffset => true
  | _ => false

end Field

def Query.word : Query → String
  | help => "help"
  | version => "version"

def Letter.usage : Letter → String
  | .switch given => given.usage
  | .field given => given.usage
  | .query given => "--" ++ given.word

inductive Choice
  | switch (switch : Switch)
  | deviceArgs (text : String)
  | logLevel (name : String)
  | remoteAddress (address : Address)
  | localAddress (address : Address)
  | port (number : UInt16)
  | txRate (samples : Nat)
  | rxRate (samples : Nat)
  | channels (count : Nat)
  | offset (hertz : Binary64)
  | trainingSequence (number : Nat)
  | rachDelay (symbols : Nat)
  | rssiOffset (decibels : Binary64)
  | priority (level : Int)
  deriving DecidableEq, Repr

namespace Choice

def letter : Choice → Letter
  | switch given => .switch given
  | deviceArgs _ => .field .deviceArgs
  | logLevel _ => .field .logLevel
  | remoteAddress _ => .field .remoteAddress
  | localAddress _ => .field .localAddress
  | port _ => .field .port
  | txRate _ => .field .txRate
  | rxRate _ => .field .rxRate
  | channels _ => .field .channels
  | offset _ => .field .offset
  | trainingSequence _ => .field .trainingSequence
  | rachDelay _ => .field .rachDelay
  | rssiOffset _ => .field .rssiOffset
  | priority _ => .field .priority

def setting : Choice → Setting
  | switch .edge => .edge true
  | switch .multiArfcn => .multiArfcn true
  | switch .externalReference => .externalReference true
  | switch .gpsReference => .gpsReference true
  | switch .fillerTable => .fillerTable
  | switch .swapChannels => .swapChannels true
  | deviceArgs text => .deviceArgs text
  | logLevel name => .logLevel name
  | remoteAddress address => .remoteAddress address
  | localAddress address => .localAddress address
  | port number => .port number
  | txRate samples => .txRate samples
  | rxRate samples => .rxRate samples
  | channels count => .channels count
  | offset hertz => .offset hertz
  | trainingSequence number => .normalBurstTest number
  | rachDelay symbols => .accessBurstTest symbols
  | rssiOffset decibels => .rssiOffset decibels
  | priority level => .priority level

/-- How late an option is applied. Those that choose the filler come last, access bursts after
normal bursts after the filler table, so that the later one prevails. -/
def turn : Choice → Nat
  | switch .fillerTable => 1
  | trainingSequence _ => 2
  | rachDelay _ => 3
  | _ => 0

end Choice

def readRanged (least greatest : Int) (text : List Char) : Except String Int :=
  match Number.readInteger (2 ^ 63 - 1) text with
  | .error fault => .error fault.message
  | .ok value =>
      if least ≤ value && value ≤ greatest then .ok value
      else
        .error (toString value ++ " is not in " ++ toString least ++ "..=" ++ toString greatest)

def readWord (text : List Char) : Except String Nat :=
  (readRanged 0 (2 ^ 32 - 1) text).map Int.toNat

def readAddress (text : List Char) : Except String Address :=
  match Address.read text with
  | some address => .ok address
  | none => .error Address.syntaxMessage

def readCount (text : List Char) : Except String Nat :=
  (Number.readNatural (2 ^ 64 - 1) text).mapError Number.WholeFault.message

def readReal (text : List Char) : Except String Binary64 :=
  (Number.readBinary64 text).mapError Number.FloatFault.message

def Field.read (field : Field) (text : List Char) : Except String Choice :=
  match field with
  | .deviceArgs => .ok (.deviceArgs (String.ofList text))
  | .logLevel => .ok (.logLevel (String.ofList text))
  | .remoteAddress => (readAddress text).map .remoteAddress
  | .localAddress => (readAddress text).map .localAddress
  | .port => (readRanged 0 65535 text).map fun number => .port (UInt16.ofNat number.toNat)
  | .txRate => (readWord text).map .txRate
  | .rxRate => (readWord text).map .rxRate
  | .channels => (readCount text).map .channels
  | .offset => (readReal text).map .offset
  | .trainingSequence => (readWord text).map .trainingSequence
  | .rachDelay => (readWord text).map .rachDelay
  | .rssiOffset => (readReal text).map .rssiOffset
  | .priority => (readRanged (-2 ^ 31) (2 ^ 31 - 1) text).map .priority

def optionsOf (choices : List Choice) : Options :=
  let taken (turn : Nat) := choices.filter (·.turn = turn)
  Options.ofSettings ((taken 0 ++ taken 1 ++ taken 2 ++ taken 3).map Choice.setting)

end Transceiver.CommandLine
