import Transceiver.Config.Basic
import Transceiver.Text.Quoted

/-!
Checking options. The rules are tried in a fixed order and the first one violated is the answer.
EDGE and multi-ARFCN operation need four samples per symbol and force it before the rates are
looked at, and EDGE turns normal test bursts into EDGE ones.
-/

namespace Transceiver

inductive ConfigError
  | unsupportedChannelCount (channels : Nat)
  | conflictingReferences
  | unsupportedRates (tx rx : Nat)
  | invalidTrainingSequence (trainingSequence : Nat)
  | rachDelayTooLarge (delay : Nat)
  | unknownLogLevel (name : String)
  deriving DecidableEq, Repr

def ConfigError.message : ConfigError → String
  | unsupportedChannelCount channels => "Unsupported number of channels " ++ toString channels
  | conflictingReferences => "External and GPSDO references unavailable at the same time"
  | unsupportedRates tx rx =>
      "Unsupported samples-per-symbol (tx " ++ toString tx ++ ", rx " ++ toString rx ++ ")"
  | invalidTrainingSequence trainingSequence =>
      "Invalid training sequence " ++ toString trainingSequence
  | rachDelayTooLarge delay => "RACH delay is too big " ++ toString delay
  | unknownLogLevel name =>
      "Unknown log level " ++ String.ofList (Text.quoted name.toList)

namespace Options

def maxMultiArfcnChannels : Nat := 5

def maxTrainingSequence : Nat := 7

def maxRachDelay : Nat := 68

def forcesRates (options : Options) : Bool :=
  options.edge || options.multiArfcn

def effectiveTxRate (options : Options) : Nat :=
  if options.forcesRates then 4 else options.txRate

def effectiveRxRate (options : Options) : Nat :=
  if options.forcesRates then 4 else options.rxRate

def effectiveFiller (options : Options) : Filler :=
  if options.edge && options.filler = .normalRandom then .edgeRandom else options.filler

def reference (options : Options) : Reference :=
  if options.externalReference then .external
  else if options.gpsReference then .gps
  else .internal

def validate (options : Options) : Except ConfigError Config :=
  if options.multiArfcn && maxMultiArfcnChannels < options.channels then
    .error (.unsupportedChannelCount options.channels)
  else if options.externalReference && options.gpsReference then
    .error .conflictingReferences
  else
    match Rate.ofSamples? options.effectiveTxRate, Rate.ofSamples? options.effectiveRxRate with
    | some txRate, some rxRate =>
        if maxTrainingSequence < options.trainingSequence then
          .error (.invalidTrainingSequence options.trainingSequence)
        else if maxRachDelay < options.rachDelay then
          .error (.rachDelayTooLarge options.rachDelay)
        else
          match LogLevel.read options.logLevel with
          | none => .error (.unknownLogLevel options.logLevel)
          | some logLevel =>
              .ok {
                logLevel
                deviceArgs := options.deviceArgs
                localAddress := options.localAddress
                remoteAddress := options.remoteAddress
                port := options.port
                txRate
                rxRate
                channels := options.channels
                trainingSequence := UInt8.ofNat options.trainingSequence
                rachDelay := UInt8.ofNat options.rachDelay
                reference := options.reference
                filler := options.effectiveFiller
                multiArfcn := options.multiArfcn
                offset := options.offset
                rssiOffset := options.rssiOffset
                swapChannels := options.swapChannels
                edge := options.edge
                priority := options.priority }
    | _, _ => .error (.unsupportedRates options.effectiveTxRate options.effectiveRxRate)

end Options

end Transceiver
