import Transceiver.Config.Validate

/-!
Accepted options: the rules they keep and the configuration they stand for.
-/

namespace Transceiver

structure Options.Accepted (options : Options) (config : Config) : Prop where
  channelLimit : options.multiArfcn = true → options.channels ≤ Options.maxMultiArfcnChannels
  oneReference : ¬(options.externalReference = true ∧ options.gpsReference = true)
  txRate : Rate.ofSamples? options.effectiveTxRate = some config.txRate
  rxRate : Rate.ofSamples? options.effectiveRxRate = some config.rxRate
  trainingSequence : options.trainingSequence ≤ Options.maxTrainingSequence
  rachDelay : options.rachDelay ≤ Options.maxRachDelay
  logLevel : LogLevel.read options.logLevel = some config.logLevel
  config_eq : config = {
    logLevel := config.logLevel
    deviceArgs := options.deviceArgs
    localAddress := options.localAddress
    remoteAddress := options.remoteAddress
    port := options.port
    txRate := config.txRate
    rxRate := config.rxRate
    channels := options.channels
    trainingSequence := UInt8.ofNat options.trainingSequence
    rachDelay := UInt8.ofNat options.rachDelay
    reference := options.reference
    filler := options.effectiveFiller
    multiArfcn := options.multiArfcn
    offset := options.offset
    rssiOffset := options.rssiOffset
    swapChannels := options.swapChannels
    edge := options.edge
    priority := options.priority }

namespace Options

variable {options : Options} {config : Config}

theorem accepted_of_validate (valid : options.validate = .ok config) :
    options.Accepted config := by
  unfold validate at valid
  split at valid
  next => cases valid
  next channelLimit =>
    split at valid
    next => cases valid
    next oneReference =>
      split at valid
      next txRate rxRate txFound rxFound =>
        split at valid
        next => cases valid
        next trainingSequence =>
          split at valid
          next => cases valid
          next rachDelay =>
            split at valid
            next => cases valid
            next logLevel read =>
              cases valid
              constructor
              · simpa using channelLimit
              · simpa using oneReference
              · exact txFound
              · exact rxFound
              · exact Nat.le_of_not_lt trainingSequence
              · exact Nat.le_of_not_lt rachDelay
              · exact read
              · rfl
      next => cases valid

theorem Accepted.multiArfcn_limits (accepted : options.Accepted config)
    (multiArfcn : config.multiArfcn = true) :
    config.channels ≤ maxMultiArfcnChannels ∧ config.txRate = .four ∧ config.rxRate = .four := by
  have requested : options.multiArfcn = true := by
    rw [accepted.config_eq] at multiArfcn
    exact multiArfcn
  have forced : options.forcesRates = true := by simp [forcesRates, requested]
  have txRate := accepted.txRate
  have rxRate := accepted.rxRate
  simp only [effectiveTxRate, effectiveRxRate, forced, if_true] at txRate rxRate
  refine ⟨?_, ?_, ?_⟩
  · rw [accepted.config_eq]
    exact accepted.channelLimit requested
  · exact (Option.some.inj txRate).symm
  · exact (Option.some.inj rxRate).symm

end Options

def Config.shipped (channels : Nat) : Config where
  logLevel := default
  deviceArgs := ""
  localAddress := Address.loopback
  remoteAddress := Address.loopback
  port := 5700
  txRate := .four
  rxRate := .one
  channels
  trainingSequence := 0
  rachDelay := 0
  reference := .internal
  filler := default
  multiArfcn := false
  offset := .zero
  rssiOffset := .zero
  swapChannels := false
  edge := false
  priority := none

theorem Options.validate_channels (channels : Nat) :
    ({ channels } : Options).validate = .ok (Config.shipped channels) := by
  have level : LogLevel.read (LogLevel.name default) = some default := by rfl
  simp [validate, effectiveTxRate, effectiveRxRate, forcesRates, Rate.ofSamples?, level,
    reference, effectiveFiller, Config.shipped, maxTrainingSequence, maxRachDelay]

end Transceiver
