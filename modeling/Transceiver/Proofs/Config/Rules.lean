import Transceiver.Proofs.Config.Settings
import Transceiver.Proofs.Config.Validate

/-!
The rules of a configuration. Settings are accepted exactly if every rule holds of what they wrote
last, the first rule violated is the error, and an accepted configuration carries what was asked for
into every later stage.
-/

namespace Transceiver

namespace Rate

theorem samples_mem (rate : Rate) : rate.samples ∈ [1, 4] := by
  cases rate with
  | _ => decide

theorem samples_of_ofSamples? {samples : Nat} {rate : Rate}
    (found : ofSamples? samples = some rate) : rate.samples = samples := by
  unfold ofSamples? at found
  split at found
  · cases found
    rfl
  · cases found
    rfl
  · cases found

theorem ofSamples?_eq_none_iff {samples : Nat} :
    ofSamples? samples = none ↔ samples ∉ [1, 4] := by
  unfold ofSamples?
  split
  · simp
  · simp
  · next notOne notFour => simpa using ⟨notOne, notFour⟩

end Rate

namespace Options

inductive Rule
  | channelLimit
  | oneReference
  | supportedRates
  | trainingSequence
  | rachDelay
  | logLevel
  deriving DecidableEq, Repr

namespace Rule

def inOrder : List Rule :=
  [channelLimit, oneReference, supportedRates, trainingSequence, rachDelay, logLevel]

def Holds (options : Options) : Rule → Prop
  | channelLimit => options.multiArfcn = true → options.channels ≤ 5
  | oneReference => ¬(options.externalReference = true ∧ options.gpsReference = true)
  | supportedRates =>
      (options.edge = true ∨ options.multiArfcn = true) ∨
        options.txRate ∈ [1, 4] ∧ options.rxRate ∈ [1, 4]
  | trainingSequence => options.trainingSequence ≤ 7
  | rachDelay => options.rachDelay ≤ 68
  | logLevel => (LogLevel.read options.logLevel).isSome = true

instance (options : Options) (rule : Rule) : Decidable (rule.Holds options) :=
  match rule with
  | channelLimit => inferInstanceAs (Decidable (_ → _))
  | oneReference => inferInstanceAs (Decidable (¬_))
  | supportedRates => inferInstanceAs (Decidable (_ ∨ _))
  | trainingSequence => inferInstanceAs (Decidable (_ ≤ _))
  | rachDelay => inferInstanceAs (Decidable (_ ≤ _))
  | logLevel => inferInstanceAs (Decidable (_ = true))

def error (options : Options) : Rule → ConfigError
  | channelLimit => .unsupportedChannelCount options.channels
  | oneReference => .conflictingReferences
  | supportedRates => .unsupportedRates options.txRate options.rxRate
  | trainingSequence => .invalidTrainingSequence options.trainingSequence
  | rachDelay => .rachDelayTooLarge options.rachDelay
  | logLevel => .unknownLogLevel options.logLevel

theorem mem_inOrder (rule : Rule) : rule ∈ inOrder := by
  cases rule with
  | _ => decide

end Rule

def firstViolated? (options : Options) : Option Rule :=
  Rule.inOrder.find? fun rule => ¬rule.Holds options

theorem firstViolated?_eq_none_iff {options : Options} :
    options.firstViolated? = none ↔ ∀ rule : Rule, rule.Holds options := by
  simp [firstViolated?, List.find?_eq_none, Rule.mem_inOrder]

section Validation

variable {options : Options} {config : Config} {error : ConfigError}

theorem forcesRates_iff :
    options.forcesRates = true ↔ options.edge = true ∨ options.multiArfcn = true := by
  simp [forcesRates]

theorem effectiveRates_of_free (free : options.forcesRates ≠ true) :
    options.effectiveTxRate = options.txRate ∧ options.effectiveRxRate = options.rxRate := by
  simp [effectiveTxRate, effectiveRxRate, free]

theorem supportedRates_of_found {tx rx : Rate}
    (txFound : Rate.ofSamples? options.effectiveTxRate = some tx)
    (rxFound : Rate.ofSamples? options.effectiveRxRate = some rx) :
    Rule.supportedRates.Holds options := by
  by_cases forced : options.forcesRates = true
  · exact .inl (forcesRates_iff.mp forced)
  · obtain ⟨txRaw, rxRaw⟩ := effectiveRates_of_free forced
    refine .inr ⟨?_, ?_⟩
    · rw [← txRaw, ← Rate.samples_of_ofSamples? txFound]
      exact Rate.samples_mem tx
    · rw [← rxRaw, ← Rate.samples_of_ofSamples? rxFound]
      exact Rate.samples_mem rx

theorem holds_of_accepted (accepted : options.Accepted config) (rule : Rule) :
    rule.Holds options := by
  cases rule with
  | channelLimit => exact accepted.channelLimit
  | oneReference => exact accepted.oneReference
  | supportedRates => exact supportedRates_of_found accepted.txRate accepted.rxRate
  | trainingSequence => exact accepted.trainingSequence
  | rachDelay => exact accepted.rachDelay
  | logLevel => simp [Rule.Holds, accepted.logLevel]

theorem unsupportedRates_raw
    (missing : ∀ tx rx, Rate.ofSamples? options.effectiveTxRate = some tx →
      Rate.ofSamples? options.effectiveRxRate = some rx → False) :
    ¬Rule.supportedRates.Holds options ∧ options.effectiveTxRate = options.txRate ∧
      options.effectiveRxRate = options.rxRate := by
  by_cases forced : options.forcesRates = true
  · exact (missing .four .four (by simp [effectiveTxRate, forced, Rate.ofSamples?])
      (by simp [effectiveRxRate, forced, Rate.ofSamples?])).elim
  · obtain ⟨txRaw, rxRaw⟩ := effectiveRates_of_free forced
    rw [txRaw, rxRaw] at missing
    refine ⟨?_, txRaw, rxRaw⟩
    rintro (forces | ⟨tx, rx⟩)
    · exact forced (forcesRates_iff.mpr forces)
    · cases txFound : Rate.ofSamples? options.txRate with
      | none => exact Rate.ofSamples?_eq_none_iff.mp txFound tx
      | some txRate =>
          cases rxFound : Rate.ofSamples? options.rxRate with
          | none => exact Rate.ofSamples?_eq_none_iff.mp rxFound rx
          | some rxRate => exact missing txRate rxRate txFound rxFound

theorem firstViolated?_of_rejected (rejected : options.validate = .error error) :
    ∃ rule, options.firstViolated? = some rule ∧ rule.error options = error := by
  unfold validate at rejected
  split at rejected
  next tooMany =>
    cases rejected
    have violated : ¬Rule.channelLimit.Holds options := by
      simp only [Bool.and_eq_true, decide_eq_true_eq] at tooMany
      exact fun holds => Nat.not_le.mpr tooMany.2 (holds tooMany.1)
    exact ⟨.channelLimit, by simp [firstViolated?, Rule.inOrder, violated], rfl⟩
  next fewEnough =>
    have channelLimit : Rule.channelLimit.Holds options := by
      simp only [Bool.and_eq_true, decide_eq_true_eq, not_and, Nat.not_lt] at fewEnough
      exact fewEnough
    split at rejected
    next both =>
      cases rejected
      have violated : ¬Rule.oneReference.Holds options := by simpa [Rule.Holds] using both
      exact ⟨.oneReference, by simp [firstViolated?, Rule.inOrder, channelLimit, violated], rfl⟩
    next notBoth =>
      have oneReference : Rule.oneReference.Holds options := by simpa [Rule.Holds] using notBoth
      split at rejected
      next txRate rxRate txFound rxFound =>
        have supportedRates := supportedRates_of_found txFound rxFound
        split at rejected
        next tooLarge =>
          cases rejected
          have violated : ¬Rule.trainingSequence.Holds options := Nat.not_le.mpr tooLarge
          exact ⟨.trainingSequence, by
            simp [firstViolated?, Rule.inOrder, channelLimit, oneReference, supportedRates,
              violated], rfl⟩
        next smallEnough =>
          have trainingSequence : Rule.trainingSequence.Holds options := Nat.not_lt.mp smallEnough
          split at rejected
          next tooLong =>
            cases rejected
            have violated : ¬Rule.rachDelay.Holds options := Nat.not_le.mpr tooLong
            exact ⟨.rachDelay, by
              simp [firstViolated?, Rule.inOrder, channelLimit, oneReference, supportedRates,
                trainingSequence, violated], rfl⟩
          next shortEnough =>
            have rachDelay : Rule.rachDelay.Holds options := Nat.not_lt.mp shortEnough
            split at rejected
            next unknown =>
              cases rejected
              have violated : ¬Rule.logLevel.Holds options := by simp [Rule.Holds, unknown]
              exact ⟨.logLevel, by
                simp [firstViolated?, Rule.inOrder, channelLimit, oneReference, supportedRates,
                  trainingSequence, rachDelay, violated], rfl⟩
            next => cases rejected
      next missing =>
        cases rejected
        obtain ⟨violated, tx, rx⟩ := unsupportedRates_raw missing
        exact ⟨.supportedRates, by
          simp [firstViolated?, Rule.inOrder, channelLimit, oneReference, violated], by
          rw [tx, rx]
          rfl⟩

theorem validate_eq_ok_iff :
    (∃ config, options.validate = .ok config) ↔ ∀ rule : Rule, rule.Holds options := by
  constructor
  · rintro ⟨config, valid⟩
    exact holds_of_accepted (accepted_of_validate valid)
  · intro holds
    cases outcome : options.validate with
    | ok config => exact ⟨config, rfl⟩
    | error error =>
        obtain ⟨rule, first, _⟩ := firstViolated?_of_rejected outcome
        rw [firstViolated?_eq_none_iff.mpr holds] at first
        cases first

theorem validate_eq_error_iff :
    options.validate = .error error ↔
      ∃ rule, options.firstViolated? = some rule ∧ rule.error options = error := by
  constructor
  · exact firstViolated?_of_rejected
  · rintro ⟨rule, first, rfl⟩
    cases outcome : options.validate with
    | ok config =>
        have holds := holds_of_accepted (accepted_of_validate outcome)
        rw [firstViolated?_eq_none_iff.mpr holds] at first
        cases first
    | error error =>
        obtain ⟨other, same, rfl⟩ := firstViolated?_of_rejected outcome
        rw [first] at same
        cases same
        rfl

theorem validate_of_forced (forced : options.edge = true ∨ options.multiArfcn = true)
    (tx rx : Nat) : { options with txRate := tx, rxRate := rx }.validate = options.validate := by
  have forces : options.forcesRates = true := forcesRates_iff.mpr forced
  have forcesToo : { options with txRate := tx, rxRate := rx }.forcesRates = true := forces
  simp only [validate, effectiveTxRate, effectiveRxRate, forces, forcesToo, if_true]
  rfl

structure CarriedOut (options : Options) (settings : List Setting) (config : Config) : Prop where
  rates : (config.txRate.samples, config.rxRate.samples) =
    if options.edge = true ∨ options.multiArfcn = true then (4, 4)
    else (options.txRate, options.rxRate)
  supported : config.txRate.samples ∈ [1, 4] ∧ config.rxRate.samples ∈ [1, 4]
  trainingSequence : config.trainingSequence.toNat = options.trainingSequence ∧
    options.trainingSequence = Setting.lastChoice Setting.trainingSequence? 0 settings
  rachDelay : config.rachDelay.toNat = options.rachDelay ∧
    options.rachDelay = Setting.lastChoice Setting.rachDelay? 0 settings
  external : config.reference = .external ↔ options.externalReference = true
  gps : config.reference = .gps ↔ options.gpsReference = true
  internal : config.reference = .internal ↔
    options.externalReference = false ∧ options.gpsReference = false
  filler : config.filler =
    let chosen := Setting.lastChoice Setting.filler? .zero settings
    if chosen = .normalRandom ∧ config.edge = true then .edgeRandom else chosen
  edgeRandom : config.filler = .edgeRandom → config.edge = true
  normalRandom : config.filler = .normalRandom → config.edge = false
  logLevel : LogLevel.read options.logLevel = some config.logLevel
  unchanged :
    (config.deviceArgs, config.localAddress, config.remoteAddress, config.port, config.channels,
        config.multiArfcn, config.offset, config.rssiOffset, config.swapChannels, config.edge,
        config.priority) =
      (options.deviceArgs, options.localAddress, options.remoteAddress, options.port,
        options.channels, options.multiArfcn, options.offset, options.rssiOffset,
        options.swapChannels, options.edge, options.priority)

theorem Accepted.rates (accepted : options.Accepted config) :
    (config.txRate.samples, config.rxRate.samples) =
      if options.edge = true ∨ options.multiArfcn = true then (4, 4)
      else (options.txRate, options.rxRate) := by
  rw [Rate.samples_of_ofSamples? accepted.txRate, Rate.samples_of_ofSamples? accepted.rxRate]
  by_cases forced : options.forcesRates = true
  · rw [if_pos (forcesRates_iff.mp forced)]
    simp [effectiveTxRate, effectiveRxRate, forced]
  · obtain ⟨txRaw, rxRaw⟩ := effectiveRates_of_free forced
    rw [if_neg (fun forces => forced (forcesRates_iff.mpr forces)), txRaw, rxRaw]

theorem reference_eq_iff (oneReference : Rule.oneReference.Holds options) :
    (options.reference = .external ↔ options.externalReference = true) ∧
      (options.reference = .gps ↔ options.gpsReference = true) ∧
      (options.reference = .internal ↔
        options.externalReference = false ∧ options.gpsReference = false) := by
  simp only [Rule.Holds] at oneReference
  cases external : options.externalReference with
  | true =>
      have noGps : options.gpsReference = false := by simpa [external] using oneReference
      simp [reference, external, noGps]
  | false =>
      cases gps : options.gpsReference with
      | true => simp [reference, external, gps]
      | false => simp [reference, external, gps]

theorem effectiveFiller_eq :
    options.effectiveFiller =
      if options.filler = .normalRandom ∧ options.edge = true then .edgeRandom
      else options.filler := by
  simp [effectiveFiller, and_comm]

theorem edge_of_edgeRandom (unasked : options.filler ≠ .edgeRandom)
    (becomes : options.effectiveFiller = .edgeRandom) : options.edge = true := by
  rw [effectiveFiller_eq] at becomes
  split at becomes
  next both => exact both.2
  next => exact absurd becomes unasked

theorem not_edge_of_normalRandom (stays : options.effectiveFiller = .normalRandom) :
    options.edge = false := by
  rw [effectiveFiller_eq] at stays
  split at stays
  next => cases stays
  next notBoth => simpa [stays] using notBoth

theorem Accepted.carriedOut {settings : List Setting}
    (accepted : (ofSettings settings).Accepted config) :
    (ofSettings settings).CarriedOut settings config := by
  have edge : config.edge = (ofSettings settings).edge := congrArg Config.edge accepted.config_eq
  have reference : config.reference = (ofSettings settings).reference :=
    congrArg Config.reference accepted.config_eq
  have filler : config.filler = (ofSettings settings).effectiveFiller :=
    congrArg Config.filler accepted.config_eq
  have trainingSequence := congrArg (fun config => config.trainingSequence.toNat) accepted.config_eq
  have rachDelay := congrArg (fun config => config.rachDelay.toNat) accepted.config_eq
  obtain ⟨external, gps, internal⟩ :=
    reference_eq_iff (holds_of_accepted accepted .oneReference)
  constructor
  · exact accepted.rates
  · exact ⟨Rate.samples_mem config.txRate, Rate.samples_mem config.rxRate⟩
  · have small : (ofSettings settings).trainingSequence ≤ 7 := accepted.trainingSequence
    refine ⟨?_, trainingSequence_ofSettings settings⟩
    simp only [UInt8.toNat_ofNat'] at trainingSequence
    omega
  · have small : (ofSettings settings).rachDelay ≤ 68 := accepted.rachDelay
    refine ⟨?_, rachDelay_ofSettings settings⟩
    simp only [UInt8.toNat_ofNat'] at rachDelay
    omega
  · rw [reference, external]
  · rw [reference, gps]
  · rw [reference, internal]
  · rw [filler, edge, effectiveFiller_eq, filler_ofSettings]
  · intro becomes
    rw [edge]
    exact edge_of_edgeRandom (filler_ofSettings_ne_edgeRandom settings) (filler ▸ becomes)
  · intro stays
    rw [edge]
    exact not_edge_of_normalRandom (filler ▸ stays)
  · exact accepted.logLevel
  · rw [accepted.config_eq]

end Validation

/-- Settings are accepted exactly if every rule holds of them, otherwise the first rule violated is
the error; an accepted configuration carries out what they ask for, and where the rates are forced
it does not depend on the rates asked for. -/
theorem validate_by_rules (settings : List Setting) :
    ((∃ config, (ofSettings settings).validate = .ok config) ↔
        ∀ rule : Rule, rule.Holds (ofSettings settings)) ∧
      (∀ error, (ofSettings settings).validate = .error error ↔
        ∃ rule, (ofSettings settings).firstViolated? = some rule ∧
          rule.error (ofSettings settings) = error) ∧
      (∀ config, (ofSettings settings).validate = .ok config →
        (ofSettings settings).CarriedOut settings config) ∧
      ((ofSettings settings).edge = true ∨ (ofSettings settings).multiArfcn = true →
        ∀ tx rx, { ofSettings settings with txRate := tx, rxRate := rx }.validate =
          (ofSettings settings).validate) := by
  refine ⟨validate_eq_ok_iff, ?_, ?_, validate_of_forced⟩
  · intro error
    exact validate_eq_error_iff
  · intro config valid
    exact (accepted_of_validate valid).carriedOut

-- The number of a burst test counts also after another test has taken its place.
example : (ofSettings [.normalBurstTest 9, .accessBurstTest 3]).validate =
    .error (.invalidTrainingSequence 9) := by
  rfl

end Options

end Transceiver
