import Transceiver.Proofs.Config.LastCalls
import Transceiver.Proofs.Config.Rules

/-!
A configuration as settings. What a configuration says, set again one by one, is accepted and makes
the same configuration, although accepting settings can change their rates and their filler.
-/

namespace Transceiver

theorem Rate.ofSamples?_samples (rate : Rate) : Rate.ofSamples? rate.samples = some rate := by
  cases rate with
  | _ => rfl

theorem Rate.eq_four {rate : Rate} (samples : rate.samples = 4) : rate = .four := by
  cases rate with
  | one => cases samples
  | four => rfl

theorem LogLevel.read_name (level : LogLevel) : LogLevel.read level.name = some level := by
  cases level with
  | _ => rfl

namespace Config

structure Settled (config : Config) : Prop where
  channelLimit : config.multiArfcn = true → config.channels ≤ Options.maxMultiArfcnChannels
  forcedRates : config.edge = true ∨ config.multiArfcn = true →
    config.txRate = .four ∧ config.rxRate = .four
  trainingSequence : config.trainingSequence.toNat ≤ Options.maxTrainingSequence
  rachDelay : config.rachDelay.toNat ≤ Options.maxRachDelay
  untested : config.filler = .zero → config.trainingSequence = 0 ∧ config.rachDelay = 0
  edgeRandom : config.filler = .edgeRandom → config.edge = true
  normalRandom : config.filler = .normalRandom → config.edge = false

def referenceSettings (config : Config) : List Setting :=
  match config.reference with
  | .internal => []
  | .external => [.externalReference true]
  | .gps => [.gpsReference true]

def plainSettings (config : Config) : List Setting :=
  [.logLevel config.logLevel.name, .deviceArgs config.deviceArgs,
      .localAddress config.localAddress, .remoteAddress config.remoteAddress, .port config.port,
      .txRate config.txRate.samples, .rxRate config.rxRate.samples, .channels config.channels,
      .offset config.offset, .rssiOffset config.rssiOffset, .edge config.edge,
      .multiArfcn config.multiArfcn, .swapChannels config.swapChannels] ++
    config.referenceSettings ++ config.priority.toList.map .priority

/-- Both tests, for their numbers, and then the setting that selects the filler. Bursts for EDGE are
asked for as normal ones. -/
def fillerSettings (config : Config) : List Setting :=
  let normal : Setting := .normalBurstTest config.trainingSequence.toNat
  let access : Setting := .accessBurstTest config.rachDelay.toNat
  match config.filler with
  | .zero => []
  | .dummy => [normal, access, .fillerTable]
  | .normalRandom | .edgeRandom => [normal, access, normal]
  | .accessRandom => [normal, access, access]

def options (config : Config) : Options where
  logLevel := config.logLevel.name
  deviceArgs := config.deviceArgs
  localAddress := config.localAddress
  remoteAddress := config.remoteAddress
  port := config.port
  txRate := config.txRate.samples
  rxRate := config.rxRate.samples
  channels := config.channels
  trainingSequence := config.trainingSequence.toNat
  rachDelay := config.rachDelay.toNat
  externalReference := config.reference = .external
  gpsReference := config.reference = .gps
  filler := if config.filler = .edgeRandom then .normalRandom else config.filler
  multiArfcn := config.multiArfcn
  offset := config.offset
  rssiOffset := config.rssiOffset
  swapChannels := config.swapChannels
  edge := config.edge
  priority := config.priority

theorem ofSettings_plainSettings (config : Config) :
    Options.ofSettings config.plainSettings =
      { config.options with trainingSequence := 0, rachDelay := 0, filler := .zero } := by
  have shipped : (default : Filler) = .zero := rfl
  cases reference : config.reference with
  | _ =>
      cases priority : config.priority with
      | _ =>
          simp [plainSettings, referenceSettings, options, Options.ofSettings, Options.set,
            reference, priority, shipped]

theorem Settled.ofSettings_settings {config : Config} (settled : config.Settled) :
    Options.ofSettings (config.plainSettings ++ config.fillerSettings) = config.options := by
  have plain := config.ofSettings_plainSettings
  rw [Options.ofSettings] at plain ⊢
  rw [List.foldl_append, plain]
  cases filler : config.filler with
  | zero =>
      obtain ⟨trainingSequence, rachDelay⟩ := settled.untested filler
      simp [fillerSettings, options, filler, trainingSequence, rachDelay]
  | _ => simp [fillerSettings, options, Options.set, filler]

namespace Settled

variable {config : Config} (settled : config.Settled)
include settled

theorem effectiveRates : config.options.effectiveTxRate = config.txRate.samples ∧
    config.options.effectiveRxRate = config.rxRate.samples := by
  by_cases forced : config.options.forcesRates = true
  · obtain ⟨tx, rx⟩ := settled.forcedRates (Options.forcesRates_iff.mp forced)
    simp [Options.effectiveTxRate, Options.effectiveRxRate, forced, tx, rx, Rate.samples]
  · exact Options.effectiveRates_of_free forced

theorem effectiveFiller : config.options.effectiveFiller = config.filler := by
  cases filler : config.filler with
  | normalRandom =>
      simp [Options.effectiveFiller, options, filler, settled.normalRandom filler]
  | edgeRandom => simp [Options.effectiveFiller, options, filler, settled.edgeRandom filler]
  | _ => simp [Options.effectiveFiller, options, filler]

theorem accepted : config.options.Accepted config := by
  obtain ⟨txRate, rxRate⟩ := settled.effectiveRates
  have reference : config.options.reference = config.reference := by
    cases reference : config.reference with
    | _ => simp [Options.reference, options, reference]
  constructor
  · exact settled.channelLimit
  · cases reference : config.reference with
    | _ => simp [options, reference]
  · rw [txRate, Rate.ofSamples?_samples]
  · rw [rxRate, Rate.ofSamples?_samples]
  · exact settled.trainingSequence
  · exact settled.rachDelay
  · exact LogLevel.read_name config.logLevel
  · rw [reference, settled.effectiveFiller]
    simp only [options, UInt8.ofNat_toNat]

end Settled

end Config

namespace Options

variable {options : Options} {config : Config}

theorem validate_of_accepted (accepted : options.Accepted config) :
    options.validate = .ok config := by
  obtain ⟨other, valid⟩ := validate_eq_ok_iff.mpr (holds_of_accepted accepted)
  have again := accepted_of_validate valid
  have txRate := Option.some.inj (again.txRate.symm.trans accepted.txRate)
  have rxRate := Option.some.inj (again.rxRate.symm.trans accepted.rxRate)
  have logLevel := Option.some.inj (again.logLevel.symm.trans accepted.logLevel)
  rw [valid, again.config_eq, txRate, rxRate, logLevel, ← accepted.config_eq]

/-- The filler is the shipped one only if no setting selected another. -/
theorem unselected_of_filler_zero {settings : List Setting}
    (zero : (ofSettings settings).filler = .zero) :
    ∀ setting ∈ settings, setting.filler? = none := by
  rw [filler_ofSettings, Setting.lastChoice] at zero
  cases last : (settings.filterMap Setting.filler?).getLast? with
  | none => exact List.filterMap_eq_nil_iff.mp (List.getLast?_eq_none_iff.mp last)
  | some filler =>
      rw [last, Option.getD_some] at zero
      obtain ⟨setting, _, chosen⟩ := List.mem_filterMap.mp (List.mem_of_getLast? last)
      rw [zero] at chosen
      cases setting with
      | _ => cases chosen

theorem numbers_of_unselected {settings : List Setting}
    (unselected : ∀ setting ∈ settings, setting.filler? = none) :
    (ofSettings settings).trainingSequence = 0 ∧ (ofSettings settings).rachDelay = 0 := by
  have tests (setting : Setting) (plain : setting.filler? = none) :
      setting.trainingSequence? = none ∧ setting.rachDelay? = none := by
    cases setting with
    | normalBurstTest | accessBurstTest => cases plain
    | _ => exact ⟨rfl, rfl⟩
  have noTraining : settings.filterMap Setting.trainingSequence? = [] :=
    List.filterMap_eq_nil_iff.mpr fun setting member =>
      (tests setting (unselected setting member)).1
  have noDelay : settings.filterMap Setting.rachDelay? = [] :=
    List.filterMap_eq_nil_iff.mpr fun setting member =>
      (tests setting (unselected setting member)).2
  rw [trainingSequence_ofSettings, rachDelay_ofSettings, Setting.lastChoice, Setting.lastChoice,
    noTraining, noDelay]
  exact ⟨rfl, rfl⟩

theorem settled_of_validate {settings : List Setting}
    (valid : (ofSettings settings).validate = .ok config) : config.Settled := by
  have accepted := accepted_of_validate valid
  have carried := accepted.carriedOut
  have edge : config.edge = (ofSettings settings).edge := congrArg Config.edge accepted.config_eq
  have multiArfcn : config.multiArfcn = (ofSettings settings).multiArfcn :=
    congrArg Config.multiArfcn accepted.config_eq
  constructor
  · intro requested
    exact (accepted.multiArfcn_limits requested).1
  · intro forced
    have rates := carried.rates
    rw [edge, multiArfcn] at forced
    rw [if_pos forced, Prod.mk.injEq] at rates
    exact ⟨Rate.eq_four rates.1, Rate.eq_four rates.2⟩
  · rw [carried.trainingSequence.1]
    exact accepted.trainingSequence
  · rw [carried.rachDelay.1]
    exact accepted.rachDelay
  · intro zero
    have filler : config.filler = (ofSettings settings).effectiveFiller :=
      congrArg Config.filler accepted.config_eq
    rw [zero, effectiveFiller_eq] at filler
    split at filler
    next => cases filler
    next =>
      obtain ⟨training, delay⟩ := numbers_of_unselected (unselected_of_filler_zero filler.symm)
      rw [← UInt8.toNat_inj, ← UInt8.toNat_inj, carried.trainingSequence.1, carried.rachDelay.1,
        training, delay]
      exact ⟨rfl, rfl⟩
  · exact carried.edgeRandom
  · exact carried.normalRandom

end Options

namespace Config

theorem names_plainSettings (config : Config) :
    (config.plainSettings.map Setting.name).Nodup ∧
      ∀ setting ∈ config.plainSettings, setting.name.selectsFiller = false := by
  cases reference : config.reference with
  | _ =>
      cases priority : config.priority with
      | _ =>
          simp [plainSettings, referenceSettings, reference, priority, Setting.name,
            Setting.Name.selectsFiller, Setting.Name.filler?]

theorem names_fillerSettings (config : Config) :
    ∀ setting ∈ config.fillerSettings, setting.name.selectsFiller = true := by
  cases filler : config.filler with
  | _ =>
      simp [fillerSettings, filler, Setting.name, Setting.Name.selectsFiller,
        Setting.Name.filler?]

structure Replayed (config : Config) (calls : List Setting) : Prop where
  plain : (calls.filter fun setting => !setting.name.selectsFiller).Perm config.plainSettings
  selecting : calls.filter (·.name.selectsFiller) = config.fillerSettings

theorem plain_settings (config : Config) :
    ((config.plainSettings ++ config.fillerSettings).filter
      fun setting => !setting.name.selectsFiller) = config.plainSettings := by
  rw [List.filter_append, List.filter_eq_self.mpr, List.filter_eq_nil_iff.mpr, List.append_nil]
  · intro setting member
    simp [config.names_fillerSettings setting member]
  · intro setting member
    simp [config.names_plainSettings.2 setting member]

theorem selecting_settings (config : Config) :
    (config.plainSettings ++ config.fillerSettings).filter (·.name.selectsFiller) =
      config.fillerSettings := by
  rw [List.filter_append, List.filter_eq_nil_iff.mpr, List.filter_eq_self.mpr, List.nil_append]
  · exact config.names_fillerSettings
  · intro setting member
    simp [config.names_plainSettings.2 setting member]

theorem replayed_settings (config : Config) :
    config.Replayed (config.plainSettings ++ config.fillerSettings) :=
  ⟨by rw [plain_settings], config.selecting_settings⟩

theorem Replayed.ofSettings_eq {config : Config} {calls : List Setting}
    (replayed : config.Replayed calls) :
    Options.ofSettings calls =
      Options.ofSettings (config.plainSettings ++ config.fillerSettings) := by
  refine Options.ofSettings_of_sameLastCalls (Setting.sameLastCalls_of_perm ?_ ?_ ?_)
  · rw [plain_settings]
    exact replayed.plain
  · rw [plain_settings]
    exact config.names_plainSettings.1
  · rw [selecting_settings]
    exact replayed.selecting

end Config

/-- What an accepted configuration says, set again on the shipped options, is accepted and makes the
same configuration, in every order that keeps the settings of the filler as they are. -/
theorem Options.validate_replayed {settings : List Setting} {config : Config}
    (valid : (ofSettings settings).validate = .ok config) :
    config.Replayed (config.plainSettings ++ config.fillerSettings) ∧
      ∀ calls, config.Replayed calls → (ofSettings calls).validate = .ok config := by
  refine ⟨config.replayed_settings, ?_⟩
  intro calls replayed
  have settled := settled_of_validate valid
  rw [replayed.ofSettings_eq, settled.ofSettings_settings]
  exact validate_of_accepted settled.accepted

/-- Bursts for EDGE, asked for with rates that EDGE overrides and again in another order. -/
theorem Options.validate_replayed_of_edge_bursts :
    let config : Config := { Config.shipped 2 with
      logLevel := .critical, rxRate := .four, trainingSequence := 3, rachDelay := 68
      reference := .gps, filler := .edgeRandom, edge := true, priority := some 10 }
    let settings : List Setting := [.accessBurstTest 68, .normalBurstTest 3, .edge true,
      .txRate 2, .logLevel " crit", .gpsReference true, .channels 2, .priority 10]
    let calls := config.fillerSettings ++ config.plainSettings.reverse
    (ofSettings settings).validate = .ok config ∧ config.Replayed calls ∧
      (ofSettings calls).validate = .ok config := by
  intro config settings calls
  have level : LogLevel.read " crit" = some .critical := by decide
  have valid : (ofSettings settings).validate = .ok config := by
    simp [settings, config, ofSettings, set, validate, effectiveTxRate, effectiveRxRate,
      forcesRates, Rate.ofSamples?, level, Options.reference, Options.effectiveFiller,
      Config.shipped, maxTrainingSequence, maxRachDelay]
  have replayed : config.Replayed calls := ⟨List.reverse_perm config.plainSettings, rfl⟩
  exact ⟨valid, replayed, (validate_replayed valid).2 calls replayed⟩

end Transceiver
