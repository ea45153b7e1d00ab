import Transceiver.Config.Validate
import Transceiver.Proofs.Config.Settings

/-!
Which settings count. Of several settings of one name the last one counts, and of those that select
a filler it counts which came last. Two lists that agree in this make the same options, so most
neighbours can change places.
-/

namespace Transceiver

namespace Setting

inductive Name
  | logLevel
  | deviceArgs
  | localAddress
  | remoteAddress
  | port
  | txRate
  | rxRate
  | channels
  | edge
  | multiArfcn
  | externalReference
  | gpsReference
  | fillerTable
  | normalBurstTest
  | accessBurstTest
  | offset
  | rssiOffset
  | swapChannels
  | priority
  deriving DecidableEq, Repr

def name : Setting → Name
  | .logLevel _ => .logLevel
  | .deviceArgs _ => .deviceArgs
  | .localAddress _ => .localAddress
  | .remoteAddress _ => .remoteAddress
  | .port _ => .port
  | .txRate _ => .txRate
  | .rxRate _ => .rxRate
  | .channels _ => .channels
  | .edge _ => .edge
  | .multiArfcn _ => .multiArfcn
  | .externalReference _ => .externalReference
  | .gpsReference _ => .gpsReference
  | .fillerTable => .fillerTable
  | .normalBurstTest _ => .normalBurstTest
  | .accessBurstTest _ => .accessBurstTest
  | .offset _ => .offset
  | .rssiOffset _ => .rssiOffset
  | .swapChannels _ => .swapChannels
  | .priority _ => .priority

def Name.filler? : Name → Option Filler
  | fillerTable => some .dummy
  | normalBurstTest => some .normalRandom
  | accessBurstTest => some .accessRandom
  | _ => none

def Name.selectsFiller (name : Name) : Bool := name.filler?.isSome

theorem filler?_name (setting : Setting) : setting.filler? = setting.name.filler? := by
  cases setting with
  | _ => rfl

def lastNamed (name : Name) (settings : List Setting) : Option Setting :=
  (settings.filter (·.name = name)).getLast?

def lastSelecting (settings : List Setting) : Option Name :=
  ((settings.map Setting.name).filter Name.selectsFiller).getLast?

theorem getLast?_fillers (names : List Name) :
    (names.filterMap Name.filler?).getLast? =
      (names.filter Name.selectsFiller).getLast?.bind Name.filler? := by
  induction names using List.reverseRecOn with
  | nil => rfl
  | append_singleton names name ih =>
      rw [List.filterMap_append, List.filter_append]
      cases selected : name.filler? with
      | none => simp [Name.selectsFiller, selected, ih]
      | some filler => simp [Name.selectsFiller, selected]

structure SameLastCalls (first second : List Setting) : Prop where
  named : ∀ name, lastNamed name first = lastNamed name second
  selecting : lastSelecting first = lastSelecting second

theorem filter_swapped {α : Type} {keeps : α → Bool} {one other : α}
    (apart : ¬(keeps one = true ∧ keeps other = true)) (before later : List α) :
    (before ++ one :: other :: later).filter keeps =
      (before ++ other :: one :: later).filter keeps := by
  rw [List.filter_append, List.filter_append]
  congr 1
  cases kept : keeps one with
  | true =>
      have left : keeps other = false := by simpa [kept] using apart
      simp [kept, left]
  | false => simp [List.filter_cons, kept]

theorem sameLastCalls_swapped {one other : Setting} (differ : one.name ≠ other.name)
    (apart : ¬(one.name.selectsFiller = true ∧ other.name.selectsFiller = true))
    (before later : List Setting) :
    SameLastCalls (before ++ one :: other :: later) (before ++ other :: one :: later) := by
  constructor
  · intro name
    rw [lastNamed, lastNamed, filter_swapped]
    rintro ⟨oneNamed, otherNamed⟩
    exact differ ((of_decide_eq_true oneNamed).trans (of_decide_eq_true otherNamed).symm)
  · simp only [lastSelecting, List.map_append, List.map_cons]
    rw [filter_swapped apart]

/-- Of distinct names a list holds one setting at most, so the order of those does not count. -/
theorem filter_name_perm {first second : List Setting} (same : first.Perm second)
    (distinct : (second.map Setting.name).Nodup) (name : Name) :
    first.filter (·.name = name) = second.filter (·.name = name) := by
  have permuted := same.filter (·.name = name)
  have named : ∀ setting ∈ second.filter (·.name = name), setting.name = name := by
    intro setting member
    exact of_decide_eq_true (List.mem_filter.mp member).2
  have unrepeated : ((second.filter (·.name = name)).map Setting.name).Nodup :=
    distinct.sublist (List.filter_sublist.map Setting.name)
  cases found : second.filter (·.name = name) with
  | nil =>
      rw [found] at permuted
      exact permuted.eq_nil
  | cons setting rest =>
      cases rest with
      | nil =>
          rw [found] at permuted
          exact List.perm_singleton.mp permuted
      | cons other rest =>
          rw [found] at named unrepeated
          have names : setting.name = other.name :=
            (named setting (by simp)).trans (named other (by simp)).symm
          simp [names] at unrepeated

theorem filter_name_filter {keeps : Name → Bool} {name : Name} (kept : keeps name = true)
    (settings : List Setting) :
    (settings.filter fun setting => keeps setting.name).filter (·.name = name) =
      settings.filter (·.name = name) := by
  rw [List.filter_filter]
  refine List.filter_congr fun setting _ => ?_
  by_cases named : setting.name = name
  · simp [named, kept]
  · simp [named]

/-- Lists with the same settings of the filler, and in any order with the same others, each once. -/
theorem sameLastCalls_of_perm {first second : List Setting}
    (plain : (first.filter fun setting => !setting.name.selectsFiller).Perm
      (second.filter fun setting => !setting.name.selectsFiller))
    (distinct : ((second.filter fun setting => !setting.name.selectsFiller).map
      Setting.name).Nodup)
    (selecting : first.filter (·.name.selectsFiller) = second.filter (·.name.selectsFiller)) :
    SameLastCalls first second := by
  constructor
  · intro name
    rw [lastNamed, lastNamed]
    cases selects : name.selectsFiller with
    | true =>
        rw [← filter_name_filter selects first, selecting, filter_name_filter selects]
    | false =>
        have kept : (!name.selectsFiller) = true := by rw [selects, Bool.not_false]
        have others := filter_name_perm plain distinct name
        have own := @filter_name_filter (fun name => !name.selectsFiller) name kept
        rw [own, own] at others
        rw [others]
  · have own (settings : List Setting) :
        (settings.map Setting.name).filter Name.selectsFiller =
          (settings.filter (·.name.selectsFiller)).map Setting.name :=
      List.filter_map
    rw [lastSelecting, lastSelecting, own first, own second, selecting]

end Setting

attribute [ext] Options

namespace Options

open Setting

/-- A field that only settings of one name write holds what the last of them wrote. -/
theorem field_by_name {α : Type} (field : Options → α) (name : Name)
    (written : ∀ options setting, field (options.set setting) =
      if setting.name = name then field (({} : Options).set setting) else field options)
    (settings : List Setting) :
    field (ofSettings settings) =
      ((lastNamed name settings).map fun setting => field (({} : Options).set setting)).getD
        (field {}) := by
  let own (setting : Setting) : Option α :=
    if setting.name = name then some (field (({} : Options).set setting)) else none
  have chosen : ∀ options setting,
      field (options.set setting) = (own setting).getD (field options) := by
    intro options setting
    rw [written]
    by_cases named : setting.name = name
    · simp [own, named]
    · simp [own, named]
  have picked : settings.filterMap own =
      (settings.filter (·.name = name)).map fun setting => field (({} : Options).set setting) := by
    induction settings with
    | nil => rfl
    | cons setting rest ih =>
        by_cases named : setting.name = name
        · simp [own, named, ih]
        · simp [own, named, ih]
  rw [field_ofSettings chosen, lastChoice, picked, List.getLast?_map, lastNamed]

theorem filler_by_name (settings : List Setting) :
    (ofSettings settings).filler = ((lastSelecting settings).bind Name.filler?).getD .zero := by
  have byName : Setting.filler? = Name.filler? ∘ Setting.name := funext Setting.filler?_name
  rw [filler_ofSettings, lastChoice, byName, ← List.filterMap_map, getLast?_fillers,
    lastSelecting]

theorem ofSettings_of_sameLastCalls {first second : List Setting}
    (same : SameLastCalls first second) : ofSettings first = ofSettings second := by
  have byName {α : Type} {field : Options → α} (name : Name)
      (written : ∀ options setting, field (options.set setting) =
        if setting.name = name then field (({} : Options).set setting) else field options) :
      field (ofSettings first) = field (ofSettings second) := by
    rw [field_by_name field name written, field_by_name field name written, same.named]
  have filler : (ofSettings first).filler = (ofSettings second).filler := by
    rw [filler_by_name, filler_by_name, same.selecting]
  refine Options.ext (byName .logLevel ?_) (byName .deviceArgs ?_) (byName .localAddress ?_)
    (byName .remoteAddress ?_) (byName .port ?_) (byName .txRate ?_) (byName .rxRate ?_)
    (byName .channels ?_) (byName .normalBurstTest ?_) (byName .accessBurstTest ?_)
    (byName .externalReference ?_) (byName .gpsReference ?_) filler (byName .multiArfcn ?_)
    (byName .offset ?_) (byName .rssiOffset ?_) (byName .swapChannels ?_) (byName .edge ?_)
    (byName .priority ?_)
  all_goals
    intro options setting
    cases setting with
    | _ => rfl

/-- Settings that agree in the last of each name and in which selected the filler last make the same
options and so the same configuration, whatever came before and in between; and two neighbours of
different names can change places unless both select the filler. -/
theorem ofSettings_by_last_calls :
    (∀ first second, SameLastCalls first second →
      ofSettings first = ofSettings second ∧
        (ofSettings first).validate = (ofSettings second).validate) ∧
      ∀ before one other later, one.name ≠ other.name →
        ¬(one.name.selectsFiller = true ∧ other.name.selectsFiller = true) →
          ofSettings (before ++ one :: other :: later) =
            ofSettings (before ++ other :: one :: later) := by
  constructor
  · intro first second same
    have options := ofSettings_of_sameLastCalls same
    exact ⟨options, congrArg validate options⟩
  · intro before one other later differ apart
    exact ofSettings_of_sameLastCalls (sameLastCalls_swapped differ apart before later)

theorem ofSettings_by_last_calls_of_overwritten :
    let first : List Setting := [.port 1, .normalBurstTest 9, .accessBurstTest 4, .port 2,
      .fillerTable, .normalBurstTest 3]
    let second : List Setting := [.fillerTable, .accessBurstTest 4, .normalBurstTest 3, .port 2]
    (SameLastCalls first second ∧ ofSettings first = ofSettings second ∧
        (ofSettings first).validate = (ofSettings second).validate) ∧
      (Setting.edge true).name ≠ (Setting.normalBurstTest 3).name ∧
      ofSettings [.port 2, .edge true, .normalBurstTest 3] =
        ofSettings [.port 2, .normalBurstTest 3, .edge true] := by
  intro first second
  have same : SameLastCalls first second := by
    refine ⟨fun name => ?_, by decide⟩
    cases name with
    | _ => decide
  obtain ⟨agree, swapped⟩ := ofSettings_by_last_calls
  refine ⟨⟨same, agree first second same⟩, by decide, ?_⟩
  exact swapped [.port 2] (.edge true) (.normalBurstTest 3) [] (by decide) (by decide)

end Options

end Transceiver
