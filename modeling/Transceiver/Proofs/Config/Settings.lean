import Mathlib.Data.List.Induction
import Transceiver.Options

/-!
Options by their settings: a field holds what the last setting that writes it wrote. The two burst
tests and the filler table share the filler, but each test keeps its own number.
-/

namespace Transceiver

namespace Setting

def filler? : Setting → Option Filler
  | .fillerTable => some .dummy
  | .normalBurstTest _ => some .normalRandom
  | .accessBurstTest _ => some .accessRandom
  | _ => none

def trainingSequence? : Setting → Option Nat
  | .normalBurstTest trainingSequence => some trainingSequence
  | _ => none

def rachDelay? : Setting → Option Nat
  | .accessBurstTest delay => some delay
  | _ => none

def lastChoice {α : Type} (choose : Setting → Option α) (shipped : α) (settings : List Setting) :
    α :=
  (settings.filterMap choose).getLast?.getD shipped

end Setting

namespace Options

theorem ofSettings_append (settings : List Setting) (setting : Setting) :
    ofSettings (settings ++ [setting]) = (ofSettings settings).set setting := by
  simp [ofSettings]

theorem field_ofSettings {α : Type} {field : Options → α} {choose : Setting → Option α}
    (written : ∀ options setting,
      field (options.set setting) = (choose setting).getD (field options))
    (settings : List Setting) :
    field (ofSettings settings) = Setting.lastChoice choose (field {}) settings := by
  induction settings using List.reverseRecOn with
  | nil => rfl
  | append_singleton settings setting ih =>
      rw [ofSettings_append, written, ih, Setting.lastChoice, Setting.lastChoice,
        List.filterMap_append]
      cases chosen : choose setting with
      | none => simp [chosen]
      | some value => simp [chosen]

theorem filler_ofSettings (settings : List Setting) :
    (ofSettings settings).filler = Setting.lastChoice Setting.filler? .zero settings := by
  refine field_ofSettings ?_ settings
  intro options setting
  cases setting with
  | _ => rfl

theorem trainingSequence_ofSettings (settings : List Setting) :
    (ofSettings settings).trainingSequence =
      Setting.lastChoice Setting.trainingSequence? 0 settings := by
  refine field_ofSettings ?_ settings
  intro options setting
  cases setting with
  | _ => rfl

theorem rachDelay_ofSettings (settings : List Setting) :
    (ofSettings settings).rachDelay = Setting.lastChoice Setting.rachDelay? 0 settings := by
  refine field_ofSettings ?_ settings
  intro options setting
  cases setting with
  | _ => rfl

theorem filler_ofSettings_ne_edgeRandom (settings : List Setting) :
    (ofSettings settings).filler ≠ .edgeRandom := by
  rw [filler_ofSettings, Setting.lastChoice]
  cases last : (settings.filterMap Setting.filler?).getLast? with
  | none => simp
  | some filler =>
      obtain ⟨setting, _, chosen⟩ := List.mem_filterMap.mp (List.mem_of_getLast? last)
      rintro rfl
      cases setting with
      | _ => cases chosen

end Options

end Transceiver
