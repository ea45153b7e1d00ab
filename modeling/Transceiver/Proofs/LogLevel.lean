import Transceiver.Proofs.Config.Rules
import Transceiver.Proofs.Text.Pieces
import Transceiver.Proofs.Text.Uppercase

/-!
The texts that name a log level. Blanks around a name do not count, each letter may be a capital or
a small one, and the dotless i may stand for an I; nothing else is read as a level, and a text that
names none is reported as it was given.
-/

namespace Transceiver

namespace LogLevel

def spellings : LogLevel → List String
  | emergency => ["EMERG"]
  | alert => ["ALERT"]
  | critical => ["CRT", "CRIT"]
  | error => ["ERR", "ERROR"]
  | warning => ["WARNING", "WARN"]
  | notice => ["NOTICE"]
  | info => ["INFO"]
  | debug => ["DEBUG"]

def Respells (c letter : Char) : Prop :=
  c = letter ∨ c = letter.toLower ∨ c = 'ı' ∧ letter = 'I'

def Respelled (text : List Char) (name : String) : Prop :=
  List.Forall₂ Respells text name.toList

def Names (level : LogLevel) (text : List Char) : Prop :=
  ∃ name ∈ level.spellings, Respelled text name

theorem mem_all (level : LogLevel) : level ∈ all := by
  cases level with
  | _ => decide

theorem name_mem_spellings (level : LogLevel) : level.name ∈ level.spellings := by
  cases level with
  | _ => simp [name, spellings]

theorem ofName?_eq_some_iff {text : String} {level : LogLevel} :
    ofName? text = some level ↔ text ∈ level.spellings := by
  constructor
  · intro found
    unfold ofName? at found
    split at found
    all_goals cases found
    all_goals simp [spellings]
  · intro listed
    cases level with
    | _ =>
        simp only [spellings, List.mem_cons, List.not_mem_nil, or_false] at listed
        rcases listed with rfl | rfl
        all_goals rfl

section Spelling

variable {level : LogLevel} {name : String} (listed : name ∈ level.spellings)
include listed

theorem capitals_of_spelling : ∀ letter ∈ name.toList, letter.isUpper = true ∧ letter ≠ 'S' := by
  cases level with
  | _ =>
      simp only [spellings, List.mem_cons, List.not_mem_nil, or_false] at listed
      rcases listed with rfl | rfl
      all_goals simp

theorem plain_of_spelling :
    ∀ expansion ∈ Text.caseExpansions, ¬expansion.2.map Char.ofNat <:+: name.toList := by
  have table : ∀ level ∈ all, ∀ name ∈ level.spellings, ∀ expansion ∈ Text.caseExpansions,
      ¬expansion.2.map Char.ofNat <:+: name.toList := by decide +kernel
  exact table level level.mem_all name listed

theorem respells_iff {c letter : Char} (member : letter ∈ name.toList) :
    Text.upperChar c = [letter] ↔ Respells c letter := by
  obtain ⟨capital, other⟩ := capitals_of_spelling listed letter member
  rw [Text.upperChar_eq_singleton_iff capital]
  simp [Respells, Text.strayLetters, other]

theorem upper_eq_spelling_iff (text : List Char) :
    Text.upper text = name.toList ↔ Respelled text name := by
  rw [Text.upper_eq_iff (plain_of_spelling listed), Respelled, List.forall₂_iff_zip,
    List.forall₂_iff_zip]
  refine and_congr_right fun _ => forall₂_congr fun c letter => ?_
  exact imp_congr_right fun paired => respells_iff listed (List.of_mem_zip paired).2

/-- A respelled name has no blanks that could be taken for the space around it. -/
theorem solid_of_respelled {text : List Char} (respelled : Respelled text name) :
    Text.Solid text := by
  intro c member
  obtain ⟨letter, paired⟩ : ∃ letter, (c, letter) ∈ text.zip name.toList := by
    obtain ⟨index, bound, rfl⟩ := List.mem_iff_getElem.mp member
    have same := respelled.length_eq
    exact ⟨name.toList[index], List.mem_iff_getElem.mpr ⟨index, by simp; omega, by simp⟩⟩
  have respells : Respells c letter := (List.forall₂_iff_zip.mp respelled).2 paired
  obtain ⟨capital, _⟩ := capitals_of_spelling listed letter (List.of_mem_zip paired).2
  have table : ∀ index < 26, Text.isBlank (Char.ofNat (65 + index)) = false ∧
      Text.isBlank (Char.ofNat (65 + index)).toLower = false := by decide
  have bounds := Text.isUpper_iff.mp capital
  obtain ⟨large, small⟩ := table (letter.toNat - 65) (by omega)
  rw [show 65 + (letter.toNat - 65) = letter.toNat by omega, Char.ofNat_toNat] at large small
  rcases respells with rfl | rfl | ⟨rfl, _⟩
  · exact large
  · exact small
  · rfl

end Spelling

theorem read_eq_some_iff {text : String} {level : LogLevel} :
    read text = some level ↔ level.Names (Text.trim text.toList) := by
  rw [read, ofName?_eq_some_iff, Names]
  constructor
  · intro listed
    refine ⟨_, listed, (upper_eq_spelling_iff listed _).mp ?_⟩
    rw [String.toList_ofList]
  · rintro ⟨name, listed, respelled⟩
    rw [(upper_eq_spelling_iff listed _).mpr respelled, String.ofList_toList]
    exact listed

theorem read_eq_none_iff {text : String} :
    read text = none ↔ ∀ level : LogLevel, ¬level.Names (Text.trim text.toList) := by
  simp only [Option.eq_none_iff_forall_ne_some, ne_eq, read_eq_some_iff]

theorem parse_eq_ok_iff {text : String} {level : LogLevel} :
    parse text = .ok level ↔ read text = some level := by
  rw [parse]
  cases read text with
  | none => simp
  | some found => simp

theorem parse_eq_error_iff {text : String} {unknown : Unknown} :
    parse text = .error unknown ↔ unknown = ⟨text⟩ ∧ read text = none := by
  rw [parse]
  cases read text with
  | none => simp [eq_comm]
  | some found => simp

end LogLevel

namespace Options

theorem firstViolated?_eq_logLevel_iff {options : Options} :
    options.firstViolated? = some .logLevel ↔
      ¬Rule.logLevel.Holds options ∧ ∀ rule : Rule, rule ≠ .logLevel → rule.Holds options := by
  have others (rule : Rule) : rule ∈ Rule.inOrder.dropLast ↔ rule ≠ .logLevel := by
    cases rule with
    | _ => decide
  have order : Rule.inOrder = Rule.inOrder.dropLast ++ [.logLevel] := rfl
  rw [firstViolated?, order, List.find?_append]
  cases earlier : Rule.inOrder.dropLast.find? fun rule => ¬rule.Holds options with
  | some rule =>
      have named := (others rule).mp (List.mem_of_find?_eq_some earlier)
      have violated : ¬rule.Holds options := by simpa using List.find?_some earlier
      simp only [Option.some_or, Option.some.injEq, named, false_iff, not_and]
      exact fun _ holds => violated (holds rule named)
  | none =>
      have holds : ∀ rule : Rule, rule ≠ .logLevel → rule.Holds options := by
        simpa [List.find?_eq_none, others] using earlier
      simpa using fun _ => holds

/-- The log level is only reported where no other rule is violated. -/
theorem validate_unknownLogLevel_iff {options : Options} {name : String} :
    options.validate = .error (.unknownLogLevel name) ↔
      name = options.logLevel ∧ LogLevel.read options.logLevel = none ∧
        ∀ rule : Rule, rule ≠ .logLevel → rule.Holds options := by
  rw [validate_eq_error_iff]
  constructor
  · rintro ⟨rule, first, same⟩
    cases rule with
    | logLevel =>
        obtain ⟨violated, others⟩ := firstViolated?_eq_logLevel_iff.mp first
        cases same
        exact ⟨rfl, by simpa [Rule.Holds] using violated, others⟩
    | _ => cases same
  · rintro ⟨rfl, unread, others⟩
    have violated : ¬Rule.logLevel.Holds options := by simp [Rule.Holds, unread]
    exact ⟨.logLevel, firstViolated?_eq_logLevel_iff.mpr ⟨violated, others⟩, rfl⟩

end Options

structure LogLevel.ReadByName (text : String) : Prop where
  accepts : ∀ level, parse text = .ok level ↔
    ∃ body, Text.Trimmed text.toList body ∧ level.Names body
  rejects : ∀ unknown, parse text = .error unknown ↔
    unknown = ⟨text⟩ ∧ ∀ (level : LogLevel) body, Text.Trimmed text.toList body → ¬level.Names body
  reported : ∀ options : Options, options.logLevel = text → ∀ name,
    options.validate = .error (.unknownLogLevel name) ↔
      name = text ∧ parse text = .error ⟨text⟩ ∧
        ∀ rule : Options.Rule, rule ≠ .logLevel → rule.Holds options
  printed : ∀ (level : LogLevel) (before body after : List Char),
    (∀ c ∈ before, Text.isBlank c = true) → (∀ c ∈ after, Text.isBlank c = true) →
      Respelled body level.name → text.toList = before ++ body ++ after → parse text = .ok level

/-- A text is read as a level exactly if it is a name of the level without regard to case and to
surrounding blanks, and every other text is handed back as it is. -/
theorem LogLevel.parse_by_name (text : String) : ReadByName text where
  accepts level := by
    simp only [parse_eq_ok_iff, read_eq_some_iff, ← Text.trim_eq_iff, exists_eq_left']
  rejects unknown := by
    simp only [parse_eq_error_iff, read_eq_none_iff, ← Text.trim_eq_iff, forall_eq']
  reported options asked name := by
    subst asked
    rw [Options.validate_unknownLogLevel_iff, parse_eq_error_iff]
    simp
  printed level before body after leading trailing respelled whole := by
    have solid := solid_of_respelled level.name_mem_spellings respelled
    rw [parse_eq_ok_iff, read_eq_some_iff, whole, Text.trim_padded leading trailing,
      Text.trim_of_solid solid]
    exact ⟨level.name, level.name_mem_spellings, respelled⟩

-- The ligature comes to "FI", which begins no name.
example : LogLevel.parse "\u2003crıt\n" = .ok .critical ∧
    LogLevel.parse "ﬁno" = .error ⟨"ﬁno"⟩ := by decide +kernel

end Transceiver
