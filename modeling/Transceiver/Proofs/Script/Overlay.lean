import Transceiver.Proofs.Script.Items

/-!
Device arguments joined and dressed up. The script of two argument lists behind one another is that
of the first overlaid by that of the second, and neither blanks nor foreign items make a difference.
-/

namespace Transceiver

namespace Script

def overlaid (earlier later : Script) : Script where
  capability := later.capability.or earlier.capability
  failOpen := earlier.failOpen || later.failOpen
  failInterface := earlier.failInterface || later.failInterface
  failCore := earlier.failCore || later.failCore
  missingFifo := later.missingFifo.or earlier.missingFifo
  rejectedFifo := later.rejectedFifo.or earlier.rejectedFifo

theorem overlaid_empty (earlier : Script) : earlier.overlaid {} = earlier := by
  simp [overlaid]

theorem add_overlaid (earlier later : Script) (directive : Directive) :
    (earlier.overlaid later).add directive = earlier.overlaid (later.add directive) := by
  cases directive with
  | _ => simp [overlaid, add]

theorem ofDirectives_append (first second : List Directive) :
    ofDirectives (first ++ second) = (ofDirectives first).overlaid (ofDirectives second) := by
  have onto (later : Script) : second.foldl add ((ofDirectives first).overlaid later) =
      (ofDirectives first).overlaid (second.foldl add later) := by
    induction second generalizing later with
    | nil => rfl
    | cons directive rest ih =>
        rw [List.foldl_cons, add_overlaid]
        exact ih (later.add directive)
  calc
    ofDirectives (first ++ second) = second.foldl add (ofDirectives first) :=
      List.foldl_append
    _ = second.foldl add ((ofDirectives first).overlaid {}) := by rw [overlaid_empty]
    _ = (ofDirectives first).overlaid (ofDirectives second) := onto {}

def inTurn : Except Fault Script → Except Fault Script → Except Fault Script
  | .error fault, _ => .error fault
  | .ok _, .error fault => .error fault
  | .ok earlier, .ok later => .ok (earlier.overlaid later)

theorem ofArgs_append (first second : String) :
    ofArgs (first ++ "," ++ second) = inTurn (ofArgs first) (ofArgs second) := by
  have pieces : Text.splitOn ',' (first ++ "," ++ second).toList =
      Text.splitOn ',' first.toList ++ Text.splitOn ',' second.toList := by
    rw [← Text.splitOn_append]
    simp
  rw [ofArgs, pieces, Directive.readAll_append, ofArgs, ofArgs]
  cases Directive.readAll (Text.splitOn ',' first.toList) with
  | error fault => rfl
  | ok directives =>
      cases Directive.readAll (Text.splitOn ',' second.toList) with
      | error fault => rfl
      | ok others => exact congrArg Except.ok (ofDirectives_append directives others)

end Script

namespace Directive

inductive Spaced : List Char → List Char → Prop
  | bare {key before after : List Char} (plain : '=' ∉ key)
      (leading : ∀ c ∈ before, Text.isBlank c = true)
      (trailing : ∀ c ∈ after, Text.isBlank c = true) : Spaced key (before ++ key ++ after)
  | valued {key value before behind ahead after : List Char} (plain : '=' ∉ key)
      (leading : ∀ c ∈ before, Text.isBlank c = true)
      (closing : ∀ c ∈ behind, Text.isBlank c = true)
      (opening : ∀ c ∈ ahead, Text.isBlank c = true)
      (trailing : ∀ c ∈ after, Text.isBlank c = true) :
      Spaced (key ++ '=' :: value)
        (before ++ key ++ behind ++ '=' :: (ahead ++ value ++ after))

/-- Nothing but blanks, or an item for another driver. -/
def Foreign (item : List Char) : Prop :=
  (∀ c ∈ item, Text.isBlank c = true) ∨ keyOf item ∉ knownKeys

inductive Dressed : List (List Char) → List (List Char) → Prop
  | nil : Dressed [] []
  | item {first second : List Char} {rest others : List (List Char)} (spaced : Spaced first second)
      (later : Dressed rest others) : Dressed (first :: rest) (second :: others)
  | foreign {item : List Char} {rest others : List (List Char)} (foreign : Foreign item)
      (later : Dressed rest others) : Dressed rest (item :: others)

theorem plain_of_blank {text : List Char} (blank : ∀ c ∈ text, Text.isBlank c = true) :
    '=' ∉ text := by
  intro member
  have : Text.isBlank '=' = true := blank '=' member
  exact absurd this (by decide)

theorem Spaced.keyAndValue_eq {first second : List Char} (spaced : Spaced first second) :
    keyAndValue second = keyAndValue first := by
  cases spaced with
  | @bare _ before after plain leading trailing =>
      have free : '=' ∉ before ++ first ++ after := by
        simp [plain, plain_of_blank leading, plain_of_blank trailing]
      rw [keyAndValue_bare plain, keyAndValue_bare free, Text.trim_padded leading trailing]
  | @valued key value before behind ahead after plain leading closing opening trailing =>
      have free : '=' ∉ before ++ key ++ behind := by
        simp [plain, plain_of_blank leading, plain_of_blank closing]
      rw [keyAndValue_valued plain, keyAndValue_valued free, Text.trim_padded leading closing,
        Text.trim_padded opening trailing]

theorem Foreign.read {item : List Char} (foreign : Foreign item) : read item = .ok none := by
  refine read_unknown ?_
  rcases foreign with blank | unknown
  · have empty := keyAndValue_bare (plain_of_blank blank)
    rw [keyAndValue_eq, Text.trim_of_blank blank] at empty
    have key : keyOf item = String.ofList [] := congrArg Prod.fst empty
    rw [key]
    decide
  · exact unknown

theorem Dressed.readAll_eq {items dressed : List (List Char)} (outfit : Dressed items dressed) :
    readAll dressed = readAll items := by
  induction outfit with
  | nil => rfl
  | item spaced later ih => simp only [readAll, Directive.read, spaced.keyAndValue_eq, ih]
  | @foreign _ rest _ foreign later ih =>
      rw [readAll, foreign.read, ih]
      cases readAll rest with
      | _ => rfl

end Directive

/-- Arguments in two halves give the script of the first half overlaid by that of the second, the
first half's fault ahead of the second's; and however the items of arguments are spaced and mixed
with foreign ones, the script or the fault remains. -/
theorem Script.ofArgs_overlaid :
    (∀ first second : String,
      ofArgs (first ++ "," ++ second) = inTurn (ofArgs first) (ofArgs second)) ∧
    ∀ (args : String) (dressed : List (List Char)),
      Directive.Dressed (Text.splitOn ',' args.toList) dressed →
      (∀ item ∈ dressed, ',' ∉ item) → ofArgs (argsOf dressed) = ofArgs args := by
  constructor
  · exact ofArgs_append
  · intro args dressed outfit free
    rw [ofArgs_argsOf free, outfit.readAll_eq, ofArgs]

/-- A foreign item in front, blanks around the parts of the item, and an empty item behind; and in
two halves, the second of which sets anew what the first had set. -/
theorem Script.ofArgs_overlaid_of_dressed :
    let args := "reject-fifo=2"
    let dressed := ["type=b200".toList, " reject-fifo = 2".toList, []]
    Directive.Dressed (Text.splitOn ',' args.toList) dressed ∧
      (∀ item ∈ dressed, ',' ∉ item) ∧
      ofArgs "type=b200, reject-fifo = 2," = .ok { rejectedFifo := some 2 } ∧
      ofArgs "fail-open,reject-fifo=1,reject-fifo=2" =
        .ok { failOpen := true, rejectedFifo := some 2 } := by
  intro args dressed
  have blank : ∀ c ∈ [' '], Text.isBlank c = true := List.forall_mem_singleton.mpr (by decide)
  have spaced : Directive.Spaced "reject-fifo=2".toList " reject-fifo = 2".toList :=
    @Directive.Spaced.valued "reject-fifo".toList ['2'] [' '] [' '] [' '] [] (by decide) blank
      blank blank (by simp)
  have single : Text.splitOn ',' args.toList = ["reject-fifo=2".toList] := by decide
  have outfit : Directive.Dressed (Text.splitOn ',' args.toList) dressed := by
    rw [single]
    exact .foreign (.inr (by decide)) (.item spaced (.foreign (.inl (by simp)) .nil))
  have free : ∀ item ∈ dressed, ',' ∉ item := by decide
  have script : ofArgs args = .ok { rejectedFifo := some 2 } := by decide
  have first : ofArgs "fail-open,reject-fifo=1" =
      .ok { failOpen := true, rejectedFifo := some 1 } := by decide
  have joined := ofArgs_overlaid.1 "fail-open,reject-fifo=1" args
  rw [first, script] at joined
  exact ⟨outfit, free, (ofArgs_overlaid.2 args dressed outfit free).trans script, joined⟩

end Transceiver
