import Mathlib.Data.List.Induction
import Mathlib.Data.List.Nodup
import Std.Data.String.ToNat
import Transceiver.Config.Summary
import Transceiver.Proofs.Text.Pieces

/-!
What can be told from the summary of a configuration. The device arguments stand in it as they were
given, and may break lines or imitate the lines around them; but the two lines before them and the
thirteen behind them hold no line break of their own. So the summary is taken apart from both of its
ends, and the arguments are what is left.
-/

namespace Transceiver

open Number (Binary64 Decimal)
open Text

namespace Address

theorem solid_joined {separator : Char} (visible : isBlank separator = false)
    {pieces : List (List Char)} (each : ∀ piece ∈ pieces, Solid piece) :
    Solid (joined separator pieces) := by
  induction pieces with
  | nil => simp [joined, Solid]
  | cons piece rest ih =>
      have first := each piece List.mem_cons_self
      have others := ih fun other member => each other (List.mem_cons_of_mem piece member)
      cases rest with
      | nil => exact first
      | cons next more =>
          rw [joined, solid_append, solid_cons]
          · exact ⟨first, visible, others⟩
          · simp

theorem solid_dotted (octets : List Nat) : Solid (dotted octets) := by
  refine solid_joined (by decide) ?_
  intro piece member
  obtain ⟨octet, _, rfl⟩ := List.mem_map.mp member
  exact solid_decimal octet

theorem solid_grouped (groups : List Nat) : Solid (grouped groups) := by
  refine solid_joined (by decide) ?_
  intro piece member
  obtain ⟨group, _, rfl⟩ := List.mem_map.mp member
  exact solid_toDigits (by omega) (by omega) group

theorem solid_compressed (groups : List Nat) : Solid (compressed groups) := by
  have colon : isBlank ':' = false := by decide
  rw [compressed]
  split
  · simp only [solid_append, solid_cons]
    exact ⟨solid_grouped _, colon, colon, solid_grouped _⟩
  · exact solid_grouped groups

/-- The text of an address is one word. -/
theorem solid_text (address : Address) : Solid address.text.toList := by
  cases address with
  | v4 octets =>
      rw [text, String.toList_ofList]
      exact solid_dotted _
  | v6 groups =>
      rw [text, String.toList_ofList]
      unfold groupsText
      split
      · rw [solid_append]
        exact ⟨by decide, solid_dotted _⟩
      · exact solid_compressed _

end Address

namespace Number

theorem solid_positional (decimal : Decimal) : Solid decimal.positional := by
  rw [Decimal.positional]
  split
  · exact solid_decimal _
  · simp only [solid_append, solid_cons]
    refine ⟨solid_decimal _, by decide, ?_, solid_decimal _⟩
    intro c member
    rw [(List.mem_replicate.mp member).2]
    decide

/-- The text of a number is one word, also where it stands for no number. -/
theorem solid_text (number : Binary64) : Solid number.text.toList := by
  rw [Binary64.text]
  split
  · decide
  · rw [String.toList_ofList]
    have magnitude : Solid
        (if number.isInfinite then ['i', 'n', 'f']
          else if number.isZero then ['0']
          else (number.scaled.shortest.stripped 20).positional) := by
      split
      · decide
      · split
        · decide
        · exact solid_positional _
    split
    · exact solid_cons.mpr ⟨by decide, magnitude⟩
    · exact magnitude

end Number

namespace Config

def line (entry : String × String) : List Char :=
  '\n' :: ("   " ++ entry.1 ++ entry.2).toList

def closing (config : Config) : List (String × String) :=
  config.entries.drop 2

structure PrintAlike (first second : Config) : Prop where
  logLevel : first.logLevel = second.logLevel
  deviceArgs : first.deviceArgs = second.deviceArgs
  port : first.port = second.port
  localAddress : first.localAddress.text = second.localAddress.text
  remoteAddress : first.remoteAddress.text = second.remoteAddress.text
  channels : first.channels = second.channels
  txRate : first.txRate = second.txRate
  rxRate : first.rxRate = second.rxRate
  edge : first.edge = second.edge
  reference : first.reference = second.reference
  filler : first.filler = second.filler
  multiArfcn : first.multiArfcn = second.multiArfcn
  offset : first.offset.text = second.offset.text
  rssiOffset : first.rssiOffset.text = second.rssiOffset.text
  swapChannels : first.swapChannels = second.swapChannels

theorem toList_summary (config : Config) :
    config.summary.toList = "Config Settings".toList ++ config.entries.flatMap line := by
  have folded (entries : List (String × String)) (text : String) :
      (entries.foldl (fun text entry => text ++ "\n   " ++ entry.1 ++ entry.2) text).toList =
        text.toList ++ entries.flatMap line := by
    induction entries generalizing text with
    | nil => simp
    | cons entry rest ih =>
        rw [List.foldl_cons, ih]
        simp [line]
  exact folded config.entries "Config Settings"

/-- The log level is told in the second line, and the device arguments begin in the third. -/
theorem toList_summary_split (config : Config) :
    config.summary.toList =
      "Config Settings".toList ++ '\n' :: ("   Log Level............... ".toList ++
        config.logLevel.name.toList ++ '\n' :: ("   Device args............. ".toList ++
          (config.deviceArgs.toList ++ config.closing.flatMap line))) := by
  rw [toList_summary]
  have parted : config.entries = ("Log Level............... ", config.logLevel.name) ::
      ("Device args............. ", config.deviceArgs) :: config.closing := rfl
  rw [parted]
  simp [line]

def Unbroken (entry : String × String) : Prop :=
  '\n' ∉ entry.1.toList ∧ '\n' ∉ entry.2.toList

theorem Unbroken.line {entry : String × String} (unbroken : Unbroken entry) :
    '\n' ∉ ("   " ++ entry.1 ++ entry.2).toList := by
  simp [unbroken.1, unbroken.2]

/-- Whatever text comes before them, unbroken entries under the same labels are read back from the
end. -/
theorem eq_of_flatMap_line {entries others : List (String × String)} {body other : List Char}
    (labels : entries.map Prod.fst = others.map Prod.fst)
    (unbroken : ∀ entry ∈ entries, Unbroken entry) (unbrokenToo : ∀ entry ∈ others, Unbroken entry)
    (same : body ++ entries.flatMap line = other ++ others.flatMap line) :
    body = other ∧ entries = others := by
  induction entries using List.reverseRecOn generalizing others with
  | nil =>
      have none : others = [] := by simpa using labels.symm
      subst none
      simpa using same
  | append_singleton front last ih =>
      rcases List.eq_nil_or_concat others with rfl | ⟨before, final, rfl⟩
      · simp at labels
      · rw [List.concat_eq_append] at *
        rw [List.map_append, List.map_append] at labels
        obtain ⟨earlier, label⟩ := List.append_inj' labels rfl
        rw [List.flatMap_append, List.flatMap_append, ← List.append_assoc, ← List.append_assoc,
          List.flatMap_singleton, List.flatMap_singleton] at same
        obtain ⟨fronts, lasts⟩ := eq_of_last_separator same
          (unbroken last (by simp)).line (unbrokenToo final (by simp)).line
        have sameLabel : last.1 = final.1 := List.singleton_inj.mp label
        have sameValue : last.2 = final.2 := by
          have texts := String.toList_injective lasts
          rw [sameLabel] at texts
          exact String.append_right_inj _ |>.mp texts
        obtain ⟨bodies, rfl⟩ := ih earlier
          (fun entry member => unbroken entry (List.mem_append_left _ member))
          (fun entry member => unbrokenToo entry (List.mem_append_left _ member)) fronts
        exact ⟨bodies, by rw [Prod.ext sameLabel sameValue]⟩

/-- Where a list of all values has distinct texts, a text tells its value. -/
theorem text_injective {α : Type} {text : α → String} (all : List α)
    (complete : ∀ value, value ∈ all) (distinct : (all.map text).Nodup) :
    Function.Injective text := by
  intro first second same
  exact List.inj_on_of_nodup_map distinct (complete first) (complete second) same

theorem logLevel_injective : Function.Injective LogLevel.name := by
  refine text_injective LogLevel.all ?_ (by decide)
  intro level
  cases level with
  | _ => decide

theorem rate_injective : Function.Injective Rate.name := by
  refine text_injective [.one, .four] ?_ (by decide)
  intro rate
  cases rate with
  | _ => decide

theorem enabled_injective : Function.Injective enabled := by
  refine text_injective [true, false] ?_ (by decide)
  intro flag
  cases flag with
  | _ => decide

theorem reference_injective : Function.Injective Reference.name := by
  refine text_injective [.internal, .external, .gps] ?_ (by decide)
  intro reference
  cases reference with
  | _ => decide

theorem filler_injective : Function.Injective Filler.name := by
  refine text_injective [.dummy, .zero, .normalRandom, .edgeRandom, .accessRandom] ?_ (by decide)
  intro filler
  cases filler with
  | _ => decide

theorem unbroken_closing (config : Config) : ∀ entry ∈ config.closing, Unbroken entry := by
  have decimal (number : Nat) : '\n' ∉ Nat.toDigits 10 number := (solid_decimal number).unbroken
  have rate (rate : Rate) : '\n' ∉ rate.name.toList := by
    cases rate with
    | _ => decide
  have flag (flag : Bool) : '\n' ∉ (enabled flag).toList := by
    cases flag with
    | _ => decide
  have reference (reference : Reference) : '\n' ∉ reference.name.toList := by
    cases reference with
    | _ => decide
  have filler (filler : Filler) : '\n' ∉ filler.name.toList := by
    cases filler with
    | _ => decide
  have address (address : Address) : '\n' ∉ address.text.toList := address.solid_text.unbroken
  have number (number : Binary64) : '\n' ∉ number.text.toList := (Number.solid_text number).unbroken
  simp [closing, entries, Unbroken, decimal, rate, flag, reference, filler, address, number]

theorem parts_of_summary {first second : Config} (same : first.summary = second.summary) :
    first.logLevel = second.logLevel ∧ first.deviceArgs = second.deviceArgs ∧
      first.closing = second.closing := by
  have level (level : LogLevel) :
      '\n' ∉ "   Log Level............... ".toList ++ level.name.toList := by
    cases level with
    | _ => decide
  have texts := congrArg String.toList same
  rw [toList_summary_split, toList_summary_split] at texts
  obtain ⟨_, below⟩ := List.cons.inj (List.append_cancel_left texts)
  obtain ⟨levels, rest⟩ := eq_of_first_separator below (level _) (level _)
  have names := String.toList_injective (List.append_cancel_left levels)
  have labels : first.closing.map Prod.fst = second.closing.map Prod.fst := rfl
  obtain ⟨_, broken⟩ := List.cons.inj rest
  obtain ⟨arguments, closings⟩ := eq_of_flatMap_line labels (unbroken_closing first)
    (unbroken_closing second) (List.append_cancel_left broken)
  exact ⟨logLevel_injective names, String.toList_injective arguments, closings⟩

theorem printAlike_of_summary {first second : Config} (same : first.summary = second.summary) :
    PrintAlike first second := by
  obtain ⟨level, arguments, closings⟩ := parts_of_summary same
  simp only [closing, entries, List.drop_succ_cons, List.drop_zero, List.cons.injEq,
    Prod.mk.injEq, true_and, and_true] at closings
  obtain ⟨port, localText, remoteText, channels, txRate, rxRate, edge, reference, filler,
    multiArfcn, offset, rssiOffset, swapChannels⟩ := closings
  exact {
    logLevel := level
    deviceArgs := arguments
    port := UInt16.toNat_inj.mp (Nat.repr_injective port)
    localAddress := localText
    remoteAddress := remoteText
    channels := Nat.repr_injective channels
    txRate := rate_injective txRate
    rxRate := rate_injective rxRate
    edge := enabled_injective edge
    reference := reference_injective reference
    filler := filler_injective filler
    multiArfcn := enabled_injective multiArfcn
    offset := offset
    rssiOffset := rssiOffset
    swapChannels := enabled_injective swapChannels }

theorem summary_of_printAlike {first second : Config} (alike : PrintAlike first second) :
    first.summary = second.summary := by
  have entries : first.entries = second.entries := by
    simp only [Config.entries, alike.logLevel, alike.deviceArgs, alike.port, alike.localAddress,
      alike.remoteAddress, alike.channels, alike.txRate, alike.rxRate, alike.edge, alike.reference,
      alike.filler, alike.multiArfcn, alike.offset, alike.rssiOffset, alike.swapChannels]
  rw [summary, summary, entries]

/-- The summary tells every setting that it prints, whatever the device arguments hold, and an
address or an offset by a text without blanks. -/
theorem summary_unambiguous (first second : Config) :
    (first.summary = second.summary ↔ PrintAlike first second) ∧
      (∀ address : Address, Solid address.text.toList) ∧
      ∀ number : Binary64, Solid number.text.toList :=
  ⟨⟨printAlike_of_summary, summary_of_printAlike⟩, Address.solid_text, Number.solid_text⟩

end Config

end Transceiver
