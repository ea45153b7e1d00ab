import Std.Data.String.ToInt
import Transceiver.Proofs.Fault
import Transceiver.Proofs.Text.Pieces

/-!
The message of an error identifies it. The heading tells the stage; a priority, a code or a channel
behind it ends at a separator that no number holds; and what is left begins with the heading of a
fault, which none of the others begins. A text taken from elsewhere stands at the very end, so that
it cannot imitate any of this.
-/

namespace Transceiver

open Text

theorem isDigit_of_mem_natural {c : Char} {number : Nat} (member : c ∈ (toString number).toList) :
    c.isDigit = true := by
  rw [Nat.toString_eq_repr, Nat.toList_repr] at member
  exact Nat.isDigit_of_mem_toDigits (by omega) (by omega) member

theorem isDigit_of_mem_integer {c : Char} {number : Int} (member : c ∈ (toString number).toList) :
    c = '-' ∨ c.isDigit = true := by
  cases number with
  | ofNat number => exact .inr (isDigit_of_mem_natural member)
  | negSucc number =>
      have signed : toString (Int.negSucc number) = "-" ++ toString (number + 1) := rfl
      rw [signed, String.toList_append, List.mem_append] at member
      rcases member with sign | digit
      · exact .inl (List.mem_singleton.mp sign)
      · exact .inr (isDigit_of_mem_natural digit)

/-- A number is read off a text if the ending behind it starts with no character of a number. -/
theorem number_of_append (separator : Char) {first second : Int} {ending rest tail : String}
    (ends : ending.toList.head? = some separator) (signless : separator ≠ '-')
    (undigit : separator.isDigit = false)
    (same : toString first ++ ending ++ rest = toString second ++ ending ++ tail) :
    first = second ∧ rest = tail := by
  have free (number : Int) : separator ∉ (toString number).toList := by
    intro member
    rcases isDigit_of_mem_integer member with sign | digit
    · exact signless sign
    · rw [undigit] at digit
      cases digit
  obtain ⟨more, parted⟩ : ∃ more, ending.toList = separator :: more :=
    List.head?_eq_some_iff.mp ends
  have texts := congrArg String.toList same
  simp only [String.toList_append, parted, List.append_assoc, List.cons_append] at texts
  obtain ⟨numbers, rests⟩ := eq_of_first_separator texts (free first) (free second)
  exact ⟨Int.repr_injective (String.toList_injective numbers),
    String.toList_injective (List.append_cancel_left rests)⟩

namespace Fault

inductive Kind
  | device
  | interface
  | core
  | fifoClosed
  | fifoFull
  | invalidParameter
  | inputOutput
  deriving DecidableEq, Repr

def Kind.all : List Kind :=
  [device, interface, core, fifoClosed, fifoFull, invalidParameter, inputOutput]

theorem Kind.mem_all (kind : Kind) : kind ∈ all := by
  cases kind with
  | _ => simp [all]

def Kind.heading : Kind → String
  | device => "device error: "
  | interface => "radio interface error: "
  | core => "transceiver error: "
  | fifoClosed => "FIFO closed"
  | fifoFull => "FIFO full"
  | invalidParameter => "invalid parameter: "
  | inputOutput => "I/O error: "

def kind : Fault → Kind
  | device _ => .device
  | interface _ => .interface
  | core _ => .core
  | fifoClosed => .fifoClosed
  | fifoFull => .fifoFull
  | invalidParameter _ => .invalidParameter
  | inputOutput _ => .inputOutput

def detail : Fault → String
  | device text | interface text | core text | invalidParameter text | inputOutput text => text
  | fifoClosed | fifoFull => ""

theorem message_eq (fault : Fault) : fault.message = fault.kind.heading ++ fault.detail := by
  cases fault with
  | fifoClosed | fifoFull => exact String.append_empty.symm
  | _ => rfl

theorem eq_of_detail {first second : Fault} (kinds : first.kind = second.kind)
    (details : first.detail = second.detail) : first = second := by
  cases first with
  | _ =>
      cases second with
      | _ => simp_all [kind, detail]

theorem endsWith_source {fault : Fault} {source : String} (beneath : source ∈ fault.sources) :
    ∃ opening, fault.message = opening ++ source := by
  cases fault with
  | inputOutput text =>
      rw [List.mem_singleton.mp beneath]
      exact ⟨"I/O error: ", rfl⟩
  | _ => cases beneath

def reason : Option Fault → String
  | none => "no receive FIFO"
  | some fault => fault.message

def reasonHeading : Option Fault.Kind → String
  | none => "no receive FIFO"
  | some kind => kind.heading

theorem reasonHeading_apart (first second : Option Fault.Kind)
    (begins : (reasonHeading first).toList <+: (reasonHeading second).toList) : first = second := by
  have apart : ∀ first ∈ none :: Fault.Kind.all.map some,
      ∀ second ∈ none :: Fault.Kind.all.map some,
        (reasonHeading first).toList <+: (reasonHeading second).toList → first = second := by
    decide +kernel
  have complete (kind : Option Fault.Kind) : kind ∈ none :: Fault.Kind.all.map some := by
    cases kind with
    | none => exact List.mem_cons_self
    | some kind => exact List.mem_cons_of_mem none (List.mem_map_of_mem kind.mem_all)
  exact apart first (complete first) second (complete second) begins

theorem reason_eq (fault : Option Fault) :
    reason fault = reasonHeading (fault.map Fault.kind) ++ (fault.map Fault.detail).getD "" := by
  cases fault with
  | none => exact String.append_empty.symm
  | some fault => exact fault.message_eq

theorem reason_injective {first second : Option Fault} (same : reason first = reason second) :
    first = second := by
  rw [reason_eq, reason_eq] at same
  obtain ⟨kinds, details⟩ := heading_of_append reasonHeading_apart same
  cases first with
  | none =>
      cases second with
      | none => rfl
      | some fault => cases kinds
  | some fault =>
      cases second with
      | none => cases kinds
      | some other => rw [Fault.eq_of_detail (Option.some.inj kinds) details]

theorem message_injective {first second : Fault} (same : first.message = second.message) :
    first = second :=
  Option.some.inj (reason_injective same)

end Fault

namespace BootstrapError

open Fault (reason reason_injective message_injective)

variable {error first second : BootstrapError}

def Stage.opening : Stage → String
  | scheduling => "Setting SCHED_RR priority "
  | stage => stage.heading

theorem Stage.opening_apart (first second : Stage)
    (begins : first.opening.toList <+: second.opening.toList) : first = second := by
  have apart : ∀ first ∈ all, ∀ second ∈ all,
      first.opening.toList <+: second.opening.toList → first = second := by decide +kernel
  exact apart first first.mem_all second second.mem_all begins

def body : BootstrapError → String
  | scheduling priority cause => toString priority ++ " failed: " ++ cause
  | signalHandler _ cause => cause
  | negotiation fault | interfaceInit fault | coreInit fault => fault.message
  | unsupportedInterface code => toString code ++ ")"
  | missingFifo channel => toString channel ++ ": " ++ reason none
  | attachFailed channel fault => toString channel ++ ": " ++ reason (some fault)

theorem message_eq (error : BootstrapError) :
    error.message = error.stage.opening ++ error.body := by
  have regroup (opening number ending rest : String) :
      opening ++ number ++ (ending ++ rest) = opening ++ (number ++ ending ++ rest) := by
    rw [String.append_assoc, String.append_assoc]
  cases error with
  | scheduling priority cause => exact String.append_assoc.trans (regroup _ _ _ _)
  | unsupportedInterface code => exact String.append_assoc
  | missingFifo channel =>
      -- The colon belongs to the reason here, and is cut off so that both attachments read alike.
      have text : ": no receive FIFO" = ": " ++ reason none := rfl
      exact (congrArg (Stage.attachment.heading ++ toString channel ++ ·) text).trans
        (regroup _ _ _ _)
  | attachFailed channel fault => exact String.append_assoc.trans (regroup _ _ _ _)
  | _ => rfl

theorem code_of_body {code another : Nat}
    (same : (unsupportedInterface code).body = (unsupportedInterface another).body) :
    code = another := by
  -- Behind the bracket comes the empty text.
  have closed : toString (code : Int) ++ ")" ++ "" = toString (another : Int) ++ ")" ++ "" :=
    congrArg (· ++ "") same
  exact Int.ofNat.inj (number_of_append ')' rfl (by decide) (by decide) closed).1

theorem attachment_of_body {channel another : Nat} {fault other : Option Fault}
    (same : toString channel ++ ": " ++ reason fault = toString another ++ ": " ++ reason other) :
    channel = another ∧ fault = other := by
  have numbered : toString (channel : Int) ++ ": " ++ reason fault =
      toString (another : Int) ++ ": " ++ reason other := same
  obtain ⟨channels, reasons⟩ := number_of_append ':' rfl (by decide) (by decide) numbered
  exact ⟨Int.ofNat.inj channels, reason_injective reasons⟩

theorem eq_of_body (stages : first.stage = second.stage) (same : first.body = second.body) :
    first = second := by
  cases first with
  | scheduling priority cause =>
      cases second with
      | scheduling other another =>
          obtain ⟨rfl, rfl⟩ := number_of_append ' ' rfl (by decide) (by decide) same
          rfl
      | _ => cases stages
  | signalHandler signal cause =>
      cases second with
      | signalHandler other another =>
          cases stages
          exact congrArg (signalHandler signal) same
      | _ => cases stages
  | negotiation fault =>
      cases second with
      | negotiation other => exact congrArg negotiation (message_injective same)
      | _ => cases stages
  | unsupportedInterface code =>
      cases second with
      | unsupportedInterface another => exact congrArg unsupportedInterface (code_of_body same)
      | _ => cases stages
  | interfaceInit fault =>
      cases second with
      | interfaceInit other => exact congrArg interfaceInit (message_injective same)
      | _ => cases stages
  | coreInit fault =>
      cases second with
      | coreInit other => exact congrArg coreInit (message_injective same)
      | _ => cases stages
  | missingFifo channel =>
      cases second with
      | missingFifo another => exact congrArg missingFifo (attachment_of_body same).1
      | attachFailed another other => cases (attachment_of_body same).2
      | _ => cases stages
  | attachFailed channel fault =>
      cases second with
      | missingFifo another => cases (attachment_of_body same).2
      | attachFailed another other =>
          obtain ⟨rfl, faults⟩ := attachment_of_body same
          exact congrArg (attachFailed channel) (Option.some.inj faults)
      | _ => cases stages

theorem eq_of_message (same : first.message = second.message) : first = second := by
  rw [message_eq, message_eq] at same
  obtain ⟨stages, bodies⟩ := heading_of_append Stage.opening_apart same
  exact eq_of_body stages bodies

theorem endsWith_fault {opening source : String} {fault : Fault}
    (beneath : source ∈ fault.message :: fault.sources) :
    ∃ front, opening ++ fault.message = front ++ source := by
  rcases List.mem_cons.mp beneath with rfl | deeper
  · exact ⟨opening, rfl⟩
  · obtain ⟨front, ends⟩ := Fault.endsWith_source deeper
    exact ⟨opening ++ front, by rw [ends, String.append_assoc]⟩

/-- The message ends with the text of each error that lies beneath. -/
theorem endsWith_source {source : String} (beneath : source ∈ error.sources) :
    ∃ front, error.message = front ++ source := by
  cases error with
  | scheduling | signalHandler =>
      rw [List.mem_singleton.mp beneath]
      exact ⟨_, rfl⟩
  | negotiation | interfaceInit | coreInit | attachFailed => exact endsWith_fault beneath
  | unsupportedInterface | missingFifo => cases beneath

theorem sources_eq_nil_iff :
    error.sources = [] ↔
      (∃ code, error = unsupportedInterface code) ∨ ∃ channel, error = missingFifo channel := by
  cases error with
  | _ => simp [sources]

theorem channel_eq_some_iff {channel : Nat} :
    error.channel = some channel ↔
      error = missingFifo channel ∨ ∃ fault, error = attachFailed channel fault := by
  cases error with
  | _ => simp [BootstrapError.channel]

/-- The message of an error identifies it, so that a queue that is missing never reads like one that
was refused; it ends with the texts of what lies beneath, where anything does; and exactly the
errors of an attachment name a channel. -/
theorem message_identifies (error other : BootstrapError) :
    (error.message = other.message ↔ error = other) ∧
      (∀ channel another fault,
        (missingFifo channel).message ≠ (attachFailed another fault).message) ∧
      (∀ source ∈ error.sources, ∃ front, error.message = front ++ source) ∧
      (error.sources = [] ↔
        (∃ code, error = unsupportedInterface code) ∨ ∃ channel, error = missingFifo channel) ∧
      ∀ channel, error.channel = some channel ↔
        error = missingFifo channel ∨ ∃ fault, error = attachFailed channel fault := by
  refine ⟨⟨eq_of_message, ?_⟩, ?_, ?_, sources_eq_nil_iff, fun _ => channel_eq_some_iff⟩
  · rintro rfl
    rfl
  · intro channel another fault same
    cases eq_of_message same
  · exact fun _ beneath => endsWith_source beneath

-- The text of a fault may imitate all that stands before it.
example : (missingFifo 1).message ≠
    (attachFailed 1 (.core "Could not attach FIFO to channel 1: no receive FIFO")).message := by
  decide

end BootstrapError

end Transceiver
