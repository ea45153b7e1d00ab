import Std.Data.String.ToNat
import Transceiver.Fault

/-!
What the text logged at an error tells. The texts of a stage share a heading, no heading begins
another, and the code or the channel stands behind it; so a text tells the stage that failed, and
with it the code that was not supported or the channel that was not attached.
-/

namespace Transceiver

/-- Where no heading begins another, a text has one heading and one rest. -/
theorem heading_of_append {κ : Type} {heading : κ → String}
    (apart : ∀ first second, (heading first).toList <+: (heading second).toList → first = second)
    {first second : κ} {rest tail : String}
    (same : heading first ++ rest = heading second ++ tail) : first = second ∧ rest = tail := by
  have begins : (heading first).toList <+: (heading second ++ tail).toList := by
    rw [← same, String.toList_append]
    exact List.prefix_append _ _
  have starts : (heading second).toList <+: (heading second ++ tail).toList := by
    rw [String.toList_append]
    exact List.prefix_append _ _
  have equal : first = second := by
    rcases List.prefix_or_prefix_of_prefix begins starts with shorter | longer
    · exact apart first second shorter
    · exact (apart second first longer).symm
  subst equal
  exact ⟨rfl, (String.append_right_inj _).mp same⟩

namespace BootstrapError

inductive Stage
  | scheduling
  | signals (signal : Signal)
  | negotiation
  | capability
  | interface
  | core
  | attachment
  deriving DecidableEq, Repr

namespace Stage

def all : List Stage :=
  [scheduling, signals .interrupt, signals .terminate, negotiation, capability, interface, core,
    attachment]

theorem mem_all (stage : Stage) : stage ∈ all := by
  cases stage with
  | signals signal =>
      cases signal with
      | _ => simp [all]
  | _ => simp [all]

def heading : Stage → String
  | scheduling => "Setting SCHED_RR failed: "
  | signals signal => "Failed to install " ++ signal.name ++ " signal handler: "
  | negotiation => "Failed to create radio device: "
  | capability => "Unsupported radio interface configuration (type code "
  | interface => "Failed to initialize radio interface: "
  | core => "Failed to initialize transceiver: "
  | attachment => "Could not attach FIFO to channel "

def closing? : Stage → Option String
  | capability => some ")"
  | attachment => some ""
  | _ => none

theorem heading_apart (first second : Stage)
    (begins : first.heading.toList <+: second.heading.toList) : first = second := by
  have apart : ∀ first ∈ all, ∀ second ∈ all,
      first.heading.toList <+: second.heading.toList → first = second := by decide +kernel
  exact apart first first.mem_all second second.mem_all begins

end Stage

def stage : BootstrapError → Stage
  | scheduling _ _ => .scheduling
  | signalHandler signal _ => .signals signal
  | negotiation _ => .negotiation
  | unsupportedInterface _ => .capability
  | interfaceInit _ => .interface
  | coreInit _ => .core
  | missingFifo _ | attachFailed _ _ => .attachment

def number? : BootstrapError → Option Nat
  | unsupportedInterface code => some code
  | missingFifo channel | attachFailed channel _ => some channel
  | _ => none

/-- The text that is logged where the error arises: its message, save that a refused priority and
the reason of a failed attachment are left out. -/
def report : BootstrapError → String
  | scheduling _ cause => "Setting SCHED_RR failed: " ++ cause
  | missingFifo channel | attachFailed channel _ =>
      "Could not attach FIFO to channel " ++ toString channel
  | error => error.message

def detail : BootstrapError → String
  | scheduling _ cause | signalHandler _ cause => cause
  | negotiation fault | interfaceInit fault | coreInit fault => fault.message
  | unsupportedInterface code => toString code ++ ")"
  | missingFifo channel | attachFailed channel _ => toString channel

variable {error first second : BootstrapError}

theorem report_eq (error : BootstrapError) :
    error.report = error.stage.heading ++ error.detail := by
  cases error with
  | unsupportedInterface code => exact String.append_assoc
  | _ => rfl

theorem report_of_stage (scheduled : error.stage ≠ .scheduling)
    (attached : error.stage ≠ .attachment) : error.report = error.message := by
  cases error with
  | scheduling => exact absurd rfl scheduled
  | missingFifo | attachFailed => exact absurd rfl attached
  | _ => rfl

theorem closing?_of_number {number : Nat} (named : error.number? = some number) :
    ∃ closing, error.stage.closing? = some closing ∧ error.detail = toString number ++ closing := by
  cases error with
  | unsupportedInterface code =>
      cases named
      exact ⟨")", rfl, rfl⟩
  | missingFifo channel | attachFailed channel =>
      cases named
      exact ⟨"", rfl, String.append_empty.symm⟩
  | _ => cases named

theorem closing?_eq_none (unnamed : error.number? = none) : error.stage.closing? = none := by
  cases error with
  | unsupportedInterface | missingFifo | attachFailed => cases unnamed
  | _ => rfl

theorem number?_of_detail (stages : first.stage = second.stage)
    (details : first.detail = second.detail) : first.number? = second.number? := by
  cases named : first.number? with
  | none =>
      cases other : second.number? with
      | none => rfl
      | some number =>
          obtain ⟨closing, closes, _⟩ := closing?_of_number other
          rw [← stages, closing?_eq_none named] at closes
          cases closes
  | some number =>
      obtain ⟨closing, closes, detail⟩ := closing?_of_number named
      cases other : second.number? with
      | none =>
          rw [stages, closing?_eq_none other] at closes
          cases closes
      | some another =>
          obtain ⟨ending, ends, tail⟩ := closing?_of_number other
          rw [stages, ends, Option.some.injEq] at closes
          subst closes
          rw [detail, tail] at details
          exact congrArg some (Nat.repr_injective ((String.append_left_inj ending).mp details))

/-- Errors that are logged alike arose in one stage, and name the same code or channel. -/
theorem stage_of_report (same : first.report = second.report) :
    first.stage = second.stage ∧ first.number? = second.number? := by
  rw [report_eq, report_eq] at same
  obtain ⟨stages, details⟩ := heading_of_append Stage.heading_apart same
  exact ⟨stages, number?_of_detail stages details⟩

end BootstrapError

end Transceiver
