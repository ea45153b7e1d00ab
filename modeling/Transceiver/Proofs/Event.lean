import Transceiver.Event
import Transceiver.Proofs.Number.Value

/-!
When two events are equal: they record the same step with the same data, and where the data hold a
floating-point number, with numbers of the same value. So an event that carries a NaN is equal to
none, not even to itself, and the sign of a zero does not count.
-/

namespace Transceiver

open Number (Binary64)

structure DeviceParams.Equals (left right : DeviceParams) : Prop where
  txRate : left.txRate = right.txRate
  rxRate : left.rxRate = right.rxRate
  hint : left.hint = right.hint
  channels : left.channels = right.channels
  offset : left.offset.Equals right.offset

structure CoreParams.Equals (left right : CoreParams) : Prop where
  port : left.port = right.port
  localAddress : left.localAddress = right.localAddress
  remoteAddress : left.remoteAddress = right.remoteAddress
  txRate : left.txRate = right.txRate
  rxRate : left.rxRate = right.rxRate
  channels : left.channels = right.channels
  rssiOffset : left.rssiOffset.Equals right.rssiOffset

theorem DeviceParams.agrees_iff {left right : DeviceParams} :
    left.agrees right = true ↔ left.Equals right := by
  simp only [agrees, Bool.and_eq_true, Number.Binary64.agrees_iff, decide_eq_true_eq, mk.injEq,
    and_true]
  constructor
  · rintro ⟨offset, txRate, rxRate, hint, channels⟩
    exact ⟨txRate, rxRate, hint, channels, offset⟩
  · rintro ⟨txRate, rxRate, hint, channels, offset⟩
    exact ⟨offset, txRate, rxRate, hint, channels⟩

theorem CoreParams.agrees_iff {left right : CoreParams} :
    left.agrees right = true ↔ left.Equals right := by
  simp only [agrees, Bool.and_eq_true, Number.Binary64.agrees_iff, decide_eq_true_eq, mk.injEq,
    and_true]
  constructor
  · rintro ⟨rssiOffset, port, localAddress, remoteAddress, txRate, rxRate, channels⟩
    exact ⟨port, localAddress, remoteAddress, txRate, rxRate, channels, rssiOffset⟩
  · rintro ⟨port, localAddress, remoteAddress, txRate, rxRate, channels, rssiOffset⟩
    exact ⟨rssiOffset, port, localAddress, remoteAddress, txRate, rxRate, channels⟩

namespace Event

def number? : Event → Option Binary64
  | deviceMade params => some params.offset
  | coreBuilt params => some params.rssiOffset
  | _ => none

def withNumber (event : Event) (number : Binary64) : Event :=
  match event with
  | deviceMade params => deviceMade { params with offset := number }
  | coreBuilt params => coreBuilt { params with rssiOffset := number }
  | event => event

inductive Equals : Event → Event → Prop
  | deviceMade {left right : DeviceParams} (same : left.Equals right) :
      Equals (deviceMade left) (deviceMade right)
  | coreBuilt {left right : CoreParams} (same : left.Equals right) :
      Equals (coreBuilt left) (coreBuilt right)
  | numberless {event : Event} (none : event.number? = none) : Equals event event

theorem agrees_iff {left right : Event} : left.agrees right = true ↔ left.Equals right := by
  constructor
  · intro agrees
    cases left with
    | deviceMade params =>
        cases right with
        | deviceMade other => exact .deviceMade (DeviceParams.agrees_iff.mp agrees)
        | _ => simp [Event.agrees] at agrees
    | coreBuilt params =>
        cases right with
        | coreBuilt other => exact .coreBuilt (CoreParams.agrees_iff.mp agrees)
        | _ => simp [Event.agrees] at agrees
    | _ =>
        obtain rfl := of_decide_eq_true agrees
        exact .numberless rfl
  · intro equal
    cases equal with
    | deviceMade same => exact DeviceParams.agrees_iff.mpr same
    | coreBuilt same => exact CoreParams.agrees_iff.mpr same
    | numberless none =>
        cases left with
        | deviceMade | coreBuilt => cases none
        | _ => simp [Event.agrees]

theorem not_equals_of_isNaN {left right : Event} {number : Binary64}
    (carries : right.number? = some number) (nan : number.isNaN = true) : ¬left.Equals right := by
  intro equal
  have known : number.isNaN = false := by
    cases equal with
    | deviceMade same =>
        cases carries
        exact same.offset.known.2
    | coreBuilt same =>
        cases carries
        exact same.rssiOffset.known.2
    | numberless none =>
        rw [none] at carries
        cases carries
  rw [nan] at known
  cases known

theorem equals_of_isZero {zero another : Binary64} (isZero : zero.isZero = true)
    (isZeroToo : another.isZero = true) (event : Event) :
    (event.withNumber zero).Equals (event.withNumber another) := by
  have same := Number.Binary64.equals_of_isZero isZero isZeroToo
  cases event with
  | deviceMade params => exact .deviceMade ⟨rfl, rfl, rfl, rfl, same⟩
  | coreBuilt params => exact .coreBuilt ⟨rfl, rfl, rfl, rfl, rfl, rfl, same⟩
  | _ => exact .numberless rfl

end Event

end Transceiver
