/-!
What the bootstrap negotiates with the radio hardware: sample rates, the clock reference, the filler
on idle slots, and the topology of the radio interface.
-/

namespace Transceiver

inductive Rate
  | one
  | four
  deriving DecidableEq, Repr

namespace Rate

def samples : Rate → Nat
  | one => 1
  | four => 4

def ofSamples? : Nat → Option Rate
  | 1 => some one
  | 4 => some four
  | _ => none

def name (rate : Rate) : String := toString rate.samples

end Rate

inductive Reference
  | internal
  | external
  | gps
  deriving DecidableEq, Repr, Inhabited

def Reference.name : Reference → String
  | internal => "Internal"
  | external => "External"
  | gps => "GPS"

inductive Filler
  | dummy
  | zero
  | normalRandom
  | edgeRandom
  | accessRandom
  deriving DecidableEq, Repr

instance : Inhabited Filler := ⟨.zero⟩

def Filler.name : Filler → String
  | dummy => "Dummy bursts"
  | zero => "Disabled"
  | normalRandom => "Normal bursts with random payload"
  | edgeRandom => "EDGE bursts with random payload"
  | accessRandom => "Access bursts with random payload"

inductive Topology
  | normal
  | resampled64
  | resampled100
  | multiArfcn
  deriving DecidableEq, Repr

namespace Topology

def code : Topology → Nat
  | normal => 0
  | resampled64 => 1
  | resampled100 => 2
  | multiArfcn => 3

def ofCode? : Nat → Option Topology
  | 0 => some normal
  | 1 => some resampled64
  | 2 => some resampled100
  | 3 => some multiArfcn
  | _ => none

def name : Topology → String
  | normal => "normal"
  | resampled64 => "resampled (64 MHz)"
  | resampled100 => "resampled (100 MHz)"
  | multiArfcn => "multi-ARFCN"

theorem ofCode?_eq_some_iff {code : Nat} {topology : Topology} :
    ofCode? code = some topology ↔ topology.code = code := by
  constructor
  · intro found
    unfold ofCode? at found
    split at found <;> cases found <;> rfl
  · rintro rfl
    cases topology <;> rfl

theorem ofCode?_eq_none_iff {code : Nat} : ofCode? code = none ↔ 3 < code := by
  unfold ofCode?
  split <;> simp_all
  omega

end Topology

inductive InterfaceKind
  | direct
  | resampling
  | multiCarrier
  deriving DecidableEq, Repr

def Topology.kind : Topology → InterfaceKind
  | normal => .direct
  | resampled64 | resampled100 => .resampling
  | multiArfcn => .multiCarrier

def Topology.width (topology : Topology) (channels : Nat) : Nat :=
  match topology.kind with
  | .resampling => 1
  | .direct | .multiCarrier => channels

end Transceiver
