import Transceiver.Number.Binary64

/-!
Blocks of received baseband samples: interleaved in-phase and quadrature values under the time stamp
of the first one.
-/

namespace Transceiver

open Number (Binary32)

structure SampleVector where
  timestamp : UInt64
  samples : List Binary32
  deriving DecidableEq, Repr

namespace SampleVector

def length (vector : SampleVector) : Nat :=
  vector.samples.length / 2

def isEmpty (vector : SampleVector) : Bool :=
  vector.samples.length < 2

def samplesAgree : List Binary32 → List Binary32 → Bool
  | [], [] => true
  | x :: xs, y :: ys => x.agrees y && samplesAgree xs ys
  | _, _ => false

def agrees (left right : SampleVector) : Bool :=
  left.timestamp = right.timestamp && samplesAgree left.samples right.samples

end SampleVector

end Transceiver
