import Mathlib.Data.List.Nodup
import Mathlib.Data.List.Perm.Basic
import Transceiver.CommandLine.Options
import Transceiver.Proofs.Config.Settings

/-!
What choices amount to. Each choice writes fields of its own, apart from the filler, which three of
them share: for that one the later turn prevails. So the options do not depend on the order in which
distinct choices are given.
-/

namespace Transceiver.CommandLine

namespace Choice

end Choice

def fillerOf (given : List Letter) : Filler :=
  if .field .rachDelay ∈ given then .accessRandom
  else if .field .trainingSequence ∈ given then .normalRandom
  else if .switch .fillerTable ∈ given then .dummy
  else .zero

def inTurn (choices : List Choice) : List Choice :=
  let taken (turn : Nat) := choices.filter (·.turn = turn)
  taken 0 ++ taken 1 ++ taken 2 ++ taken 3

section

variable {α : Type} {choose : Setting → Option α} {letter : Letter} {shipped : α}
  (own : ∀ (choice : Choice) (value : α), choose choice.setting = some value →
    choice.letter = letter)
include own

end

end Transceiver.CommandLine
