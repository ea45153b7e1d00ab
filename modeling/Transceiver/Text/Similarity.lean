/-!
How similar two texts are, as a share between zero and one: the mean of the shares of their
characters that match and the share of the matches that stand in the same order. Two characters
match if they are equal and not too far from each other.
-/

namespace Transceiver.Text

def matchRange (left right : Nat) : Nat :=
  max left right / 2 - 1

def matchIndex? (range index : Nat) (c : Char) (places : List (Char × Bool)) : Option Nat :=
  (List.range places.length).find? fun place =>
    places[place]? = some (c, true) && index ≤ place + range && place ≤ index + range

def matchFrom (range : Nat) (places : List (Char × Bool)) (index : Nat) :
    List Char → List Char × List (Char × Bool)
  | [] => ([], places)
  | c :: rest =>
      match matchIndex? range index c places with
      | none => matchFrom range places (index + 1) rest
      | some place =>
          let (others, free) := matchFrom range (places.set place (c, false)) (index + 1) rest
          (c :: others, free)

def matching (left right : List Char) : List Char × List Char :=
  let range := matchRange left.length right.length
  let (matched, places) := matchFrom range (right.map (·, true)) 0 left
  (matched, (places.filter fun place => !place.2).map Prod.fst)

structure Share where
  part : Nat
  whole : Nat
  deriving DecidableEq, Repr

def Share.atMost (share bound : Share) : Bool :=
  share.part * bound.whole ≤ bound.part * share.whole

def similarity (left right : List Char) : Share :=
  let (ofLeft, ofRight) := matching left right
  let count := ofLeft.length
  let misplaced := ((ofLeft.zip ofRight).filter fun pair => pair.1 ≠ pair.2).length / 2
  if count = 0 then ⟨0, 1⟩
  else
    ⟨count * count * (left.length + right.length)
        + (count - misplaced) * left.length * right.length,
      3 * left.length * right.length * count⟩

end Transceiver.Text
