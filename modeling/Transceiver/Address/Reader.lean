import Transceiver.Address.Basic

/-!
Reading an address. A version 4 part is four numbers of one to three digits without leading zeros; a
version 6 address is eight groups of one to four hexadecimal digits, of which one run may be left
out between two colons and the last two may be written as a version 4 part. A reader returns what
it read and the text behind it, and takes nothing when it fails.
-/

namespace Transceiver.Address

def hexValue? (c : Char) : Option Nat :=
  if c.isDigit then some (c.toNat - '0'.toNat)
  else if 'a' ≤ c && c ≤ 'f' then some (c.toNat - 'a'.toNat + 10)
  else if 'A' ≤ c && c ≤ 'F' then some (c.toNat - 'A'.toNat + 10)
  else none

def readOctet (text : List Char) : Option (Nat × List Char) :=
  let digits := text.takeWhile Char.isDigit
  let value := Nat.ofDigitChars 10 digits 0
  if digits = [] || 3 < digits.length || 255 < value then none
  else if digits.head? = some '0' && 1 < digits.length then none
  else some (value, text.dropWhile Char.isDigit)

def readGroup (text : List Char) : Option (Nat × List Char) :=
  let digits := text.takeWhile fun c => (hexValue? c).isSome
  if digits = [] || 4 < digits.length then none
  else
    some (digits.foldl (fun value c => value * 16 + (hexValue? c).getD 0) 0,
      text.dropWhile fun c => (hexValue? c).isSome)

def readMark (mark : Char) : List Char → Option (List Char)
  | [] => none
  | c :: rest => if c = mark then some rest else none

def readDottedOctet (text : List Char) : Option (Nat × List Char) := do
  readOctet (← readMark '.' text)

def readQuad (text : List Char) : Option (Vector Nat 4 × List Char) := do
  let (a, text) ← readOctet text
  let (b, text) ← readDottedOctet text
  let (c, text) ← readDottedOctet text
  let (d, text) ← readDottedOctet text
  return (#v[a, b, c, d], text)

structure Groups where
  values : List Nat
  endsInQuad : Bool
  rest : List Char

/-- Reads at most `room` groups, each but the very first behind a colon. A version 4 part needs room
for two groups and ends the run. -/
def readGroups (isFirst : Bool) (text : List Char) : Nat → Groups
  | 0 => ⟨[], false, text⟩
  | room + 1 =>
      let body := if isFirst then some text else readMark ':' text
      let quad := if room = 0 then none else body.bind readQuad
      match quad with
      | some (octets, rest) =>
          ⟨[octets[0] * 256 + octets[1], octets[2] * 256 + octets[3]], true, rest⟩
      | none =>
          match body.bind readGroup with
          | some (group, rest) =>
              let more := readGroups false rest room
              ⟨group :: more.values, more.endsInQuad, more.rest⟩
          | none => ⟨[], false, text⟩

def expand (front back : List Nat) : List Nat :=
  front ++ List.replicate (8 - front.length - back.length) 0 ++ back

def readGroupsText (text : List Char) : Option (List Nat × List Char) :=
  let front := readGroups true text 8
  if front.values.length = 8 then some (front.values, front.rest)
  else if front.endsInQuad then none
  else do
    let rest ← readMark ':' front.rest
    let rest ← readMark ':' rest
    let back := readGroups true rest (7 - front.values.length)
    return (expand front.values back.values, back.rest)

def ofGroups (groups : List Nat) : Address :=
  .v6 (Vector.ofFn fun index : Fin 8 => UInt16.ofNat (groups.getD index 0))

def read (text : List Char) : Option Address :=
  match readQuad text with
  | some (octets, []) => some (.v4 (octets.map UInt8.ofNat))
  | some _ => none
  | none =>
      match readGroupsText text with
      | some (groups, []) => some (ofGroups groups)
      | _ => none

def syntaxMessage : String := "invalid IP address syntax"

end Transceiver.Address
