/-!
Internet addresses of both families and their canonical text. A version 6 address compresses its
longest run of two or more zero groups, the first such run on a tie; an address that maps a
version 4 one is written with that address in dotted form.
-/

namespace Transceiver

inductive Address
  | v4 (octets : Vector UInt8 4)
  | v6 (groups : Vector UInt16 8)
  deriving DecidableEq, Repr

namespace Address

def loopback : Address := .v4 #v[127, 0, 0, 1]

def joined (separator : Char) : List (List Char) → List Char
  | [] => []
  | [text] => text
  | text :: rest => text ++ separator :: joined separator rest

def dotted (octets : List Nat) : List Char :=
  joined '.' (octets.map (Nat.toDigits 10))

def grouped (groups : List Nat) : List Char :=
  joined ':' (groups.map (Nat.toDigits 16))

structure ZeroRun where
  start : Nat
  length : Nat

def longestZeros (best : ZeroRun) (index current : Nat) : List Nat → ZeroRun
  | [] => best
  | group :: rest =>
      if group = 0 then
        let extended : ZeroRun := ⟨index - current, current + 1⟩
        longestZeros (if best.length < extended.length then extended else best)
          (index + 1) (current + 1) rest
      else longestZeros best (index + 1) 0 rest

def compressed (groups : List Nat) : List Char :=
  let run := longestZeros ⟨0, 0⟩ 0 0 groups
  if 1 < run.length then
    grouped (groups.take run.start) ++ ':' :: ':' :: grouped (groups.drop (run.start + run.length))
  else grouped groups

def groupsText (groups : List Nat) : List Char :=
  match groups with
  | [0, 0, 0, 0, 0, 0xFFFF, high, low] =>
      "::ffff:".toList ++ dotted [high / 256, high % 256, low / 256, low % 256]
  | groups => compressed groups

def text : Address → String
  | v4 octets => String.ofList (dotted (octets.toList.map UInt8.toNat))
  | v6 groups => String.ofList (groupsText (groups.toList.map UInt16.toNat))

end Address

end Transceiver
