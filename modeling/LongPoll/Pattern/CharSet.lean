/-!
# Sets of characters

The sets that one position of a pattern can match. A set is built from ranges and from named
properties; a property is given by its ASCII members and by the number of ranges that its other
members take up, since the texts that patterns are matched against are identifiers and so ASCII.
-/

namespace LongPoll

/-- A set of characters. -/
inductive CharSet where
  /-- No character. -/
  | empty
  /-- The characters from `low` to `high`, both included. -/
  | range (low high : Nat)
  /-- The ASCII characters in the ranges listed, and others in `spread` ranges. -/
  | property (ascii : List (Nat × Nat)) (spread : Nat)
  /-- The members of either set. -/
  | union (a b : CharSet)
  /-- The common members. -/
  | inter (a b : CharSet)
  /-- The members of the first set only. -/
  | diff (a b : CharSet)
  /-- The members of exactly one of the sets. -/
  | symDiff (a b : CharSet)
  /-- All other characters. -/
  | compl (a : CharSet)
  /-- The members in either case. -/
  | anyCase (a : CharSet)
  deriving Repr

namespace CharSet

/-- The codes of the characters that differ from the given one in case only. The two that lie
outside ASCII are the Kelvin sign and the long s. -/
def otherCases (code : Nat) : List Nat :=
  if 0x41 ≤ code ∧ code ≤ 0x5A then
    (code + 32) :: (if code = 0x4B then [0x212A] else if code = 0x53 then [0x17F] else [])
  else if 0x61 ≤ code ∧ code ≤ 0x7A then
    (code - 32) :: (if code = 0x6B then [0x212A] else if code = 0x73 then [0x17F] else [])
  else if code = 0x212A then [0x4B, 0x6B]
  else if code = 0x17F then [0x53, 0x73]
  else []

/-- Whether the set has the character with this code. -/
def has : CharSet → Nat → Bool
  | empty, _ => false
  | range low high, code => low ≤ code && code ≤ high
  | property ascii _, code => ascii.any fun (low, high) => low ≤ code && code ≤ high
  | union a b, code => a.has code || b.has code
  | inter a b, code => a.has code && b.has code
  | diff a b, code => a.has code && !b.has code
  | symDiff a b, code => a.has code != b.has code
  | compl a, code => !a.has code
  | anyCase a, code => a.has code || (otherCases code).any a.has

/-- The set of one character. -/
def single (c : Char) : CharSet := range c.toNat c.toNat

/-- Whether no octet beyond ASCII is in the set. -/
def isAscii (a : CharSet) : Bool :=
  (List.range 128).all fun i => !a.has (i + 128)

/-- About how many ranges of characters beyond ASCII the set consists of. -/
def spread : CharSet → Nat
  | empty => 0
  | range _ high => if high < 128 then 0 else 1
  | property _ spread => spread
  | union a b => a.spread + b.spread
  | inter a b => Nat.max a.spread b.spread
  | diff a b => a.spread + b.spread
  | symDiff a b => a.spread + b.spread
  | compl a => a.spread + 1
  | anyCase a => a.spread

/-- The number of ranges of ASCII characters the set consists of. -/
def asciiRanges (a : CharSet) : Nat :=
  (List.range 128).countP fun i => a.has i && (i == 0 || !a.has (i - 1))

end CharSet

end LongPoll
