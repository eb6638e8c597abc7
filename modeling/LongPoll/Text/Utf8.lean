/-!
# UTF-8 octets

Reading octets as text. A strict reading exists only for well-formed octets; a lossy reading
always exists and shows one replacement character for every maximal part of the octets that
begins like a character and cannot be finished.
-/

namespace LongPoll.Text

/-- The character that stands for octets that are no text. -/
def replacement : Char := '\uFFFD'

/-- For an octet that opens a longer character: how many octets follow it, and the least and
greatest value of the first of them. -/
def openingOctet? (b : UInt8) : Option (Nat × UInt8 × UInt8) :=
  if 0xC2 ≤ b && b ≤ 0xDF then some (1, 0x80, 0xBF)
  else if b == 0xE0 then some (2, 0xA0, 0xBF)
  else if b == 0xED then some (2, 0x80, 0x9F)
  else if 0xE1 ≤ b && b ≤ 0xEF then some (2, 0x80, 0xBF)
  else if b == 0xF0 then some (3, 0x90, 0xBF)
  else if 0xF1 ≤ b && b ≤ 0xF3 then some (3, 0x80, 0xBF)
  else if b == 0xF4 then some (3, 0x80, 0x8F)
  else none

/-- The payload bits of the octet that opens a character of `tails + 1` octets. -/
def openingBits (b : UInt8) (tails : Nat) : Nat :=
  b.toNat % (64 >>> tails)

/-- Take `tails` following octets, the first of them between `low` and `high`; the code point is
absent if they break off, and the octets not taken are returned either way. -/
def takeTails : (tails : Nat) → (low high : UInt8) → (bits : Nat) → List UInt8 →
    Option Nat × List UInt8
  | 0, _, _, bits, rest => (some bits, rest)
  | _ + 1, _, _, _, [] => (none, [])
  | tails + 1, low, high, bits, b :: rest =>
    if low ≤ b && b ≤ high then
      takeTails tails 0x80 0xBF (bits * 64 + b.toNat % 64) rest
    else (none, b :: rest)

/-- The first character of the octets `b :: rest`, absent if they do not begin with one, and the
octets after it. -/
def decodeFirst (b : UInt8) (rest : List UInt8) : Option Char × List UInt8 :=
  if b < 0x80 then (some (Char.ofNat b.toNat), rest)
  else
    match openingOctet? b with
    | none => (none, rest)
    | some (tails, low, high) =>
      let (code, rest) := takeTails tails low high (openingBits b tails) rest
      (code.map Char.ofNat, rest)

/-- The characters of at most `n` steps through the octets, with replacement characters. -/
def lossyChars : (n : Nat) → List UInt8 → List Char
  | 0, _ => []
  | _ + 1, [] => []
  | n + 1, b :: rest =>
    let (c, rest) := decodeFirst b rest
    c.getD replacement :: lossyChars n rest

/-- The octets as text, with a replacement character for each part that is no text. -/
def lossy (octets : ByteArray) : String :=
  String.ofList (lossyChars octets.size octets.toList)

/-- The characters of at most `n` steps through the octets, if all of them are text. -/
def strictChars? : (n : Nat) → List UInt8 → Option (List Char)
  | _, [] => some []
  | 0, _ :: _ => none
  | n + 1, b :: rest =>
    match decodeFirst b rest with
    | (some c, rest) => (strictChars? n rest).map (c :: ·)
    | (none, _) => none

/-- The octets as text, if they are well formed. -/
def strict? (octets : ByteArray) : Option String :=
  (strictChars? octets.size octets.toList).map String.ofList

end LongPoll.Text
