import LongPoll.Text.Digits
/-!
# Percent escapes

Octets written as a percent sign and two hexadecimal digits. A percent sign without two such digits
after it stands for itself, so that every run of octets can be read.
-/

namespace LongPoll.Text

/-- The percent sign. -/
def percentSign : UInt8 := 0x25

/-- The value of a hexadecimal digit. -/
def hexValue? (b : UInt8) : Option Nat :=
  (digitValue? (Char.ofNat b.toNat)).filter (· < 16)

/-- The octets with every escape replaced by the octet it stands for. -/
def unescape : List UInt8 → List UInt8
  | b :: high :: low :: rest =>
    match b == percentSign, hexValue? high, hexValue? low with
    | true, some h, some l => UInt8.ofNat (h * 16 + l) :: unescape rest
    | _, _, _ => b :: unescape (high :: low :: rest)
  | octets => octets

end LongPoll.Text
