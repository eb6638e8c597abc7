import LongPoll.Decimal
import LongPoll.Settings.Document
/-!
# The meaning of plain scalars

Which texts would be read as something other than text if they were written without quotes: `null`,
truth values, whole numbers of up to 128 bits, and finite and infinite decimal fractions.
-/

namespace LongPoll.Yaml

/-- Whether the text is a whole number that is not negative. -/
def isNatural (s : String) : Bool := (Document.natWord? s).any (· < Nat.pow 2 128)

/-- Whether the text is a negative whole number. -/
def isNegative (s : String) : Bool :=
  match s.toList with
  | '-' :: cs =>
    let magnitude := match cs with
      | '0' :: 'x' :: rest => Text.readNat? 16 rest
      | '0' :: 'o' :: rest => Text.readNat? 8 rest
      | '0' :: 'b' :: rest => Text.readNat? 2 rest
      | _ => if Document.isZeroPadded cs then none else Text.readNat? 10 cs
    magnitude.any (· ≤ Nat.pow 2 127)
  | _ => false

/-- Whether the characters are a finite decimal fraction, perhaps with a sign. -/
def isFraction (cs : List Char) : Bool :=
  (Decimal.read? (Decimal.withoutSign cs)).any (·.isFinite)

/-- Whether the text is a decimal fraction, infinite, or no number at all. -/
def isDecimal (s : String) : Bool :=
  let cs := s.toList
  let unsigned := match cs with
    | '+' :: rest => rest
    | _ => cs
  let infinite (cs : List Char) : Bool :=
    [".inf", ".Inf", ".INF"].any fun word => cs == word.toList
  if cs.head? == some '+' && (unsigned.head? == some '+' || unsigned.head? == some '-') then false
  else
    infinite unsigned || (cs.head? == some '-' && infinite cs.tail) ||
      [".nan", ".NaN", ".NAN"].contains s || isFraction unsigned

/-- Whether the text means something else than itself when it is written without quotes. -/
def isTyped (s : String) : Bool :=
  s.isEmpty || Document.isNullWord s || (Document.boolWord? s).isSome || isNatural s ||
    isNegative s || isDecimal s

end LongPoll.Yaml
