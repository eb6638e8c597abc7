import LongPoll.Text.Digits
/-!
# Decimal numbers

How decimal numbers are written, and which of them are within the reach of binary fractions of
double precision: 53 bits with an exponent of 11 bits.
-/

namespace LongPoll.Decimal

/-- The least number that is rounded to infinity, half a unit above the greatest finite fraction. -/
def overflow : Nat := Nat.pow 2 1024 - Nat.pow 2 970

/-- Whether the number of the digits times the power of ten is so small that the nearest binary
fraction is finite. The number of places tells it for all numbers but those of 309 places. -/
def isFinite (digits : List Char) (exponent : Int) : Bool :=
  let significant := digits.dropWhile (· == '0')
  let places := (significant.length : Int) + exponent
  if significant.isEmpty || places ≤ 308 then true
  else if 310 ≤ places then false
  else
    let n := (Text.readNat? 10 significant).getD 0
    n * Nat.pow 10 exponent.toNat < overflow * Nat.pow 10 (-exponent).toNat

/-- A written decimal fraction: its digits, and the power of ten that they are multiplied with. -/
structure Numeral where
  /-- The digits. -/
  digits : List Char
  /-- The power of ten. -/
  exponent : Int

/-- Whether the nearest binary fraction is finite. -/
def Numeral.isFinite (n : Numeral) : Bool := Decimal.isFinite n.digits n.exponent

/-- The exponent of a decimal fraction, which may be left out. -/
def readExponent? : List Char → Option Int
  | [] => some 0
  | c :: rest =>
    if c == 'e' || c == 'E' then
      match rest with
      | '-' :: digits => (Text.readNat? 10 digits).map fun n => -(n : Int)
      | '+' :: digits => (Text.readNat? 10 digits).map fun n => (n : Int)
      | digits => (Text.readNat? 10 digits).map fun n => (n : Int)
    else none

/-- Read a decimal fraction without a sign: digits with at most one point before, between or after
them, and perhaps an exponent. -/
def read? (cs : List Char) : Option Numeral :=
  let whole := cs.takeWhile Text.isDigit
  let rest := cs.dropWhile Text.isDigit
  let (decimals, rest) := match rest with
    | '.' :: rest => (rest.takeWhile Text.isDigit, rest.dropWhile Text.isDigit)
    | _ => ([], rest)
  let digits := whole ++ decimals
  if digits.isEmpty then none
  else (readExponent? rest).map fun exponent => ⟨digits, exponent - decimals.length⟩

/-- The characters after a sign, if there is one. -/
def withoutSign : List Char → List Char
  | '-' :: cs | '+' :: cs => cs
  | cs => cs

/-- Whether the characters are a number, perhaps with a sign: a decimal fraction, infinity, or what
is no number in name only. -/
def isNumber (cs : List Char) : Bool :=
  let unsigned := withoutSign cs
  let word := String.ofList (unsigned.map Char.toLower)
  (read? unsigned).isSome || word == "inf" || word == "infinity" || word == "nan"

end LongPoll.Decimal
