import LongPoll.Word
/-!
# Digits

Numbers written with digits of a base, read without signs, separators or limits.
-/

namespace LongPoll.Text

/-- Whether the character is one of the ten ASCII digits. -/
def isDigit (c : Char) : Bool :=
  '0' ≤ c && c ≤ '9'

/-- Whether the character is an ASCII letter. -/
def isLetter (c : Char) : Bool :=
  ('a' ≤ c && c ≤ 'z') || ('A' ≤ c && c ≤ 'Z')

/-- Whether the character is an ASCII letter or digit. -/
def isLetterOrDigit (c : Char) : Bool :=
  isLetter c || isDigit c

/-- The value of a digit, letters of either case following the nine. -/
def digitValue? (c : Char) : Option Nat :=
  if isDigit c then some (c.toNat - '0'.toNat)
  else if 'a' ≤ c && c ≤ 'z' then some (c.toNat - 'a'.toNat + 10)
  else if 'A' ≤ c && c ≤ 'Z' then some (c.toNat - 'A'.toNat + 10)
  else none

/-- Extend a number by the digits of `base`, if all characters are such digits. -/
def extendNat? (base : Nat) : (value : Nat) → List Char → Option Nat
  | value, [] => some value
  | value, c :: cs =>
    match digitValue? c with
    | some d => if d < base then extendNat? base (value * base + d) cs else none
    | none => none

/-- The number that a non-empty run of digits of `base` writes. -/
def readNat? (base : Nat) (cs : List Char) : Option Nat :=
  if cs.isEmpty then none else extendNat? base 0 cs

/-- The characters after a plus sign, if there is one. -/
def withoutPlus : List Char → List Char
  | '+' :: cs => cs
  | cs => cs

/-- The number of at most 64 bits that digits write, perhaps after a plus sign. -/
def readWord? (cs : List Char) : Option Nat :=
  (readNat? 10 (withoutPlus cs)).filter (· < Word.values64)

/-- The characters of the decimal form of a number. -/
def decimal (n : Nat) : List Char :=
  Nat.toDigits 10 n

/-- The decimal form of a number, with zeros before it up to `width` characters. -/
def paddedDecimal (width n : Nat) : List Char :=
  List.replicate (width - (decimal n).length) '0' ++ decimal n

/-! ## Reading what is written -/

/-- No digit is a letter. -/
theorem isLetter_eq_false_of_isDigit {c : Char} (h : isDigit c = true) : isLetter c = false := by
  simp [isDigit, isLetter, Char.le_def] at h ⊢
  grind

/-- Digits have their code points. -/
theorem toNat_of_isDigit {c : Char} (h : isDigit c = true) : 48 ≤ c.toNat ∧ c.toNat ≤ 57 := by
  have hbounds : '0' ≤ c ∧ c ≤ '9' := by simpa [isDigit] using h
  exact hbounds

/-- Decimal numbers are written in digits. -/
theorem isDigit_of_mem_decimal {n : Nat} {c : Char} (h : c ∈ decimal n) : isDigit c = true := by
  have hdigit := Nat.isDigit_of_mem_toDigits (by decide) (by decide) h
  simpa [isDigit, Char.isDigit, Char.le_def] using hdigit

theorem decimal_ne_nil (n : Nat) : decimal n ≠ [] := Nat.toDigits_ne_nil

/-- Decimal digits are read after others as the number that they go on to write. -/
theorem extendNat?_ten {cs : List Char} (h : ∀ c ∈ cs, isDigit c = true) (value : Nat) :
    extendNat? 10 value cs = some (Nat.ofDigitChars 10 cs value) := by
  induction cs generalizing value with
  | nil => rfl
  | cons c cs ih =>
    obtain ⟨hc, hcs⟩ := List.forall_mem_cons.mp h
    have hlt : c.toNat - '0'.toNat < 10 := by
      have hle := (toNat_of_isDigit hc).2
      change c.toNat - 48 < 10
      omega
    rw [extendNat?, digitValue?, if_pos hc]
    dsimp only
    rw [if_pos hlt, ih hcs, Nat.ofDigitChars_cons, Nat.mul_comm]

/-- A run of decimal digits reads as the number that it writes. -/
theorem readNat?_ten {cs : List Char} (hne : cs ≠ []) (h : ∀ c ∈ cs, isDigit c = true) :
    readNat? 10 cs = some (Nat.ofDigitChars 10 cs 0) := by
  rw [readNat?, if_neg (by simp [hne]), extendNat?_ten h]

/-- The decimal form of a number writes that number. -/
theorem ofDigitChars_decimal (n : Nat) : Nat.ofDigitChars 10 (decimal n) 0 = n :=
  Nat.ofDigitChars_toDigits (by decide) (by decide)

end LongPoll.Text
