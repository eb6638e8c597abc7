import Mathlib.Algebra.Group.Nat.Defs
import Mathlib.Tactic.SplitIfs
/-!
# Texts are ordered as their octets

One text comes before another exactly if its octets come before those of the other. A character is
encoded as an octet that opens it and octets that follow, each with one digit of the code point to
the base 64. The opening octet of a greater character is greater, or it is the same and as many
octets follow it; these then compare as the digits do.

* `Text.utf8EncodeChar_eq`: the octets of a character.
* `Text.utf8EncodeChar_append_lt`: a lesser character is encoded as lesser octets, whatever follows.
* `Text.lt_iff_octets_lt`: texts compare as their octets.
-/

namespace LongPoll.Text

/-- The octets that a text is encoded as. -/
def octets (s : String) : List UInt8 := s.toUTF8.data.toList

/-! ### Characters -/

/-- How many octets follow the one that opens the character of a code point. -/
def followers (n : Nat) : Nat :=
  if n ≤ 0x7F then 0 else if n ≤ 0x7FF then 1 else if n ≤ 0xFFFF then 2 else 3

/-- The octet that opens the character of a code point. -/
def opening (n : Nat) : Nat :=
  if n ≤ 0x7F then n
  else if n ≤ 0x7FF then n / 64 + 0xC0
  else if n ≤ 0xFFFF then n / 64 ^ 2 + 0xE0
  else n / 64 ^ 3 + 0xF0

/-- Octets that follow another one: the last `k` digits to the base 64, the highest first. -/
def following : (k n : Nat) → List UInt8
  | 0, _ => []
  | k + 1, n => UInt8.ofNat (n / 64 ^ k % 64 + 0x80) :: following k n

/-- Code points are below the limit of Unicode. -/
theorem code_lt (c : Char) : c.val.toNat < 0x110000 := by
  obtain h | h := c.valid
  · exact Nat.lt_trans h (by decide)
  · exact h.2

/-- The octets of a character: one that opens it, and those that follow. -/
theorem utf8EncodeChar_eq (c : Char) : String.utf8EncodeChar c =
    UInt8.ofNat (opening c.val.toNat) :: following (followers c.val.toNat) c.val.toNat := by
  have hlt := code_lt c
  unfold String.utf8EncodeChar opening followers
  dsimp only
  -- the opening octet has room for all digits that are left
  split_ifs
  · rfl
  all_goals
    rw [Nat.mod_eq_of_lt (by omega)]
    simp [following]

/-- Octets compare as the numbers below 256 that they are. -/
theorem ofNat_lt_ofNat_iff {m n : Nat} (hm : m < 256) (hn : n < 256) :
    UInt8.ofNat m < UInt8.ofNat n ↔ m < n := by
  rw [UInt8.lt_iff_toNat_lt, UInt8.toNat_ofNat', UInt8.toNat_ofNat', Nat.mod_eq_of_lt hm,
    Nat.mod_eq_of_lt hn]

/-- Octets that follow compare as the numbers that they are the digits of. -/
theorem following_append_lt {k m n : Nat} (h : m % 64 ^ k < n % 64 ^ k) (x y : List UInt8) :
    following k m ++ x < following k n ++ y := by
  induction k with
  | zero => simp [Nat.mod_one] at h
  | succ k ih =>
    rw [Nat.mod_pow_succ, Nat.mod_pow_succ] at h
    rw [following, following, List.cons_append, List.cons_append, List.cons_lt_cons_iff]
    -- the first digits decide, unless they are the same
    obtain hless | hsame | hmore := Nat.lt_trichotomy (m / 64 ^ k % 64) (n / 64 ^ k % 64)
    · exact Or.inl ((ofNat_lt_ofNat_iff (by omega) (by omega)).mpr (by omega))
    · rw [hsame] at h ⊢
      exact Or.inr ⟨rfl, ih (by omega)⟩
    · -- a greater digit outweighs all digits after it
      have hweight := Nat.mul_le_mul_left (64 ^ k) (Nat.succ_le_of_lt hmore)
      have hrest : n % 64 ^ k < 64 ^ k := Nat.mod_lt _ (Nat.pow_pos (by decide))
      rw [Nat.mul_succ] at hweight
      omega

/-- The octet that opens a greater character is greater, or the two characters have all digits but
the last ones in common. -/
theorem opening_lt_or {m n : Nat} (h : m < n) : opening m < opening n ∨
    opening m = opening n ∧ followers m = followers n ∧
      m % 64 ^ followers m < n % 64 ^ followers n := by
  unfold opening followers
  split_ifs <;> omega

/-- The number that opens a character is an octet. -/
theorem opening_lt {n : Nat} (h : n < 0x110000) : opening n < 256 := by
  unfold opening
  split_ifs <;> omega

/-- A lesser character is encoded as lesser octets, whatever follows. -/
theorem utf8EncodeChar_append_lt {c d : Char} (h : c < d) (x y : List UInt8) :
    String.utf8EncodeChar c ++ x < String.utf8EncodeChar d ++ y := by
  rw [utf8EncodeChar_eq, utf8EncodeChar_eq, List.cons_append, List.cons_append,
    List.cons_lt_cons_iff]
  have hcode : c.val.toNat < d.val.toNat := h
  -- the opening octets decide, unless they are the same
  obtain hless | ⟨hsame, hcount, hrest⟩ := opening_lt_or hcode
  · exact Or.inl ((ofNat_lt_ofNat_iff (opening_lt (code_lt c)) (opening_lt (code_lt d))).mpr hless)
  · rw [hcount] at hrest ⊢
    exact Or.inr ⟨by rw [hsame], following_append_lt hrest x y⟩

/-! ### Texts -/

/-- The octets of a text are those of its characters. -/
theorem octets_eq (s : String) : octets s = s.toList.flatMap String.utf8EncodeChar := by
  rw [octets, String.toUTF8_eq_toByteArray, ← String.utf8Encode_toList, List.utf8Encode,
    List.toList_data_toByteArray]

/-- A lesser text is encoded as lesser octets. -/
theorem flatMap_utf8EncodeChar_lt {cs ds : List Char} (h : cs < ds) :
    cs.flatMap String.utf8EncodeChar < ds.flatMap String.utf8EncodeChar := by
  induction cs generalizing ds with
  | nil =>
    cases ds with
    | nil => exact absurd h (List.lt_irrefl [])
    | cons d ds =>
      rw [List.flatMap_nil, List.flatMap_cons, utf8EncodeChar_eq, List.cons_append]
      exact List.nil_lt_cons _ _
  | cons c cs ih =>
    cases ds with
    | nil => exact absurd h (List.not_lt_nil _)
    | cons d ds =>
      rw [List.flatMap_cons, List.flatMap_cons]
      -- the first characters decide, unless they are the same
      obtain hless | ⟨rfl, hrest⟩ := List.cons_lt_cons_iff.mp h
      · exact utf8EncodeChar_append_lt hless _ _
      · exact List.append_left_lt (ih hrest)

/-- One text comes before another exactly if its octets do. -/
theorem lt_iff_octets_lt {s t : String} : s < t ↔ octets s < octets t := by
  rw [octets_eq, octets_eq]
  -- a text that is not less is greater or the same, and so are its octets
  refine ⟨flatMap_utf8EncodeChar_lt, fun h => Decidable.byContradiction fun hnot => ?_⟩
  by_cases hless : t < s
  · exact List.lt_asymm h (flatMap_utf8EncodeChar_lt hless)
  · have heq : s = t := String.le_antisymm (String.not_lt.mp hless) (String.not_lt.mp hnot)
    rw [heq] at h
    exact List.lt_irrefl _ h

end LongPoll.Text
