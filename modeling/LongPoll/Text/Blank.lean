/-!
# Blank characters

White space in the sense of the Unicode property `White_Space`, and text with the white space
around it taken away.
-/

namespace LongPoll.Text

/-- Whether the character is white space. -/
def isBlank (c : Char) : Bool :=
  let n := c.toNat
  (0x9 ≤ n && n ≤ 0xD) || n == 0x20 || n == 0x85 || n == 0xA0 || n == 0x1680 ||
    (0x2000 ≤ n && n ≤ 0x200A) || n == 0x2028 || n == 0x2029 || n == 0x202F || n == 0x205F ||
    n == 0x3000

/-- The characters without those at the end that satisfy `p`. -/
def dropWhileEnd (p : Char → Bool) (cs : List Char) : List Char :=
  (cs.reverse.dropWhile p).reverse

/-- The characters without the white space around them. -/
def trim (cs : List Char) : List Char :=
  dropWhileEnd isBlank (cs.dropWhile isBlank)

/-- The text without the white space around it. -/
def trimmed (s : String) : String :=
  String.ofList (trim s.toList)

/-! ## What trimming leaves -/

/-- A text is what trimming leaves, with white space around it. -/
theorem append_trim (cs : List Char) : ∃ lead trail, cs = lead ++ (trim cs ++ trail) ∧
    (∀ c ∈ lead, isBlank c = true) ∧ ∀ c ∈ trail, isBlank c = true := by
  refine ⟨cs.takeWhile isBlank, ((cs.dropWhile isBlank).reverse.takeWhile isBlank).reverse, ?_, ?_,
    ?_⟩
  · rw [trim, dropWhileEnd, ← List.reverse_append, List.takeWhile_append_dropWhile,
      List.reverse_reverse, List.takeWhile_append_dropWhile]
  · exact List.all_eq_true.mp List.all_takeWhile
  · exact fun c hc => List.all_eq_true.mp List.all_takeWhile c (List.mem_reverse.mp hc)

/-- Where nothing is left, there was white space alone. -/
theorem isBlank_of_trim_eq_nil {cs : List Char} (h : trim cs = []) :
    ∀ c ∈ cs, isBlank c = true := by
  obtain ⟨lead, trail, hcs, hlead, htrail⟩ := append_trim cs
  rw [hcs, h, List.nil_append]
  exact List.forall_mem_append.mpr ⟨hlead, htrail⟩

/-- What is left ends where the white space behind it begins. -/
theorem getLast?_trim {cs : List Char} {c : Char} (h : c ∈ (trim cs).getLast?) :
    isBlank c = false := by
  rw [trim, dropWhileEnd, List.getLast?_reverse] at h
  have hnot := List.head?_dropWhile_not isBlank (cs.dropWhile isBlank).reverse
  rwa [Option.mem_def.mp h] at hnot

/-- What is left begins where the white space before it ends. -/
theorem head?_trim {cs : List Char} {c : Char} (h : c ∈ (trim cs).head?) : isBlank c = false := by
  have hprefix : trim cs <+: cs.dropWhile isBlank := by
    have hsuffix := List.dropWhile_suffix isBlank (l := (cs.dropWhile isBlank).reverse)
    rwa [← List.reverse_prefix, List.reverse_reverse] at hsuffix
  have hhead : c ∈ (cs.dropWhile isBlank).head? := by
    obtain ⟨rest, hrest⟩ := hprefix
    rw [← hrest, List.head?_append, show _ = some c from h]
    rfl
  have hnot := List.head?_dropWhile_not isBlank cs
  rwa [Option.mem_def.mp hhead] at hnot

/-- White space around a text that neither begins nor ends with any is what is taken away. -/
theorem trim_append {lead core trail : List Char} (hlead : ∀ c ∈ lead, isBlank c = true)
    (htrail : ∀ c ∈ trail, isBlank c = true) (hhead : ∀ c ∈ core.head?, isBlank c = false)
    (hlast : ∀ c ∈ core.getLast?, isBlank c = false) : trim (lead ++ (core ++ trail)) = core := by
  have hleft : (core ++ trail).dropWhile isBlank = if core.isEmpty then [] else core ++ trail := by
    cases core with
    | nil =>
      rw [List.nil_append, ← List.append_nil trail, List.dropWhile_append_of_pos htrail]
      rfl
    | cons c core => exact List.dropWhile_cons_of_neg (by simp [hhead c rfl])
  -- from behind it is the same, and there the last character of the text stops it
  have hright : core.reverse.dropWhile isBlank = core.reverse := by
    cases hcore : core.reverse with
    | nil => rfl
    | cons c rest =>
      have hc : core.getLast? = some c := by rw [← List.head?_reverse, hcore, List.head?_cons]
      exact List.dropWhile_cons_of_neg (by simp [hlast c hc])
  rw [trim, List.dropWhile_append_of_pos hlead, hleft]
  split
  next hempty => rw [List.isEmpty_iff.mp hempty, dropWhileEnd, List.reverse_nil, List.dropWhile_nil,
    List.reverse_nil]
  next =>
    rw [dropWhileEnd, List.reverse_append, List.dropWhile_append_of_pos, hright,
      List.reverse_reverse]
    exact fun c hc => htrail c (List.mem_reverse.mp hc)

/-- Where no white space stands at either end, none is taken away. -/
theorem trim_eq_self {cs : List Char} (hhead : ∀ c ∈ cs.head?, isBlank c = false)
    (hlast : ∀ c ∈ cs.getLast?, isBlank c = false) : trim cs = cs := by
  have hnone : ∀ c ∈ ([] : List Char), isBlank c = true := nofun
  simpa using trim_append hnone hnone hhead hlast

end LongPoll.Text
