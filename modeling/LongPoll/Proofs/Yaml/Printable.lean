import LongPoll.Yaml.Printer
/-!
# What a YAML text is made of

A value is written with printable characters alone: a text that holds others stands in double
quotes, where each of them is escaped. So the text of a value never holds a tab character, whatever
texts the value holds.

* `Yaml.AllPrintable`: all characters are printable.
* `Yaml.allPrintable_textLine`: a text is written with printable characters.
* `Yaml.allPrintable_render`: so is a value.
-/

namespace LongPoll.Yaml

/-- All characters are printable. -/
def AllPrintable (cs : List Char) : Prop := ∀ c ∈ cs, isPrintable c = true

instance (cs : List Char) : Decidable (AllPrintable cs) :=
  decidable_of_iff (cs.all isPrintable = true) List.all_eq_true

@[simp]
theorem allPrintable_nil : AllPrintable [] := nofun

@[simp]
theorem allPrintable_cons {c : Char} {cs : List Char} :
    AllPrintable (c :: cs) ↔ isPrintable c = true ∧ AllPrintable cs :=
  List.forall_mem_cons

@[simp]
theorem allPrintable_append {cs ds : List Char} :
    AllPrintable (cs ++ ds) ↔ AllPrintable cs ∧ AllPrintable ds :=
  List.forall_mem_append

theorem allPrintable_replicate {c : Char} (h : isPrintable c = true) (n : Nat) :
    AllPrintable (List.replicate n c) :=
  fun _ hd => (List.eq_of_mem_replicate hd).symm ▸ h

@[simp]
theorem allPrintable_spaces (n : Nat) : AllPrintable (spaces n) := allPrintable_replicate rfl n

/-- Where no character is special, all are printable. -/
theorem allPrintable_of_not_any {cs : List Char} (h : (cs.any fun c => !isPrintable c) = false) :
    AllPrintable cs := by
  intro c hc
  simpa using List.any_eq_false.mp h c hc

/-! ### Scalars -/

/-- Lines stay printable when they are indented. -/
theorem AllPrintable.indentLines {cs : List Char} (h : AllPrintable cs) (indent : Nat)
    {escape : Char → List Char} (hescape : ∀ c, isPrintable c = true → AllPrintable (escape c))
    (newLine : Bool) : AllPrintable (indentLines indent escape newLine cs) := by
  induction cs generalizing newLine with
  | nil => exact allPrintable_nil
  | cons c cs ih =>
    obtain ⟨hc, hcs⟩ := allPrintable_cons.mp h
    rw [Yaml.indentLines]
    -- a line break is written as it is, and all else perhaps behind an indent
    split
    · exact allPrintable_cons.mpr ⟨hc, ih hcs true⟩
    · cases newLine <;> simp [hescape c hc, ih hcs false]

/-- A printable text is printable in single quotes. -/
theorem AllPrintable.singleQuoted {cs : List Char} (h : AllPrintable cs) (indent : Nat) :
    AllPrintable (singleQuoted indent cs) := by
  have hquote : isPrintable '\'' = true := rfl
  have hescape (c : Char) (hc : isPrintable c = true) :
      AllPrintable (if c == '\'' then ['\'', '\''] else [c]) := by
    split <;> simp [hquote, hc]
  refine allPrintable_append.mpr ⟨allPrintable_append.mpr ⟨allPrintable_cons.mpr ⟨hquote, ?_⟩, ?_⟩,
    allPrintable_cons.mpr ⟨hquote, allPrintable_nil⟩⟩
  · exact h.indentLines indent hescape false
  · split <;> simp

/-- Hexadecimal numbers are printable. -/
theorem allPrintable_hexadecimal (width n : Nat) : AllPrintable (hexadecimal width n) := by
  have hdigit : ∀ d < 16, isPrintable d.digitChar.toUpper = true := by decide
  -- along the digits from the lowest one up
  have hdigits : AllPrintable ((Nat.toDigits 16 n).map Char.toUpper) := by
    induction n using Nat.base_induction 16 (by decide) with
    | single m hm => simp [Nat.toDigits_of_lt_base hm, hdigit m hm]
    | digit m k hk hm ih =>
      rw [← Nat.toDigits_append_toDigits (by decide) hm hk, Nat.toDigits_of_lt_base hk,
        List.map_append]
      simp [ih, hdigit k hk]
  exact allPrintable_append.mpr ⟨allPrintable_replicate rfl _, hdigits⟩

/-- The code of any character is printable. -/
theorem allPrintable_escapeCode (c : Char) : AllPrintable (escapeCode c) := by
  unfold escapeCode
  split
  -- all other codes are single letters
  case h_15 =>
    dsimp only
    split
    · exact allPrintable_cons.mpr ⟨rfl, allPrintable_hexadecimal 2 _⟩
    · split
      · exact allPrintable_cons.mpr ⟨rfl, allPrintable_hexadecimal 4 _⟩
      · exact allPrintable_cons.mpr ⟨rfl, allPrintable_hexadecimal 8 _⟩
  all_goals exact allPrintable_cons.mpr ⟨rfl, allPrintable_nil⟩

/-- Between double quotes stands no other character than a printable one, whatever the text. -/
theorem allPrintable_doubleQuoted (cs : List Char) : AllPrintable (doubleQuoted cs) := by
  have hbody : AllPrintable (cs.flatMap fun c =>
      if !isPrintable c || isBreak c || c == '"' || c == '\\' then '\\' :: escapeCode c
      else [c]) := by
    intro d hd
    obtain ⟨c, -, hd⟩ := List.mem_flatMap.mp hd
    split at hd
    next => exact allPrintable_cons.mpr ⟨rfl, allPrintable_escapeCode c⟩ d hd
    next hplain =>
      obtain rfl := List.mem_singleton.mp hd
      -- an unprintable character would have been escaped
      cases hprintable : isPrintable d with
      | true => rfl
      | false => simp [hprintable] at hplain
  exact allPrintable_append.mpr ⟨allPrintable_cons.mpr ⟨rfl, hbody⟩,
    allPrintable_cons.mpr ⟨rfl, allPrintable_nil⟩⟩

/-- The head of a block is printable. -/
theorem allPrintable_blockHead (cs : List Char) : AllPrintable (blockHead cs) := by
  unfold blockHead
  refine allPrintable_append.mpr ⟨allPrintable_cons.mpr ⟨rfl, ?_⟩, ?_⟩
  · split <;> decide
  · repeat' split
    all_goals decide

/-- A printable text is printable as a block. -/
theorem AllPrintable.blockLines {cs : List Char} (h : AllPrintable cs) (indent : Nat) :
    AllPrintable (blockLines indent cs) := by
  have hbreak : isPrintable '\n' = true := rfl
  have hescape (c : Char) (hc : isPrintable c = true) : AllPrintable [c] :=
    allPrintable_cons.mpr ⟨hc, allPrintable_nil⟩
  have hlines := h.indentLines indent hescape true
  unfold Yaml.blockLines
  dsimp only
  split <;> simp [allPrintable_blockHead, hbreak, hlines]

/-- Only a text of printable characters is written in another form than between double quotes. -/
theorem allPrintable_of_formsOf {cs : List Char}
    (h : ((formsOf cs).plain || (formsOf cs).single || (formsOf cs).block) = true) :
    AllPrintable cs := by
  cases hspecial : cs.any fun c => !isPrintable c with
  | false => exact allPrintable_of_not_any hspecial
  | true => simp [formsOf, hspecial] at h

/-- Any text is written with printable characters, in whatever form. -/
theorem allPrintable_textLine (indent : Nat) (s : String) : AllPrintable (textLine indent s) := by
  have hbreak : isPrintable '\n' = true := rfl
  have hquoted := allPrintable_doubleQuoted s.toList
  unfold textLine
  dsimp only
  -- in the order in which the forms are tried
  repeat' split
  next hblock => exact (allPrintable_of_formsOf (by simp [hblock])).blockLines indent
  next => simp [hquoted, hbreak]
  next hplain =>
    have hcs : AllPrintable s.toList :=
      allPrintable_of_formsOf (by simp [(Bool.and_eq_true_iff.mp hplain).1])
    simp [hcs, hbreak]
  next hsingle =>
    have hcs : AllPrintable s.toList := allPrintable_of_formsOf (by simp [hsingle])
    simp [hcs.singleQuoted, hbreak]
  next => simp [hquoted, hbreak]

/-- Decimal numbers are printable. -/
theorem allPrintable_decimal (n : Nat) : AllPrintable (Text.decimal n) := by
  intro c hc
  have hbounds := Text.toNat_of_isDigit (Text.isDigit_of_mem_decimal hc)
  simp [isPrintable]
  omega

/-- Numbers are printable, those below zero too. -/
theorem allPrintable_integerText (n : Int) : AllPrintable (integerText n) := by
  cases n with
  | ofNat n => exact allPrintable_decimal n
  | negSucc n => exact allPrintable_cons.mpr ⟨rfl, allPrintable_decimal (n + 1)⟩

/-- A scalar is written with printable characters. -/
theorem allPrintable_scalarLine? {indent : Nat} {j : Json} {line : List Char}
    (h : scalarLine? indent j = some line) : AllPrintable line := by
  unfold scalarLine? at h
  split at h
  next => exact Option.some.inj h ▸ by decide
  next b => cases b <;> exact Option.some.inj h ▸ by decide
  next n =>
    exact Option.some.inj h ▸ allPrintable_append.mpr ⟨allPrintable_integerText n, by decide⟩
  next s => exact Option.some.inj h ▸ allPrintable_textLine indent s
  next => exact Option.some.inj h ▸ by decide
  next => exact Option.some.inj h ▸ by decide
  next => exact nomatch h

/-! ### Values -/

/-- A value is written as a scalar if it is one, and otherwise as lines. -/
theorem allPrintable_scalarLine_getD (indent : Nat) (j : Json) {lines : List Char}
    (h : AllPrintable lines) : AllPrintable (match scalarLine? indent j with
      | some line => line
      | none => lines) := by
  split
  next hline => exact allPrintable_scalarLine? hline
  next => exact h

mutual

/-- The lines of a value are printable. -/
theorem allPrintable_valueLines (indent : Nat) : (j : Json) → AllPrintable (valueLines indent j)
  | .array items => by
    rw [valueLines]
    exact allPrintable_itemLines indent items
  | .object members => by
    rw [valueLines]
    exact allPrintable_memberLines indent members
  | .null | .bool _ | .int _ | .text _ => by simp [valueLines]

/-- The lines of a list are printable. -/
theorem allPrintable_itemLines (indent : Nat) :
    (items : List Json) → AllPrintable (itemLines indent items)
  | [] => by simp [itemLines]
  | j :: rest => by
    have hitem := allPrintable_scalarLine_getD (indent + 2) j
      (allPrintable_valueLines (indent + 2) j)
    have hrest := allPrintable_itemLines indent rest
    rw [itemLines]
    refine allPrintable_append.mpr ⟨allPrintable_cons.mpr ⟨rfl, allPrintable_cons.mpr
      ⟨rfl, hitem⟩⟩, ?_⟩
    split <;> simp [hrest]

/-- The lines of an object are printable. -/
theorem allPrintable_memberLines (indent : Nat) :
    (members : List (String × Json)) → AllPrintable (memberLines indent members)
  | [] => by simp [memberLines]
  | (name, j) :: rest => by
    have hmark : isPrintable '?' = true := rfl
    have hcolon : isPrintable ':' = true := rfl
    have hspace : isPrintable ' ' = true := rfl
    have hbreak : isPrintable '\n' = true := rfl
    have hname := allPrintable_textLine (indent + 2) name
    -- a name that is short stands before the colon without its line break
    have hkey : AllPrintable (textLine (indent + 2) name).dropLast :=
      fun c hc => hname c (List.dropLast_subset _ hc)
    have hlines (indent : Nat) := allPrintable_valueLines indent j
    have hrest := allPrintable_memberLines indent rest
    unfold memberLines
    refine allPrintable_append.mpr ⟨?_, by split <;> simp [hrest]⟩
    -- a name that is long has a line of its own behind a question mark
    split
    next =>
      dsimp only
      split
      next hline => simp [hkey, hcolon, hspace, allPrintable_scalarLine? hline]
      next => simp [hkey, hcolon, hbreak, hlines]
    next =>
      dsimp only
      split
      next hline => simp [hmark, hname, hcolon, hspace, allPrintable_scalarLine? hline]
      next => simp [hmark, hname, hcolon, hspace, hlines]

end

/-- A value is written with printable characters. -/
theorem allPrintable_render (j : Json) : AllPrintable (render j).toList := by
  rw [render, String.toList_ofList]
  exact allPrintable_scalarLine_getD 2 j (allPrintable_valueLines 0 j)

/-- No tab character stands in the text of a value. -/
theorem tab_notMem_render (j : Json) : '\t' ∉ (render j).toList :=
  fun h => absurd (allPrintable_render j '\t' h) (by decide)

end LongPoll.Yaml
