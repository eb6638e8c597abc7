import LongPoll.Pattern.Parser
/-!
# Reading on into the closing anchor

An anchored pattern stands in a group, so that `)$` comes behind it. What is read from the front of
a pattern reads the same there: the parts of a pattern look ahead at most to see where they end, and
none that is complete goes on over a closing parenthesis. There is one exception. Where comments are
ignored, a comment that ends the pattern takes the closing with it, and nothing is left in either
text.

The converse fails, since a part that the pattern breaks off, such as a backslash, may be completed
by what comes behind.

* `Behind`: what is left of the pattern, and what is left of the text around it.
* `Agrees`: a part that is read from the pattern is read from the text around it, and leaves texts
  that are behind each other.
* `agrees_token?`: every token agrees.
-/

namespace LongPoll.Pattern

/-- What stands behind a pattern once it is anchored. -/
def closing : List Char := [')', '$']

/-- What is left of a pattern, and what is left of the text that it is anchored in. -/
inductive Behind : (rest rest' : List Char) → Prop where
  /-- The closing comes behind what is left of the pattern. -/
  | append (rest : List Char) : Behind rest (rest ++ closing)
  /-- The closing has gone with a comment at the end of the pattern. -/
  | swallowed : Behind [] []

/-- What is read from the pattern is read from the text around it as well. -/
def Agrees {α : Type} (o o' : Option (α × List Char)) : Prop :=
  ∀ a rest, o = some (a, rest) → ∃ rest', o' = some (a, rest') ∧ Behind rest rest'

/-- The same is read from the pattern and from the text around it. -/
def Alike {α : Type} (p p' : α × List Char) : Prop := p.1 = p'.1 ∧ Behind p.2 p'.2

variable {α β : Type} {v : Bool} {flags : Flags} {cs cs' ds : List Char} {n n' : Nat}

/-- Skipping leaves no more than there was. -/
theorem length_skipComments_le (inComment : Bool) (cs : List Char) :
    (skipComments inComment cs).length ≤ cs.length := by
  fun_induction skipComments inComment cs with
  | case1 => exact Nat.le_refl _
  | case2 c cs ih => exact Nat.le_succ_of_le ih
  | case3 c cs _ ih => exact Nat.le_succ_of_le ih
  | case4 cs _ ih => exact Nat.le_succ_of_le ih
  | case5 => exact Nat.le_refl _

/-- Skipping leaves no more than there was, whatever is ignored. -/
theorem length_skip_le (v : Bool) (cs : List Char) : (skip v cs).length ≤ cs.length := by
  unfold skip
  split
  · exact length_skipComments_le ..
  · exact Nat.le_refl _

namespace Behind

theorem closed : Behind [] closing := append []

theorem cons (c : Char) (ds : List Char) : Behind (c :: ds) (c :: (ds ++ closing)) :=
  append (c :: ds)

/-- Where nothing is left of the pattern, the closing is left of the text or nothing. -/
theorem nil_cases (h : Behind [] cs') : cs' = [] ∨ cs' = closing := by
  cases h with
  | append => exact Or.inr rfl
  | swallowed => exact Or.inl rfl

/-- Either nothing is left of the pattern, or its next character is the next one. -/
@[elab_as_elim]
theorem elim {motive : List Char → List Char → Prop} (h : Behind cs cs')
    (swallowed : motive [] []) (closed : motive [] closing)
    (cons : ∀ c ds, motive (c :: ds) (c :: (ds ++ closing))) : motive cs cs' := by
  cases h with
  | append =>
    cases cs with
    | nil => exact closed
    | cons c ds => exact cons c ds
  | swallowed => exact swallowed

/-- No less is left of the text than of the pattern. -/
theorem length_le (h : Behind cs cs') : cs.length ≤ cs'.length := by
  cases h with
  | append => simp
  | swallowed => simp

/-- Skipping keeps the two texts behind each other, be a comment open or not. -/
theorem skipComments (h : Behind cs cs') (inComment : Bool) :
    Behind (skipComments inComment cs) (skipComments inComment cs') := by
  cases h with
  | append =>
    induction cs generalizing inComment with
    | nil =>
      -- An open comment goes on to the end of the text.
      cases inComment with
      | false => exact closed
      | true => exact swallowed
    | cons c cs ih =>
      cases inComment with
      | true => exact ih _
      | false =>
        simp only [List.cons_append, Pattern.skipComments]
        split
        · exact ih _
        · split
          · exact ih _
          · exact append _
  | swallowed => cases inComment <;> exact swallowed

/-- Skipping keeps the two texts behind each other. -/
theorem skip (h : Behind cs cs') (v : Bool) : Behind (skip v cs) (skip v cs') := by
  unfold Pattern.skip
  split
  · exact h.skipComments false
  · exact h

/-- Passing over blanks keeps the two texts behind each other. -/
theorem dropWhile_isBlank (h : Behind cs cs') :
    Behind (cs.dropWhile Text.isBlank) (cs'.dropWhile Text.isBlank) := by
  cases h with
  | append =>
    rw [List.dropWhile_append]
    split
    next hnil => exact List.isEmpty_iff.mp hnil ▸ closed
    next => exact append _
  | swallowed => exact swallowed

/-- Passing over the sign of a lazy repetition keeps the two texts behind each other. -/
theorem dropLazy (h : Behind cs cs') : Behind (dropLazy cs) (dropLazy cs') := by
  refine h.elim swallowed closed fun c ds => ?_
  by_cases hc : c = '?'
  · subst hc
    exact append ds
  · simpa [Pattern.dropLazy, hc] using cons c ds

/-- Two loops that skip after every character, and that have steps for all of them, go on together
to the end of the pattern. -/
@[elab_as_elim]
theorem loop {motive : Nat → Nat → List Char → List Char → Prop} (h : Behind cs cs')
    (hn : cs.length ≤ n) (hn' : cs'.length ≤ n') (v : Bool)
    (nil : ∀ n n' cs', Behind [] cs' → motive n n' [] cs')
    (cons : ∀ n n' c ds, motive n n' (Pattern.skip v ds) (Pattern.skip v (ds ++ closing)) →
      motive (n + 1) (n' + 1) (c :: ds) (c :: (ds ++ closing))) : motive n n' cs cs' := by
  -- the steps of the shorter text count the characters, so they are what the induction is on
  induction n generalizing n' cs cs' with
  | zero =>
    obtain rfl := List.eq_nil_of_length_eq_zero (Nat.le_zero.mp hn)
    exact nil 0 n' cs' h
  | succ n ih =>
    cases cs with
    | nil => exact nil (n + 1) n' cs' h
    | cons c ds =>
      cases h with
      | append =>
        obtain ⟨n', rfl⟩ := Nat.exists_eq_add_one.mpr (Nat.lt_of_lt_of_le (Nat.succ_pos _) hn')
        exact cons n n' c ds (ih ((append ds).skip v)
          (Nat.le_trans (length_skip_le v ds) (Nat.le_of_succ_le_succ hn))
          (Nat.le_trans (length_skip_le v _) (Nat.le_of_succ_le_succ hn')))

end Behind

namespace Agrees

theorem none {o : Option (α × List Char)} : Agrees none o := nofun

/-- What has been read already agrees if what is left does. -/
theorem some {a : α} (h : Behind cs cs') : Agrees (some (a, cs)) (some (a, cs')) := by
  rintro _ _ ⟨⟩
  exact ⟨cs', rfl, h⟩

/-- A reader that goes on where an agreeing one has stopped agrees if it does so on all that may be
left. -/
theorem bind {o o' : Option (α × List Char)} {k k' : α × List Char → Option (β × List Char)}
    (h : Agrees o o') (hk : ∀ a cs cs', Behind cs cs' → Agrees (k (a, cs)) (k' (a, cs'))) :
    Agrees (o >>= k) (o' >>= k') := by
  intro b rest hread
  obtain ⟨⟨a, cs⟩, ho, hread⟩ := Option.bind_eq_some_iff.mp hread
  -- the first part leaves texts behind each other, and from these the second part reads
  obtain ⟨cs', ho', hcs⟩ := h a cs ho
  obtain ⟨rest', hread', hrest⟩ := hk a cs cs' hcs b rest hread
  exact ⟨rest', Option.bind_eq_some_iff.mpr ⟨_, ho', hread'⟩, hrest⟩

/-- A check between two readers that does not look at the texts does not disturb them. -/
theorem also {γ : Type} {x : Option γ} {k k' : γ → Option (β × List Char)}
    (hk : ∀ c, Agrees (k c) (k' c)) : Agrees (x >>= k) (x >>= k') := by
  cases x with
  | none => exact nofun
  | some c => exact hk c

/-- Readers agree on what is made of what they read. -/
theorem map {o o' : Option (α × List Char)} {g : α → β} (h : Agrees o o') :
    Agrees (o.map fun (a, cs) => (g a, cs)) (o'.map fun (a, cs) => (g a, cs)) := by
  intro b rest hread
  obtain ⟨⟨a, cs⟩, ho, hread⟩ := Option.map_eq_some_iff.mp hread
  obtain ⟨rfl, rfl⟩ := Prod.mk.inj hread
  obtain ⟨cs', ho', hcs⟩ := h a cs ho
  exact ⟨cs', Option.map_eq_some_iff.mpr ⟨_, ho', rfl⟩, hcs⟩

/-- A choice between two readers that does not look at the texts does not disturb them. -/
theorem ite {p : Prop} [Decidable p] {o₁ o₂ o₁' o₂' : Option (α × List Char)} (h₁ : Agrees o₁ o₁')
    (h₂ : Agrees o₂ o₂') : Agrees (if p then o₁ else o₂) (if p then o₁' else o₂') := by
  split
  · exact h₁
  · exact h₂

end Agrees

/-! ### Escapes -/

/-- A fixed number of hexadecimal digits agrees. -/
theorem agrees_hexDigits? {code : Nat} (h : Behind cs cs') :
    Agrees (hexDigits? v n code cs) (hexDigits? v n code cs') := by
  induction n generalizing code cs cs' with
  | zero => exact .some h
  | succ n ih =>
    rw [hexDigits?, hexDigits?]
    refine (h.skip v).elim .none .none fun c ds => ?_
    dsimp only
    split
    · split
      · exact ih (.append ds)
      · exact .none
    · exact .none

/-- What stands between braces agrees. -/
theorem agrees_braced? {taken : List Char} (h : Behind cs cs') (hn : n ≤ n') :
    Agrees (braced? v n taken cs) (braced? v n' taken cs') := by
  induction n generalizing n' taken cs cs' with
  | zero => exact .none
  | succ n ih =>
    obtain ⟨n', rfl⟩ := Nat.exists_eq_add_one.mpr (Nat.lt_of_lt_of_le n.succ_pos hn)
    rw [braced?, braced?]
    refine (h.skip v).elim .none .none fun c ds => ?_
    by_cases hc : c = '\x7d'
    -- the closing has no brace, so the brace that ends the part is one of the pattern
    · subst hc
      exact .some (.append ds)
    · simp only
      exact ih (.append ds) (by omega)

/-- A number of a character between braces agrees. -/
theorem agrees_bracedHex? (h : Behind cs cs') :
    Agrees (bracedHex? v cs) (bracedHex? v cs') := by
  refine (agrees_braced? h (Nat.succ_le_succ h.length_le)).bind fun digits rest rest' hrest => ?_
  exact .also fun code => .also fun c => .some (hrest.skip v)

/-- A number of a character with a fixed number of digits agrees. -/
theorem agrees_plainHex? (h : Behind cs cs') :
    Agrees (plainHex? v n cs) (plainHex? v n cs') :=
  (agrees_hexDigits? h).bind fun _ _ _ hrest => .also fun _ => .some (hrest.skip v)

/-- A number of a character agrees in either form. -/
theorem agrees_hexEscape? (h : Behind cs cs') :
    Agrees (hexEscape? v n cs) (hexEscape? v n cs') := by
  unfold hexEscape?
  refine (h.skip v).elim (agrees_plainHex? .swallowed) (agrees_plainHex? .closed) fun c ds => ?_
  by_cases hc : c = '\x7b'
  · subst hc
    exact agrees_bracedHex? (.append ds)
  · simpa [hc] using agrees_plainHex? (.cons c ds)

/-- The name of a property agrees, be it one letter or between braces. -/
theorem agrees_propertyEscape? {negated : Bool} (h : Behind cs cs') :
    Agrees (propertyEscape? flags negated cs) (propertyEscape? flags negated cs') := by
  rw [propertyEscape?, propertyEscape?]
  split
  · exact .none
  · refine (h.skip flags.verbose).elim .none .none fun c ds => ?_
    by_cases hc : c = '\x7b'
    · subst hc
      refine (agrees_braced? (.append ds) (Nat.succ_le_succ (Behind.append ds).length_le)).bind ?_
      exact fun digits cs cs' hcs => .also fun code => .also fun c => .some hcs
    · simp only
      split
      · exact .none
      · exact .also fun set => .also fun set => .some ((Behind.append ds).skip _)

/-- The name of a boundary between braces agrees. -/
theorem agrees_boundaryName? {taken : List Char} (h : Behind cs cs') (hn : n ≤ n') :
    Agrees (boundaryName? v n taken cs) (boundaryName? v n' taken cs') := by
  induction n generalizing n' taken cs cs' with
  | zero => exact .none
  | succ n ih =>
    obtain ⟨n', rfl⟩ := Nat.exists_eq_add_one.mpr (Nat.lt_of_lt_of_le n.succ_pos hn)
    rw [boundaryName?, boundaryName?]
    refine (h.skip v).elim .none .none fun c ds => ?_
    -- the brace ends the name, and every other character is a letter of it or wrong
    by_cases hc : c = '\x7d'
    · subst hc
      simp only
      cases boundary? taken.reverse with
      | none => exact .none
      | some l => exact .some (.append ds)
    · simp only
      split
      · exact ih (.append ds) (by omega)
      · exact .none

/-- A word boundary agrees, with a name or without one. -/
theorem agrees_wordEscape? (h : Behind cs cs') :
    Agrees (wordEscape? v cs) (wordEscape? v cs') := by
  refine h.elim (.some .swallowed) (.some .closed) fun c ds => ?_
  by_cases hc : c = '\x7b'
  · subst hc
    rw [wordEscape?, wordEscape?]
    have hname : Agrees (boundaryName? v (ds.length + 1) [] ds)
        (boundaryName? v ((ds ++ closing).length + 1) [] (ds ++ closing)) :=
      agrees_boundaryName? (.append ds) (Nat.succ_le_succ (Behind.append ds).length_le)
    -- whether a name or a repetition comes is decided by the character after the brace
    refine ((Behind.append ds).skip v).elim .none .none fun c' ds' => ?_
    dsimp only
    split
    · exact hname.map
    · exact .some (.cons _ ds)
  · simpa [wordEscape?, hc] using Agrees.some (.cons c ds)

/-- What a backslash introduces agrees. -/
theorem agrees_escape? (h : Behind cs cs') : Agrees (escape? flags cs) (escape? flags cs') := by
  refine h.elim .none .none fun c ds => ?_
  have hrest := Behind.append ds
  unfold escape?
  dsimp only
  split
  · exact .some hrest
  · split
    case h_1 | h_2 | h_3 => exact (agrees_hexEscape? hrest).map
    case h_4 | h_5 => exact agrees_propertyEscape? hrest
    case h_20 => exact agrees_wordEscape? hrest
    case h_24 => exact .none
    -- The others end with their letter.
    all_goals first | exact .some hrest | exact .ite (.some hrest) .none

/-! ### Sets in brackets -/

/-- One item of a set agrees. -/
theorem agrees_setItem? (h : Behind cs cs') : Agrees (setItem? flags cs) (setItem? flags cs') := by
  refine h.elim .none .none fun c ds => ?_
  by_cases hc : c = '\\'
  · subst hc
    exact agrees_escape? (.append ds)
  · simpa [setItem?, hc] using Agrees.some (.append ds)

/-- Looking ahead may see the parenthesis of the closing, but nothing else that is not there. -/
theorem second?_cons (v : Bool) (c : Char) (ds : List Char) :
    second? v (c :: (ds ++ closing)) = second? v (c :: ds) ∨
      second? v (c :: ds) = none ∧ second? v (c :: (ds ++ closing)) = some ')' := by
  unfold second?
  simp only [List.tail_cons]
  split
  · have hblank : closing.dropWhile Text.isBlank = closing := rfl
    rw [List.dropWhile_append]
    cases hds : ds.dropWhile Text.isBlank with
    | nil => exact Or.inr ⟨rfl, rfl⟩
    | cons c' rest =>
      -- a comment goes to the end of its line, which may be the end of the pattern
      by_cases hc' : c' = '#'
      · subst hc'
        simp only [List.isEmpty_cons, Bool.false_eq_true, if_false, List.cons_append,
          List.dropWhile_append]
        cases rest.dropWhile Text.isBlank with
        | nil => exact Or.inr ⟨rfl, rfl⟩
        | cons c'' rest => exact Or.inl rfl
      · simp [hc']
  · cases ds with
    | nil => exact Or.inr ⟨rfl, rfl⟩
    | cons c' ds => exact Or.inl rfl

/-- A range of a set, or an item on its own, agrees. -/
theorem agrees_setRange? (h : Behind cs cs') :
    Agrees (setRange? flags cs) (setRange? flags cs') := by
  refine (agrees_setItem? h).bind fun item cs cs' h => ?_
  dsimp only
  refine (h.skip flags.verbose).elim .none .none fun c ds => ?_
  -- The signs that make a hyphen stand for itself are not those of the closing.
  have hsame : (c ≠ '-' || second? flags.verbose (c :: (ds ++ closing)) = some ']' ||
      second? flags.verbose (c :: (ds ++ closing)) = some '-') = (c ≠ '-' ||
      second? flags.verbose (c :: ds) = some ']' || second? flags.verbose (c :: ds) = some '-') := by
    obtain heq | ⟨hnone, hsome⟩ := second?_cons flags.verbose c ds
    · rw [heq]
    · rw [hnone, hsome]
      rfl
  dsimp only
  rw [hsame]
  refine .ite ?_ ?_
  · cases item with
    | char c' => exact .ite (.some (.cons _ ds)) .none
    | set s => exact .some (.cons _ ds)
    | look l => exact .none
  · cases item with
    | char low =>
      -- a range goes on with its upper end, which must be a character as well
      refine ((Behind.append ds).skip flags.verbose).elim .none .none fun c' ds' => ?_
      refine (agrees_setItem? (.cons _ ds')).bind fun item cs cs' h => ?_
      cases item with
      | char high => exact .ite (.some h) .none
      | set s => exact .none
      | look l => exact .none
    | set s => exact .none
    | look l => exact .none

/-- What ends before the end of the pattern ends at the same place if more follows. -/
theorem span_append {p : Char → Bool} {c : Char} {rest : List Char}
    (h : cs.dropWhile p = c :: rest) : (cs ++ closing).takeWhile p = cs.takeWhile p ∧
      (cs ++ closing).dropWhile p = c :: (rest ++ closing) := by
  have hlength : (cs.takeWhile p).length ≠ cs.length := by
    have hsplit := congrArg List.length (List.takeWhile_append_dropWhile (p := p) (l := cs))
    rw [List.length_append, h, List.length_cons] at hsplit
    omega
  rw [List.takeWhile_append, List.dropWhile_append, if_neg hlength, h]
  exact ⟨rfl, rfl⟩

/-! Where no class or operator is found, something else is tried, so none must be found through the
closing either. -/

/-- The name of a class is found through the closing exactly if it is found without it. -/
theorem className?_append (negated : Bool) (cs : List Char) : className? negated (cs ++ closing) =
    (className? negated cs).map fun (r, rest) => (r, rest ++ closing) := by
  unfold className?
  cases hcs : cs.dropWhile (· ≠ ':') with
  | nil =>
    rw [List.dropWhile_append, hcs]
    rfl
  | cons c rest =>
    obtain ⟨hbefore, hafter⟩ := span_append hcs
    rw [hbefore, hafter]
    -- the colon that ends the name is one of the pattern, for the closing has none
    match rest with
    | [] => simp [closing]
    | c' :: rest =>
      by_cases hc : c = ':' ∧ c' = ']'
      · obtain ⟨rfl, rfl⟩ := hc
        simp only [List.cons_append, Option.map_map]
        rfl
      · simp only [List.cons_append, List.cons.injEq, ← and_assoc, hc, false_and, imp_false,
          not_false_eq_true, implies_true, Option.map_none]

/-- A bracketed class is found through the closing exactly if it is found without it. -/
theorem asciiClass?_append (cs : List Char) : asciiClass? (cs ++ closing) =
    (asciiClass? cs).map fun (r, rest) => (r, rest ++ closing) := by
  fun_cases asciiClass? cs with
  | case1 cs => exact className?_append true cs
  | case2 cs hplain =>
    rw [← className?_append false cs]
    match cs with
    | [] => rfl
    | c :: cs =>
      have hc : c ≠ '^' := fun h => hplain cs (h ▸ rfl)
      simp [asciiClass?, hc]
  | case3 cs hsign hplain =>
    match cs with
    | [] => rfl
    | c :: cs =>
      have hc : c ≠ ':' := fun h => hplain cs (h ▸ rfl)
      simp [asciiClass?, hc]

/-- An operator between sets is found through the closing exactly if it is found without it. -/
theorem setOp?_append (cs : List Char) : setOp? (cs ++ closing) =
    (setOp? cs).map fun (op, rest) => (op, rest ++ closing) := by
  fun_cases setOp? cs with
  | case1 => rfl
  | case2 => rfl
  | case3 => rfl
  | case4 cs hinter hdiff hsym =>
    have hnone : setOp? (cs ++ closing) = none := by
      match cs with
      | [] => rfl
      | [c] => simp [closing, setOp?]
      | c :: c' :: cs => simp_all [setOp?]
    rw [hnone]
    rfl

/-- The hyphens at the beginning of a set are the same ones. -/
theorem alike_leadingHyphens {o : OpenSet} (h : Behind cs cs') (hn : cs.length ≤ n)
    (hn' : cs'.length ≤ n') :
    Alike (leadingHyphens v n o cs) (leadingHyphens v n' o cs') := by
  refine h.loop hn hn' v ?_ ?_ o
  · intro n n' cs' h o
    obtain rfl | rfl := h.nil_cases <;> cases n <;> cases n' <;> exact ⟨rfl, h⟩
  · intro n n' c ds ih o
    by_cases hc : c = '-'
    · subst hc
      exact ih _
    · simpa [leadingHyphens, hc, Alike] using Behind.cons c ds

/-- Whether a set is negated reads the same. -/
theorem alike_setSign (h : Behind cs cs') : Alike (setSign v cs) (setSign v cs') := by
  refine h.elim ⟨rfl, .swallowed⟩ ⟨rfl, .closed⟩ fun c ds => ?_
  by_cases hc : c = '^'
  · subst hc
    exact ⟨rfl, (Behind.append ds).skip v⟩
  · simpa [setSign, hc, Alike] using Behind.cons c ds

/-- Whether a set begins with a bracket that stands for itself reads the same. -/
theorem alike_leadingBracket {o : OpenSet} (h : Behind cs cs') :
    Alike (leadingBracket v o cs) (leadingBracket v o cs') := by
  refine h.elim ⟨rfl, .swallowed⟩ ⟨rfl, .closed⟩ fun c ds => ?_
  by_cases hc : c = ']'
  · subst hc
    simp only [leadingBracket]
    split
    · exact ⟨rfl, (Behind.append ds).skip v⟩
    · exact ⟨rfl, .cons _ ds⟩
  · simpa [leadingBracket, hc, Alike] using Behind.cons c ds

/-- The beginning of a set reads the same. -/
theorem alike_openSet (h : Behind cs cs') : Alike (openSet v cs) (openSet v cs') := by
  obtain ⟨hnegated, hrest⟩ := alike_setSign (v := v) (h.skip v)
  obtain ⟨hhyphens, hrest⟩ := alike_leadingHyphens (v := v)
    (o := ⟨(setSign v (skip v cs)).1, none, .empty, 0, 0⟩) hrest (Nat.le_refl _) (Nat.le_refl _)
  unfold openSet
  dsimp only
  rw [← hnegated, ← hhyphens]
  exact alike_leadingBracket hrest

/-- The body of a set agrees, with all sets that it is nested in. -/
theorem agrees_setBody? {stack : List OpenSet} {o : OpenSet} (h : Behind cs cs') (hn : n ≤ n') :
    Agrees (setBody? flags n stack o cs) (setBody? flags n' stack o cs') := by
  induction n generalizing n' stack o cs cs' with
  | zero => exact .none
  | succ n ih =>
    obtain ⟨n', rfl⟩ := Nat.exists_eq_add_one.mpr (Nat.lt_of_lt_of_le n.succ_pos hn)
    have hn := Nat.le_of_succ_le_succ hn
    unfold setBody?
    refine (h.skip flags.verbose).elim .none .none fun c ds => ?_
    -- a bracket ends the innermost set, which is the whole set if no other is open
    by_cases hclose : c = ']'
    · subst hclose
      refine .also fun set => ?_
      cases stack with
      | nil => exact .some (.append ds)
      | cons outer stack => exact ih (.append ds) hn
    · by_cases hopen : c = '['
      · subst hopen
        simp only
        -- an opening bracket begins a class if one is found, and a nested set otherwise
        rw [asciiClass?_append]
        cases asciiClass? ds with
        | none =>
          obtain ⟨hinner, hrest⟩ := alike_openSet (v := flags.verbose) (.append ds)
          dsimp only [Option.map_none]
          rw [← hinner]
          exact ih hrest hn
        | some found => exact .also fun set => ih (.append found.2) hn
      · simp only [List.cons.injEq, hclose, hopen, false_and, imp_false, not_false_eq_true,
          implies_true]
        -- anything else is an operator if one is found, and an item or a range otherwise
        rw [← List.cons_append, setOp?_append]
        cases setOp? (c :: ds) with
        | none => exact (agrees_setRange? (.append _)).bind fun set rest rest' hrest => ih hrest hn
        | some found => exact ih (.append found.2) hn

/-- A set in brackets agrees. -/
theorem agrees_bracketSet? (h : Behind cs cs') :
    Agrees (bracketSet? flags cs) (bracketSet? flags cs') := by
  obtain ⟨hopen, hrest⟩ := alike_openSet (v := flags.verbose) h
  change Agrees
    (setBody? flags (cs.length + 1) [] (openSet flags.verbose cs).1 (openSet flags.verbose cs).2)
    (setBody? flags (cs'.length + 1) [] (openSet flags.verbose cs').1 (openSet flags.verbose cs').2)
  rw [← hopen]
  exact agrees_setBody? hrest (Nat.succ_le_succ h.length_le)

/-! ### Groups and repetitions -/

/-- The letters of flags agree: they go on until a colon or a parenthesis of the pattern. -/
theorem agrees_flagLetters? {seen : List Char} {on : Bool} (h : Behind cs cs') :
    Agrees (flagLetters? seen on flags cs) (flagLetters? seen on flags cs') := by
  cases h with
  | swallowed => exact .none
  | append =>
    induction cs generalizing seen on flags with
    | nil => exact .none
    | cons c cs ih =>
      rw [List.cons_append]
      unfold flagLetters?
      refine .ite (.ite .none (.some (.cons _ cs))) (.ite .none ?_)
      split
      case h_9 => exact .none
      all_goals exact ih

/-- The name of a group agrees. -/
theorem agrees_groupName? (h : Behind cs cs') : Agrees (groupName? cs) (groupName? cs') := by
  cases h with
  | swallowed => exact .none
  | append =>
    unfold groupName?
    cases hcs : cs.dropWhile (· ≠ '>') with
    | nil => cases cs.takeWhile (· ≠ '>') <;> exact .none
    | cons d rest =>
      obtain ⟨hbefore, hafter⟩ := span_append hcs
      rw [hbefore, hafter]
      cases cs.takeWhile (· ≠ '>') with
      | nil => exact .none
      | cons c name =>
        dsimp only
        exact .ite (.some (.append rest)) .none

/-- The beginning of a group with a name agrees. -/
theorem agrees_namedGroup? (h : Behind cs cs') :
    Agrees (namedGroup? flags cs) (namedGroup? flags cs') :=
  (agrees_groupName? h).map (g := fun name => Token.opening flags true (some name))

/-- The beginning of a group with flags agrees, and so do flags without a group. -/
theorem agrees_flagGroup? (h : Behind cs cs') :
    Agrees (flagGroup? flags cs) (flagGroup? flags cs') := by
  refine h.elim .none .none fun c ds => ?_
  refine (agrees_flagLetters? (.cons _ ds)).bind fun inner rest rest' hrest => ?_
  -- what ends the letters is still to be read, so it is one of the pattern
  refine hrest.elim .none .none fun c' ds' => ?_
  by_cases hc : c' = ')'
  · subst hc
    exact .ite .none (.some (.append ds'))
  · simp only
    exact .some (.append ds')

/-- What comes after a question mark at the beginning of a group agrees. -/
theorem agrees_extension? (h : Behind cs cs') :
    Agrees (extension? flags cs) (extension? flags cs') := by
  have hflags : ∀ c ds,
      Agrees (flagGroup? flags (c :: ds)) (flagGroup? flags (c :: (ds ++ closing))) :=
    fun c ds => agrees_flagGroup? (.cons _ ds)
  refine h.elim .none .none fun c ds => ?_
  by_cases hname : c = '<'
  · subst hname
    exact agrees_namedGroup? (.append ds)
  by_cases hp : c = 'P'
  · subst hp
    refine (Behind.append ds).elim .none .none fun c' ds' => ?_
    by_cases hname' : c' = '<'
    · subst hname'
      exact agrees_namedGroup? (.append ds')
    · simpa [extension?, hname'] using hflags 'P' (c' :: ds')
  · simpa [extension?, hp, hname] using hflags c ds

/-- The beginning of a group agrees. -/
theorem agrees_opening? (h : Behind cs cs') :
    Agrees (opening? flags cs) (opening? flags cs') := by
  unfold opening?
  refine (h.skip flags.verbose).elim (.some .swallowed) (.some .closed) fun c ds => ?_
  by_cases hc : c = '?'
  · subst hc
    exact agrees_extension? (.append ds)
  · simpa [hc] using Agrees.some (.cons _ ds)

/-- The digits of a count are the same ones. -/
theorem alike_spanDigits (h : Behind cs cs') (hn : cs.length ≤ n) (hn' : cs'.length ≤ n') :
    Alike (count?.spanDigits v n cs) (count?.spanDigits v n' cs') := by
  refine h.loop hn hn' v ?_ ?_
  · intro n n' cs' h
    obtain rfl | rfl := h.nil_cases <;> cases n <;> cases n' <;> exact ⟨rfl, h⟩
  · intro n n' c ds ih
    unfold count?.spanDigits
    dsimp only
    split
    · exact ⟨congrArg (c :: ·) ih.1, ih.2⟩
    · exact ⟨rfl, .cons _ ds⟩

/-- A count agrees, and so does the lack of one. -/
theorem agrees_count? (h : Behind cs cs') : Agrees (count? v cs) (count? v cs') := by
  obtain ⟨hdigits, hrest⟩ := alike_spanDigits (v := v) h.dropWhile_isBlank (Nat.le_refl _)
    (Nat.le_refl _)
  unfold count?
  dsimp only
  rw [← hdigits]
  have hrest := hrest.dropWhile_isBlank.skip v
  refine .ite (.some hrest) ?_
  split
  · exact .ite (.some hrest) .none
  · exact .none

/-- The upper end of the bounds of a repetition agrees. -/
theorem agrees_upperBound? (h : Behind cs cs') :
    Agrees (upperBound? v cs) (upperBound? v cs') := by
  unfold upperBound?
  refine (h.skip v).elim .none .none fun c ds => ?_
  by_cases hclose : c = '\x7d'
  · subst hclose
    exact .some (.append ds)
  · simp only [List.cons.injEq, hclose, false_and, imp_false, not_false_eq_true, implies_true]
    refine (agrees_count? (.cons _ ds)).bind fun most cs cs' h => ?_
    cases most with
    | none => exact .none
    | some most =>
      refine h.elim .none .none fun c ds => ?_
      by_cases hclose : c = '\x7d'
      · subst hclose
        exact .some (.append ds)
      · simp [hclose, Agrees.none]

/-- The bounds of a repetition agree. -/
theorem agrees_bounds? (h : Behind cs cs') : Agrees (bounds? v cs) (bounds? v cs') := by
  refine (agrees_count? (h.skip v)).bind fun least cs cs' h => ?_
  cases least with
  | none => exact .none
  | some least =>
    refine h.elim .none .none fun c ds => ?_
    by_cases hclose : c = '\x7d'
    · subst hclose
      exact .some ((Behind.append ds).skip v).dropLazy
    by_cases hcomma : c = ','
    · subst hcomma
      refine (agrees_upperBound? (.append ds)).bind fun most cs cs' h => ?_
      exact .ite (.some (h.skip v).dropLazy) .none
    · simp [hclose, hcomma, Agrees.none]

/-! ### Tokens -/

/-- Every token of the pattern is one of the text that it is anchored in. -/
theorem agrees_token? (h : Behind cs cs') : Agrees (token? flags cs) (token? flags cs') := by
  refine h.elim .none .none fun c ds => ?_
  have hrest := Behind.append ds
  -- one case for each kind of token, in the order of the definition
  unfold token?
  dsimp only
  split
  · exact agrees_opening? hrest
  · exact .some hrest
  · exact .some hrest
  · exact .some hrest.dropLazy
  · exact .some hrest.dropLazy
  · exact .some hrest.dropLazy
  · exact agrees_bounds? hrest
  · exact (agrees_bracketSet? hrest).bind fun set cs cs' h => .some h
  · exact (agrees_escape? hrest).bind fun e cs cs' h => .also fun r => .some h
  · cases dotRegex? flags with
    | none => exact .none
    | some r => exact .some hrest
  · exact .some hrest
  · exact .some hrest
  · cases charRegex? flags c with
    | none => exact .none
    | some r => exact .some hrest

end LongPoll.Pattern
