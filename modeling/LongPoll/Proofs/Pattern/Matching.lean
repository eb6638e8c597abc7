import LongPoll.Pattern.Regex
/-!
# What an expression matches

An expression matches a stretch of a text by the rules of its parts (`Regex.Spans`). Matching goes
through all positions that a match can end at, and leaves out rounds of a repetition beyond the
length of the text. Nothing is lost by that: a round either moves forward or stays where it is, so
that of more rounds than there are characters some stay, and these can be left out or done again.

* `Regex.Rounds`: a position leads to another one in a number of rounds.
* `Regex.rounds_iff_of_le`: more rounds than there is way to go are as good as one more than that.
* `Regex.mem_ends_iff`: the positions that are found are those at which a match ends.
* `Regex.foundIn_iff`: a text is accepted exactly if some part of it matches.
-/

namespace LongPoll.Regex

/-! ### Rounds of a repetition -/

/-- Exactly `n` rounds of `step` lead from `i` to `j`. -/
def Rounds (step : Nat → Nat → Prop) : (n : Nat) → (i j : Nat) → Prop
  | 0, i, j => j = i
  | n + 1, i, j => ∃ k, step i k ∧ Rounds step n k j

section Rounds

variable {step : Nat → Nat → Prop} {n m i j k : Nat}

/-- Rounds come one after the other, so they can be split anywhere. -/
theorem rounds_add : Rounds step (n + m) i j ↔ ∃ k, Rounds step n i k ∧ Rounds step m k j := by
  -- by induction on the first rounds, whose start changes
  induction n generalizing i with
  | zero => simp [Rounds]
  | succ n ih =>
    rw [Nat.succ_add]
    constructor
    · rintro ⟨l, hstep, hrounds⟩
      obtain ⟨k, hfirst, hlater⟩ := ih.mp hrounds
      exact ⟨k, ⟨l, hstep, hfirst⟩, hlater⟩
    · rintro ⟨k, ⟨l, hstep, hfirst⟩, hlater⟩
      exact ⟨l, hstep, ih.mpr ⟨k, hfirst, hlater⟩⟩

/-- What every step keeps all rounds keep. -/
theorem Rounds.keeps {P : Nat → Prop} (hstep : ∀ i j, step i j → P i → P j)
    (h : Rounds step n i j) (hi : P i) : P j := by
  induction n generalizing i with
  | zero => exact h ▸ hi
  | succ n ih =>
    obtain ⟨k, hfirst, hlater⟩ := h
    exact ih hlater (hstep i k hfirst hi)

/-- Steps that agree wherever rounds can get to make the same rounds. -/
theorem rounds_congr {step' : Nat → Nat → Prop} {P : Nat → Prop}
    (hsame : ∀ i, P i → ∀ j, step i j ↔ step' i j) (hstep : ∀ i j, step' i j → P i → P j)
    (hi : P i) : Rounds step n i j ↔ Rounds step' n i j := by
  induction n generalizing i with
  | zero => rfl
  | succ n ih =>
    refine exists_congr fun k => ?_
    rw [hsame i hi]
    exact and_congr_right fun h => ih (hstep i k h hi)

/-- Rounds do not go back if no step does. -/
theorem Rounds.le (hstep : ∀ i j, step i j → i ≤ j) (h : Rounds step n i j) : i ≤ j := by
  induction n generalizing i with
  | zero => exact Nat.le_of_eq h.symm
  | succ n ih =>
    obtain ⟨k, hfirst, hlater⟩ := h
    exact Nat.le_trans (hstep i k hfirst) (ih hlater)

/-- Of more rounds than there is way to go, one stays where it is. It can be left out, or done
again. -/
theorem Rounds.stay (hstep : ∀ i j, step i j → i ≤ j) (h : Rounds step (n + 1) i j)
    (hfew : j ≤ i + n) : Rounds step n i j ∧ Rounds step (n + 2) i j := by
  induction n generalizing i with
  | zero =>
    obtain ⟨k, hfirst, rfl⟩ := h
    obtain rfl : i = j := Nat.le_antisymm (hstep i j hfirst) hfew
    exact ⟨rfl, i, hfirst, i, hfirst, rfl⟩
  | succ n ih =>
    obtain ⟨k, hfirst, hlater⟩ := h
    obtain rfl | hlt := Nat.eq_or_lt_of_le (hstep i k hfirst)
    · exact ⟨hlater, i, hfirst, i, hfirst, hlater⟩
    · obtain ⟨hless, hmore⟩ := ih hlater (by omega)
      exact ⟨⟨k, hfirst, hless⟩, k, hfirst, hmore⟩

/-- More rounds than there is way to go lead to the same positions, however many they are. -/
theorem rounds_iff_of_le (hstep : ∀ i j, step i j → i ≤ j) (hfew : j ≤ i + n) (more : Nat) :
    Rounds step (n + 1 + more) i j ↔ Rounds step (n + 1) i j := by
  induction more with
  | zero => rfl
  | succ more ih =>
    rw [← ih, ← Nat.add_assoc, Nat.add_right_comm n 1 more]
    exact ⟨fun h => (h.stay hstep (by omega)).1, fun h => (h.stay hstep (by omega)).2⟩

end Rounds

/-! ### Matches -/

/-- A match of the expression in the text stretches from position `i` to position `j`. -/
def Spans (text : Array Char) : Regex → (i j : Nat) → Prop
  | empty, i, j => j = i
  | one set, i, j => ∃ c, text[i]? = some c ∧ set.has c.toNat = true ∧ j = i + 1
  | look l, i, j =>
    l.holds (if i = 0 then none else text[i - 1]?) text[i]? = true ∧ j = i
  | seq a b, i, j => ∃ k, a.Spans text i k ∧ b.Spans text k j
  | alt a b, i, j => a.Spans text i j ∨ b.Spans text i j
  -- An upper bound below the lower one, which cannot be written, does not forbid the least number.
  | times a least most, i, j =>
    ∃ n, least ≤ n ∧ (∀ m ∈ most, n ≤ max least m) ∧ Rounds (a.Spans text) n i j
  | capture a, i, j => a.Spans text i j

/-- The expression matches the whole text, from the first character to the last. -/
def MatchesWhole (r : Regex) (text : String) : Prop :=
  r.Spans text.toList.toArray 0 text.toList.length

variable {text : Array Char}

/-- A match does not end before it begins. -/
theorem Spans.le {r : Regex} {i j : Nat} (h : r.Spans text i j) : i ≤ j := by
  induction r generalizing i j with
  | empty => exact Nat.le_of_eq h.symm
  | one set =>
    obtain ⟨c, -, -, rfl⟩ := h
    exact Nat.le_succ i
  | look l => exact Nat.le_of_eq h.2.symm
  | seq a b iha ihb =>
    obtain ⟨k, ha, hb⟩ := h
    exact Nat.le_trans (iha ha) (ihb hb)
  | alt a b iha ihb => exact h.elim iha ihb
  | times a least most ih =>
    obtain ⟨n, -, -, hrounds⟩ := h
    exact hrounds.le fun _ _ => ih
  | capture a ih => exact ih h

/-- A match does not reach beyond the text. -/
theorem Spans.le_size {r : Regex} {i j : Nat} (h : r.Spans text i j) (hi : i ≤ text.size) :
    j ≤ text.size := by
  induction r generalizing i j with
  | empty => exact h ▸ hi
  | one set =>
    obtain ⟨c, hc, -, rfl⟩ := h
    exact (Array.getElem?_eq_some_iff.mp hc).1
  | look l => exact h.2 ▸ hi
  | seq a b iha ihb =>
    obtain ⟨k, ha, hb⟩ := h
    exact ihb hb (iha ha hi)
  | alt a b iha ihb => exact h.elim (iha · hi) (ihb · hi)
  | times a least most ih =>
    obtain ⟨n, -, -, hrounds⟩ := h
    exact hrounds.keeps (P := (· ≤ text.size)) (fun _ _ => ih) hi
  | capture a ih => exact ih h hi

/-! ### Finding the matches -/

section Positions

variable {step : Nat → List Nat} {n j : Nat}

/-- Iterating finds the positions that rounds lead to. -/
theorem mem_iterate_iff {from_ : List Nat} :
    j ∈ iterate step n from_ ↔ ∃ i ∈ from_, Rounds (fun i k => k ∈ step i) n i j := by
  induction n generalizing from_ with
  | zero => simp [iterate, Rounds]
  | succ n ih =>
    rw [iterate]
    split
    -- from nowhere no round leads anywhere
    next h => simp [List.isEmpty_iff.mp h]
    next =>
      rw [ih]
      simp only [List.mem_eraseDups, List.mem_flatMap, Rounds]
      constructor
      · rintro ⟨k, ⟨i, hi, hk⟩, hrounds⟩
        exact ⟨i, hi, k, hk, hrounds⟩
      · rintro ⟨i, hi, k, hk, hrounds⟩
        exact ⟨k, ⟨i, hi, hk⟩, hrounds⟩

/-- What is found from positions seen before is what they lead to in at most `n` rounds, if each of
them that is not fresh leads only to positions seen. -/
theorem mem_reach_iff {seen fresh : List Nat} (hfresh : ∀ i ∈ fresh, i ∈ seen)
    (hseen : ∀ i ∈ seen, i ∈ fresh ∨ ∀ k ∈ step i, k ∈ seen) : j ∈ reach step n seen fresh ↔
      ∃ m ≤ n, ∃ i ∈ seen, Rounds (fun i k => k ∈ step i) m i j := by
  induction n generalizing seen fresh with
  | zero => simp [reach, Rounds]
  | succ n ih =>
    rw [reach]
    -- without fresh positions nothing new is reached
    split
    next h =>
      have hclosed : ∀ i k, k ∈ step i → i ∈ seen → k ∈ seen := fun i k hk hi =>
        (hseen i hi).elim (fun hmem => absurd hmem (by simp [List.isEmpty_iff.mp h])) (· k hk)
      constructor
      · exact fun hj => ⟨0, Nat.zero_le _, j, hj, rfl⟩
      · rintro ⟨m, -, i, hi, hrounds⟩
        exact hrounds.keeps hclosed hi
    next =>
      dsimp only
      -- the next fresh positions are those that a step leads to for the first time
      generalize hnext : (fresh.flatMap step).eraseDups.filter (!seen.contains ·) = next
      have hmem : ∀ k, k ∈ next ↔ (∃ i ∈ fresh, k ∈ step i) ∧ k ∉ seen := fun k => by simp [← hnext]
      -- what was seen has been followed up
      have hcovers : ∀ i ∈ seen, ∀ k ∈ step i, k ∈ seen ++ next := by
        intro i hi k hk
        by_cases hk' : k ∈ seen
        · exact List.mem_append_left _ hk'
        · refine List.mem_append_right _ ((hmem k).mpr ⟨?_, hk'⟩)
          exact (hseen i hi).elim (fun hfresh => ⟨i, hfresh, hk⟩) fun h => absurd (h k hk) hk'
      have hseen' : ∀ i ∈ seen ++ next, i ∈ next ∨ ∀ k ∈ step i, k ∈ seen ++ next := fun i hi =>
        (List.mem_append.mp hi).symm.imp_right (hcovers i)
      rw [ih (fun i hi => List.mem_append_right _ hi) hseen']
      constructor
      · rintro ⟨m, hm, i, hi, hrounds⟩
        -- a start that is new is one step away from a fresh one
        obtain hi | hi := List.mem_append.mp hi
        · exact ⟨m, Nat.le_succ_of_le hm, i, hi, hrounds⟩
        · obtain ⟨⟨f, hf, hi⟩, -⟩ := (hmem i).mp hi
          exact ⟨m + 1, Nat.succ_le_succ hm, f, hfresh f hf, i, hi, hrounds⟩
      · rintro ⟨m, hm, i, hi, hrounds⟩
        cases m with
        | zero => exact ⟨0, Nat.zero_le _, i, List.mem_append_left _ hi, hrounds⟩
        | succ m =>
          obtain ⟨k, hk, hrounds⟩ := hrounds
          exact ⟨m, Nat.le_of_succ_le_succ hm, k, hcovers i hi k hk, hrounds⟩

/-- What is reached from the positions after `least` rounds in at most `extra` more. -/
theorem mem_reach_iterate_iff {least extra i : Nat} :
    j ∈ reach step extra (iterate step least [i]) (iterate step least [i]) ↔
      ∃ m ≤ extra, Rounds (fun i k => k ∈ step i) (least + m) i j := by
  rw [mem_reach_iff (fun _ h => h) fun _ h => Or.inl h]
  simp only [rounds_add, mem_iterate_iff, List.mem_singleton, exists_eq_left]

end Positions

/-- The bounds of a repetition can be cut down to one more than the characters that are left. -/
theorem exists_rounds_iff {step : Nat → Nat → Prop} {least limit i j : Nat} {most : Option Nat}
    (hstep : ∀ i j, step i j → i ≤ j) (hj : j ≤ i + limit) :
    (∃ n, least ≤ n ∧ (∀ m ∈ most, n ≤ max least m) ∧ Rounds step n i j) ↔
      ∃ m ≤ (most.elim (limit + 1) fun most => min (most - least) (limit + 1)),
        Rounds step (min least (limit + 1) + m) i j := by
  -- Beyond the limit any number of rounds is as good as another.
  have hlimit : ∀ n, limit + 1 ≤ n → (Rounds step n i j ↔ Rounds step (limit + 1) i j) := by
    intro n hn
    obtain ⟨more, rfl⟩ := Nat.exists_eq_add_of_le hn
    exact rounds_iff_of_le hstep hj more
  constructor
  · rintro ⟨n, hleast, hmost, hrounds⟩
    -- few rounds are looked at one by one
    by_cases hfew : n ≤ limit
    · refine ⟨n - least, ?_, ?_⟩
      · cases most with
        | none => exact Nat.le_trans (Nat.sub_le n least) (Nat.le_succ_of_le hfew)
        | some most =>
          have hle := hmost most rfl
          simp only [Option.elim_some]
          omega
      · rwa [Nat.min_eq_left (by omega), Nat.add_sub_cancel' hleast]
    · refine ⟨_, Nat.le_refl _, ?_⟩
      rw [hlimit]
      · exact (hlimit n (by omega)).mp hrounds
      · cases most with
        | none => exact Nat.le_add_left ..
        | some most =>
          have hle := hmost most rfl
          simp only [Option.elim_some]
          omega
  · rintro ⟨m, hm, hrounds⟩
    by_cases hfew : least ≤ limit
    · rw [Nat.min_eq_left (by omega)] at hrounds
      refine ⟨least + m, Nat.le_add_right .., ?_, hrounds⟩
      rintro most ⟨⟩
      simp only [Option.elim_some] at hm
      omega
    · rw [Nat.min_eq_right (by omega), hlimit _ (Nat.le_add_right ..)] at hrounds
      exact ⟨least, Nat.le_refl _, fun m _ => Nat.le_max_left .., (hlimit least (by omega)).mpr hrounds⟩

/-- The positions that are found for a start are those at which a match from there ends. -/
theorem mem_ends_iff {text : Array Char} {r : Regex} {i j : Nat} (hi : i ≤ text.size) :
    j ∈ r.ends text i ↔ r.Spans text i j := by
  induction r generalizing i j with
  | empty => exact List.mem_singleton
  | one set =>
    rw [ends, Spans]
    cases text[i]? with
    | none => simp
    | some c => simp
  | look l =>
    rw [ends, Spans]
    split <;> simp_all
  | seq a b iha ihb =>
    simp only [ends, Spans, List.mem_eraseDups, List.mem_flatMap]
    refine exists_congr fun k => ?_
    rw [iha hi]
    exact and_congr_right fun h => ihb (h.le_size hi)
  | alt a b iha ihb =>
    simp only [ends, Spans, List.mem_eraseDups, List.mem_append, iha hi, ihb hi]
  | times a least most ih =>
    -- matches stay inside the text, and so do rounds of them
    have hstay : ∀ i k, a.Spans text i k → i ≤ text.size → k ≤ text.size := fun _ _ => Spans.le_size
    -- what is computed are the bounded rounds
    have hfound : j ∈ (times a least most).ends text i ↔
        ∃ m ≤ (most.elim (text.size + 1) fun most => min (most - least) (text.size + 1)),
          Rounds (a.Spans text) (min least (text.size + 1) + m) i j := by
      generalize hextra : (most.elim (text.size + 1) fun most => min (most - least) (text.size + 1))
        = extra
      have hreach : j ∈ reach (a.ends text) extra
          (iterate (a.ends text) (min least (text.size + 1)) [i])
          (iterate (a.ends text) (min least (text.size + 1)) [i]) ↔ ∃ m ≤ extra,
            Rounds (fun i k => k ∈ a.ends text i) (min least (text.size + 1) + m) i j :=
        mem_reach_iterate_iff
      simp only [rounds_congr (P := (· ≤ text.size)) (fun i hi j => ih hi) hstay hi] at hreach
      cases most <;> exact hextra ▸ hreach
    rw [hfound, Spans]
    -- beyond the text there is nothing to be found on either side
    by_cases hj : j ≤ text.size
    · exact (exists_rounds_iff (fun _ _ => Spans.le) (by omega)).symm
    · constructor
      · rintro ⟨m, -, hrounds⟩
        exact absurd (hrounds.keeps (P := (· ≤ text.size)) hstay hi) hj
      · rintro ⟨n, -, -, hrounds⟩
        exact absurd (hrounds.keeps (P := (· ≤ text.size)) hstay hi) hj
  | capture a ih => exact ih hi

/-- A text is accepted exactly if some part of it matches. -/
theorem foundIn_iff {r : Regex} {s : String} : r.foundIn s = true ↔
    ∃ i j, i ≤ s.toList.length ∧ r.Spans s.toList.toArray i j := by
  have hsize : s.toList.toArray.size = s.toList.length := List.size_toArray
  simp only [foundIn, List.any_eq_true, List.mem_range, hsize, Nat.lt_succ_iff, Bool.not_eq_true',
    List.isEmpty_eq_false_iff_exists_mem]
  constructor
  · rintro ⟨i, hi, j, hj⟩
    exact ⟨i, j, hi, (mem_ends_iff (hsize ▸ hi)).mp hj⟩
  · rintro ⟨i, j, hi, hj⟩
    exact ⟨i, hi, j, (mem_ends_iff (hsize ▸ hi)).mpr hj⟩

/-- Between the two ends of the text an expression is found exactly if it matches the whole. -/
theorem foundIn_between_iff {r : Regex} {s : String} :
    (seq (seq (look .textStart) r) (look .textEnd)).foundIn s = true ↔ r.MatchesWhole s := by
  rw [foundIn_iff, MatchesWhole]
  constructor
  · rintro ⟨_, j, hi, _, ⟨i, ⟨hstart, rfl⟩, hspans⟩, hend, rfl⟩
    -- the conditions at the ends leave one place for each end of the match
    have hfirst : i = 0 := by
      refine Decidable.byContradiction fun hne => ?_
      have hin : i - 1 < s.toList.length := by omega
      simp [Look.holds, hne, hin] at hstart
    have hlast : j = s.toList.length := by
      have hle : j ≤ s.toList.length := by simpa using hspans.le_size (by simpa using hi)
      have hge : s.toList.length ≤ j := by simpa [Look.holds] using hend
      exact Nat.le_antisymm hle hge
    rwa [hfirst, hlast] at hspans
  · intro h
    refine ⟨0, _, Nat.zero_le _, _, ⟨0, ⟨rfl, rfl⟩, h⟩, ?_, rfl⟩
    simp [Look.holds]

end LongPoll.Regex
