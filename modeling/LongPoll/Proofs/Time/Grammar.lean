import Mathlib.Algebra.GroupWithZero.Nat
import LongPoll.Parameter
import LongPoll.Proofs.Time.Duration
/-!
# The grammar of written durations

A written duration is a bare zero or a sequence of parts, each a number in decimal digits and the
letters of a unit, with white space around the whole and none inside. The number of a part fits in
64 bits, and so do the seconds that it stands for. The duration is the sum of the parts, in
whatever order they come and however often a unit occurs, and there has to be a duration that long.

* `Duration.Part`: a number with its unit, and `Duration.Part.Fits`: it is not too large.
* `Duration.Denotes`: a text is a written form of a duration.
* `Duration.sumParts?_eq_some_iff`: what the parts of a text add up to, for which a step for each
  character is enough (`Duration.sumParts?_eq_of_length_le`).
* `Duration.parse_accepts_grammar`: reading gives the duration that a text denotes, and refuses
  every text that denotes none.
-/

namespace LongPoll.Duration

/-! ### Parts -/

/-- The units of written durations. -/
inductive TimeUnit where
  /-- Thousandths of a second. -/
  | millis
  /-- Seconds. -/
  | seconds
  /-- Minutes. -/
  | minutes
  /-- Hours. -/
  | hours
  /-- Days of 24 hours. -/
  | days

namespace TimeUnit

/-- How the unit is written. -/
def letters : TimeUnit → List Char
  | millis => ['m', 's']
  | seconds => ['s']
  | minutes => ['m']
  | hours => ['h']
  | days => ['d']

/-- The whole seconds in one of the unit. -/
def wholeSeconds : TimeUnit → Nat
  | millis => 0
  | seconds => 1
  | minutes => 60
  | hours => 3600
  | days => 86400

/-- The nanoseconds in one of the unit. -/
def nanos : TimeUnit → Nat
  | millis => nanosPerMilli
  | u => u.wholeSeconds * nanosPerSecond

end TimeUnit

/-- A number in digits with its unit. -/
structure Part where
  /-- The digits of the number. -/
  digits : List Char
  /-- The unit. -/
  unit : TimeUnit

namespace Part

/-- The written form of the part. -/
def text (p : Part) : List Char := p.digits ++ p.unit.letters

/-- The number. -/
def count (p : Part) : Nat := Nat.ofDigitChars 10 p.digits 0

/-- How long the part is. -/
def nanos (p : Part) : Nat := p.count * p.unit.nanos

/-- The part is written with digits, and it is not too large. -/
structure Fits (p : Part) : Prop where
  /-- There is a digit. -/
  nonempty : p.digits ≠ []
  /-- There are only digits. -/
  decimal : ∀ c ∈ p.digits, Text.isDigit c = true
  /-- The number has at most 64 bits. -/
  count_lt : p.count < Word.values64
  /-- So have the seconds that it stands for in its unit. -/
  seconds_lt : p.count * p.unit.wholeSeconds < Word.values64

end Part

/-- The characters spell the duration: they are a bare zero, or parts that add up to it. -/
def Spells (cs : List Char) (d : Duration) : Prop :=
  (cs = ['0'] ∧ d = zero) ∨ ∃ parts : List Part, parts ≠ [] ∧ (∀ p ∈ parts, p.Fits) ∧
    cs = parts.flatMap Part.text ∧ d.nanos = (parts.map Part.nanos).sum

/-- The text spells the duration, with white space around it. -/
def Denotes (s : String) (d : Duration) : Prop :=
  ∃ lead body trail, s.toList = lead ++ (body ++ trail) ∧
    (∀ c ∈ lead, Text.isBlank c = true) ∧ (∀ c ∈ trail, Text.isBlank c = true) ∧ Spells body d

/-! ### Reading parts -/

/-- Every unit is read from its letters. -/
theorem unitNanos?_letters (u : TimeUnit) : unitNanos? u.letters = some u.nanos := by
  cases u <;> rfl

/-- What is read as a unit is the letters of one. -/
theorem exists_unit_of_unitNanos? {cs : List Char} {n : Nat} (h : unitNanos? cs = some n) :
    ∃ u : TimeUnit, cs = u.letters ∧ n = u.nanos := by
  obtain ⟨rfl, rfl⟩ | ⟨rfl, rfl⟩ | ⟨rfl, rfl⟩ | ⟨rfl, rfl⟩ | ⟨rfl, rfl⟩ := unitNanos?_cases h
  · exact ⟨.millis, rfl, rfl⟩
  · exact ⟨.seconds, rfl, rfl⟩
  · exact ⟨.minutes, rfl, rfl⟩
  · exact ⟨.hours, rfl, rfl⟩
  · exact ⟨.days, rfl, rfl⟩

/-- The seconds that a number stands for are its whole seconds, unless the unit is shorter than a
second, where they are fewer than the number. -/
theorem wholeSeconds_lt_iff {n : Nat} (u : TimeUnit) (hn : n < secondsLimit) :
    n * u.nanos / nanosPerSecond < secondsLimit ↔ n * u.wholeSeconds < Word.values64 := by
  cases u with
  | millis =>
    -- A number that fits stands for fewer seconds than it says, so that both sides hold.
    simp only [TimeUnit.nanos, TimeUnit.wholeSeconds, nanosPerMilli, nanosPerSecond, secondsLimit,
      Word.values64] at hn ⊢
    omega
  | _ =>
    rw [TimeUnit.nanos, ← Nat.mul_assoc, Nat.mul_div_cancel _ (by decide), secondsLimit]
    exact fun h => by cases h

/-- A number and its unit are read exactly if they are a part that fits. -/
theorem partNanos?_eq_some_iff {digits letters : List Char} {n : Nat}
    (h : ∀ c ∈ digits, Text.isDigit c = true) : partNanos? digits letters = some n ↔
      ∃ u : TimeUnit, letters = u.letters ∧ (Part.mk digits u).Fits ∧
        n = (Part.mk digits u).nanos := by
  constructor
  · intro hread
    -- a number is read, then a unit, and then their product is checked
    obtain ⟨value, hvalue, hread⟩ := Option.bind_eq_some_iff.mp hread
    obtain ⟨nanos, hnanos, hread⟩ := Option.bind_eq_some_iff.mp hread
    obtain ⟨u, rfl, rfl⟩ := exists_unit_of_unitNanos? hnanos
    -- no number is read of no digits
    have hne : digits ≠ [] := by
      rintro rfl
      exact nomatch hvalue
    rw [Text.readNat?_ten hne h] at hvalue
    obtain rfl := Option.some.inj hvalue
    split at hread
    next hfits =>
      obtain ⟨hcount, hseconds⟩ := Bool.and_eq_true_iff.mp hfits
      have hcount := of_decide_eq_true hcount
      exact ⟨u, rfl, ⟨hne, h, hcount, (wholeSeconds_lt_iff u hcount).mp
        (of_decide_eq_true hseconds)⟩, (Option.some.inj hread).symm⟩
    next => exact nomatch hread
  · rintro ⟨u, rfl, hfits, rfl⟩
    exact partNanos?_digits hfits.nonempty h (unitNanos?_letters u) hfits.count_lt
      ((wholeSeconds_lt_iff u hfits.count_lt).mpr hfits.seconds_lt)

/-- Parts begin with a digit. -/
theorem head?_flatMap_text {parts : List Part} (h : ∀ p ∈ parts, p.Fits) :
    ∀ c ∈ (parts.flatMap Part.text).head?, Text.isDigit c = true := by
  cases parts with
  | nil => nofun
  | cons p parts =>
    have hp := h p List.mem_cons_self
    obtain ⟨c, cs, hcs⟩ := List.exists_cons_of_ne_nil hp.nonempty
    rw [List.flatMap_cons, Part.text, hcs]
    rintro c' ⟨⟩
    exact hp.decimal _ (hcs ▸ List.mem_cons_self)

/-- Parts that fit lead from a sum so far to the whole sum. -/
theorem sums_flatMap_text {parts : List Part} {total d : Duration} (h : ∀ p ∈ parts, p.Fits)
    (hd : d.nanos = total.nanos + (parts.map Part.nanos).sum) :
    Sums total (parts.flatMap Part.text) d := by
  induction parts generalizing total with
  | nil => exact ext_nanos hd ▸ sums_nil _
  | cons p parts ih =>
    obtain ⟨hp, hparts⟩ := List.forall_mem_cons.mp h
    rw [List.map_cons, List.sum_cons, ← Nat.add_assoc] at hd
    -- What has been added up so far is no longer than the whole.
    let next : Duration :=
      ⟨total.nanos + p.nanos, Nat.le_trans (hd ▸ Nat.le_add_right ..) d.nanos_le⟩
    -- A digit or nothing comes behind the letters, so that they are read as one unit.
    have hrest : ∀ c ∈ (parts.flatMap Part.text).head?, Text.isLetter c = false := fun c hc =>
      Text.isLetter_eq_false_of_isDigit (head?_flatMap_text hparts c hc)
    have hlater : Sums next (parts.flatMap Part.text) d := ih hparts hd
    rw [List.flatMap_cons, Part.text, List.append_assoc]
    exact hlater.part (unitNanos?_letters p.unit) hp.nonempty hp.decimal hp.count_lt hrest rfl

/-- What is read first is a part that fits, and the sum goes on behind it. -/
theorem sumParts?_step {n : Nat} {total d : Duration} {cs : List Char} (hne : cs ≠ [])
    (h : sumParts? (n + 1) total cs = some d) : ∃ (p : Part) (rest : List Char) (next : Duration),
      p.Fits ∧ cs = p.text ++ rest ∧ next.nanos = total.nanos + p.nanos ∧
        sumParts? n next rest = some d := by
  obtain ⟨c, cs', hcs⟩ := List.exists_cons_of_ne_nil hne
  rw [hcs, sumParts?, ← hcs] at h
  obtain ⟨part, hpart, hread⟩ := Option.bind_eq_some_iff.mp h
  obtain ⟨next, hnext, hlater⟩ := Option.bind_eq_some_iff.mp hread
  -- a part is what was read of digits and then of letters
  have hdigits : ∀ c ∈ cs.takeWhile Text.isDigit, Text.isDigit c = true :=
    List.all_eq_true.mp List.all_takeWhile
  obtain ⟨u, hletters, hfits, hnanos⟩ := (partNanos?_eq_some_iff hdigits).mp hpart
  refine ⟨⟨cs.takeWhile Text.isDigit, u⟩, _, next, hfits, ?_, ?_, hlater⟩
  · rw [Part.text, ← hletters, List.append_assoc, List.takeWhile_append_dropWhile,
      List.takeWhile_append_dropWhile]
  · unfold ofNanos? at hnext
    split at hnext
    · rw [← hnanos]
      exact congrArg nanos (Option.some.inj hnext).symm
    · cases hnext

/-- Characters lead from a sum so far to a sum exactly if they are parts that make the
difference. -/
theorem sumParts?_eq_some_iff {n : Nat} {total d : Duration} {cs : List Char}
    (hn : cs.length ≤ n) : sumParts? n total cs = some d ↔ ∃ parts : List Part,
      (∀ p ∈ parts, p.Fits) ∧ cs = parts.flatMap Part.text ∧
        d.nanos = total.nanos + (parts.map Part.nanos).sum := by
  constructor
  · intro h
    induction n generalizing total cs with
    | zero =>
      obtain rfl := List.eq_nil_of_length_eq_zero (Nat.le_zero.mp hn)
      exact ⟨[], nofun, rfl, congrArg nanos (Option.some.inj h).symm⟩
    | succ n ih =>
      by_cases hne : cs = []
      · subst hne
        exact ⟨[], nofun, rfl, congrArg nanos (Option.some.inj h).symm⟩
      · obtain ⟨p, rest, next, hp, rfl, hnext, hlater⟩ := sumParts?_step hne h
        -- A part has a digit at least, so that there are steps for what is behind it.
        have hshorter : rest.length ≤ n := by
          have hpos := List.length_pos_iff.mpr hp.nonempty
          rw [Part.text, List.length_append, List.length_append] at hn
          omega
        obtain ⟨parts, hparts, rfl, hd⟩ := ih hshorter hlater
        refine ⟨p :: parts, List.forall_mem_cons.mpr ⟨hp, hparts⟩, rfl, ?_⟩
        rw [hd, hnext, List.map_cons, List.sum_cons, Nat.add_assoc]
  · rintro ⟨parts, hparts, rfl, hd⟩
    exact sums_flatMap_text hparts hd n hn

/-- A step for each character is enough: what more steps would read, these do. So no text is refused
because the steps have run out. -/
theorem sumParts?_eq_of_length_le {n n' : Nat} {cs : List Char} (hn : cs.length ≤ n)
    (hn' : cs.length ≤ n') (total : Duration) : sumParts? n total cs = sumParts? n' total cs :=
  Option.ext fun _ => (sumParts?_eq_some_iff hn).trans (sumParts?_eq_some_iff hn').symm

/-! ### Reading the whole -/

/-- No white space stands inside what spells a duration. -/
theorem isBlank_of_mem_spells {cs : List Char} {d : Duration} (h : Spells cs d) {c : Char}
    (hc : c ∈ cs) : Text.isBlank c = false := by
  refine isBlank_of_isLetterOrDigit ?_
  obtain ⟨rfl, -⟩ | ⟨parts, -, hparts, rfl, -⟩ := h
  · exact List.mem_singleton.mp hc ▸ rfl
  · obtain ⟨p, hp, hc⟩ := List.mem_flatMap.mp hc
    obtain hc | hc := List.mem_append.mp hc
    · rw [Text.isLetterOrDigit, (hparts p hp).decimal c hc, Bool.or_true]
    · have hletters : p.unit.letters.all Text.isLetterOrDigit = true := by cases p.unit <;> rfl
      exact List.all_eq_true.mp hletters c hc

/-- What is left of a text without the white space around it tells what it denotes. -/
theorem denotes_iff {s : String} {d : Duration} : Denotes s d ↔ Spells (Text.trim s.toList) d := by
  constructor
  · rintro ⟨lead, body, trail, hs, hlead, htrail, hbody⟩
    have htrim := Text.trim_append hlead htrail
      (fun c hc => isBlank_of_mem_spells hbody (List.mem_of_mem_head? hc))
      fun c hc => isBlank_of_mem_spells hbody (List.mem_of_mem_getLast? hc)
    rwa [hs, htrim]
  · intro h
    obtain ⟨lead, trail, hs, hlead, htrail⟩ := Text.append_trim s.toList
    exact ⟨lead, _, trail, hs, hlead, htrail, h⟩

/-- A part has a digit and a letter at least. -/
theorem two_le_length_flatMap_text {parts : List Part} (hne : parts ≠ [])
    (h : ∀ p ∈ parts, p.Fits) : 2 ≤ (parts.flatMap Part.text).length := by
  obtain ⟨p, rest, rfl⟩ := List.exists_cons_of_ne_nil hne
  have hdigits := List.length_pos_iff.mpr (h p List.mem_cons_self).nonempty
  have hletters : 0 < p.unit.letters.length := by cases p.unit <;> decide
  rw [List.flatMap_cons, Part.text, List.length_append, List.length_append]
  omega

/-- What is not a bare zero spells what its parts add up to. -/
theorem spells_iff {cs : List Char} {d : Duration} : Spells cs d ↔
    (cs = ['0'] ∧ d = zero) ∨ (cs ≠ ['0'] ∧ cs ≠ [] ∧ sumParts? cs.length zero cs = some d) := by
  rw [sumParts?_eq_some_iff (Nat.le_refl _), Spells]
  refine or_congr_right ⟨?_, ?_⟩
  · rintro ⟨parts, hne, hparts, rfl, hd⟩
    have hlength := two_le_length_flatMap_text hne hparts
    refine ⟨fun heq => ?_, fun heq => ?_, parts, hparts, rfl, hd.trans (Nat.zero_add _).symm⟩ <;>
      · rw [heq] at hlength
        exact absurd hlength (by decide)
  · rintro ⟨-, hne, parts, hparts, rfl, hd⟩
    refine ⟨parts, ?_, hparts, rfl, hd.trans (Nat.zero_add _)⟩
    rintro rfl
    exact hne rfl

/-- A text reads as the duration that it denotes. -/
theorem parse?_eq_some_iff {s : String} {d : Duration} : parse? s = some d ↔ Denotes s d := by
  rw [denotes_iff, spells_iff, parse?]
  generalize Text.trim s.toList = cs
  by_cases hzero : cs = ['0']
  · simp [hzero, eq_comm]
  · by_cases hnil : cs = []
    · simp [hnil]
    · simp [hzero, hnil]

/-- Reading a text gives the duration that it denotes, and refuses exactly the texts that denote
none. -/
theorem parse_accepts_grammar (s : String) :
    (∀ d, parse s = .ok d ↔ Denotes s d) ∧
    ∀ e, parse s = .error e ↔
      (∀ d, ¬ Denotes s d) ∧ e = .invalidParameter ("invalid duration: " ++ Text.quoted s) := by
  refine ⟨fun d => parse_eq_ok_iff.trans parse?_eq_some_iff, fun e => ?_⟩
  simp only [← parse?_eq_some_iff, parse]
  cases parse? s with
  | none => simp [eq_comm]
  | some d => simp

-- A millisecond, a minute and another millisecond: letters are taken together as far as they go.
example : (parse? "1ms1m1ms").map nanos = some 60002000000 := by decide +kernel

end LongPoll.Duration
