import LongPoll.Time.Duration
/-!
# Durations read as they are written

Writing a duration drops what is shorter than a millisecond, and reading gives nothing shorter than
that. So a duration that has been read is written in full (`Duration.isWhole_of_parse?`), and
whatever is written reads as the duration in whole milliseconds (`Duration.parse?_toText`).
-/

namespace LongPoll.Duration

/-- The duration rounded down to a multiple of so many nanoseconds. -/
def roundDown (d : Duration) (nanos : Nat) : Duration :=
  ⟨d.nanos / nanos * nanos, Nat.le_trans (Nat.div_mul_le_self ..) d.nanos_le⟩

/-- The duration rounded down to whole milliseconds. -/
def inMillis (d : Duration) : Duration := d.roundDown nanosPerMilli

/-- The duration is a number of whole milliseconds. -/
def IsWhole (d : Duration) : Prop := nanosPerMilli ∣ d.nanos

instance (d : Duration) : Decidable d.IsWhole := inferInstanceAs (Decidable (_ ∣ _))

/-- Durations of the same length are the same. -/
theorem ext_nanos {d d' : Duration} (h : d.nanos = d'.nanos) : d = d' := by
  obtain ⟨nanos, hle⟩ := d
  obtain rfl : nanos = d'.nanos := h
  rfl

theorem inMillis_of_isWhole {d : Duration} (h : d.IsWhole) : d.inMillis = d :=
  ext_nanos (Nat.div_mul_cancel h)

/-! ### Reading -/

/-- The units that are read, with their lengths. -/
theorem unitNanos?_cases {unit : List Char} {n : Nat} (h : unitNanos? unit = some n) :
    (unit = ['m', 's'] ∧ n = nanosPerMilli) ∨ (unit = ['s'] ∧ n = nanosPerSecond) ∨
    (unit = ['m'] ∧ n = 60 * nanosPerSecond) ∨ (unit = ['h'] ∧ n = 3600 * nanosPerSecond) ∨
    (unit = ['d'] ∧ n = 86400 * nanosPerSecond) := by
  unfold unitNanos? at h
  repeat' split at h
  all_goals simp_all

/-- Every unit is a number of whole milliseconds. -/
theorem dvd_of_unitNanos? {unit : List Char} {n : Nat} (h : unitNanos? unit = some n) :
    nanosPerMilli ∣ n := by
  obtain ⟨-, rfl⟩ | ⟨-, rfl⟩ | ⟨-, rfl⟩ | ⟨-, rfl⟩ | ⟨-, rfl⟩ := unitNanos?_cases h <;> decide

/-- Every part is a number of whole milliseconds. -/
theorem dvd_of_partNanos? {number unit : List Char} {n : Nat}
    (h : partNanos? number unit = some n) : nanosPerMilli ∣ n := by
  obtain ⟨value, -, h⟩ := Option.bind_eq_some_iff.mp h
  obtain ⟨nanos, hnanos, h⟩ := Option.bind_eq_some_iff.mp h
  split at h
  · obtain rfl := Option.some.inj h
    exact Nat.dvd_mul_left_of_dvd (dvd_of_unitNanos? hnanos) value
  · exact nomatch h

/-- Parts add up to whole milliseconds. -/
theorem isWhole_of_sumParts? {n : Nat} {total d : Duration} {cs : List Char}
    (h : sumParts? n total cs = some d) (htotal : total.IsWhole) : d.IsWhole := by
  induction n generalizing total cs with
  | zero =>
    cases cs with
    | nil => exact Option.some.inj h ▸ htotal
    | cons c cs => exact nomatch h
  | succ n ih =>
    cases cs with
    | nil => exact Option.some.inj h ▸ htotal
    | cons c cs =>
      -- one part is read and added to the sum so far
      obtain ⟨part, hpart, h⟩ := Option.bind_eq_some_iff.mp h
      obtain ⟨sum, hsum, h⟩ := Option.bind_eq_some_iff.mp h
      refine ih h ?_
      unfold ofNanos? at hsum
      split at hsum
      · obtain rfl := Option.some.inj hsum
        exact Nat.dvd_add htotal (dvd_of_partNanos? hpart)
      · exact nomatch hsum

/-- Reading gives whole milliseconds. -/
theorem isWhole_of_parse? {s : String} {d : Duration} (h : parse? s = some d) : d.IsWhole := by
  unfold parse? at h
  dsimp only at h
  split at h
  · exact Option.some.inj h ▸ Nat.dvd_zero _
  · split at h
    · exact nomatch h
    · exact isWhole_of_sumParts? h (Nat.dvd_zero _)

/-! ### Reading what is written -/

/-- From a sum so far the rest of a written duration leads to the whole sum, however many parts may
be read. -/
def Sums (total : Duration) (cs : List Char) (d : Duration) : Prop :=
  ∀ n, cs.length ≤ n → sumParts? n total cs = some d

theorem sums_nil (d : Duration) : Sums d [] d := fun n _ => by
  cases n <;> rfl

/-- A unit is written in letters, and no digit comes first. -/
theorem letters_of_unitNanos? {unit : List Char} {n : Nat} (h : unitNanos? unit = some n)
    (rest : List Char) : (∀ c ∈ unit, Text.isLetter c = true) ∧
      ∀ c ∈ (unit ++ rest).head?, Text.isDigit c = false := by
  obtain ⟨rfl, -⟩ | ⟨rfl, -⟩ | ⟨rfl, -⟩ | ⟨rfl, -⟩ | ⟨rfl, -⟩ := unitNanos?_cases h <;>
    simp <;> decide

/-- A run of characters is taken off a text that goes on with another character. -/
theorem run_append {p : Char → Bool} {run rest : List Char} (hrun : ∀ c ∈ run, p c = true)
    (hrest : ∀ c ∈ rest.head?, p c = false) :
    (run ++ rest).takeWhile p = run ∧ (run ++ rest).dropWhile p = rest := by
  rw [List.takeWhile_append_of_pos hrun, List.dropWhile_append_of_pos hrun]
  cases rest with
  | nil => simp
  | cons c rest => simp [hrest c rfl]

/-- A number that fits is read with its unit. -/
theorem partNanos?_digits {digits unit : List Char} {nanos : Nat} (hne : digits ≠ [])
    (hdigits : ∀ c ∈ digits, Text.isDigit c = true) (hunit : unitNanos? unit = some nanos)
    (hn : Nat.ofDigitChars 10 digits 0 < secondsLimit)
    (hfits : Nat.ofDigitChars 10 digits 0 * nanos / nanosPerSecond < secondsLimit) :
    partNanos? digits unit = some (Nat.ofDigitChars 10 digits 0 * nanos) := by
  rw [partNanos?, Text.readNat?_ten hne hdigits, hunit]
  simp only [Option.bind_eq_bind, Option.bind_some, hn, hfits, decide_true, Bool.and_self, if_true]

/-- A number is read together with its unit, which the next number ends. -/
theorem Sums.part {total next d : Duration} {nanos : Nat} {digits unit rest : List Char}
    (h : Sums next rest d) (hunit : unitNanos? unit = some nanos) (hne : digits ≠ [])
    (hdigits : ∀ c ∈ digits, Text.isDigit c = true)
    (hn : Nat.ofDigitChars 10 digits 0 < secondsLimit)
    (hrest : ∀ c ∈ rest.head?, Text.isLetter c = false)
    (hnext : next.nanos = total.nanos + Nat.ofDigitChars 10 digits 0 * nanos) :
    Sums total (digits ++ (unit ++ rest)) d := by
  -- the unit ends the number, and the next number ends the unit
  obtain ⟨hletters, hnodigit⟩ := letters_of_unitNanos? hunit rest
  obtain ⟨hnumber, hbehind⟩ := run_append hdigits hnodigit
  obtain ⟨hword, hlater⟩ := run_append hletters hrest
  -- the sum is a duration, so the part is not too long
  have hfits : Nat.ofDigitChars 10 digits 0 * nanos / nanosPerSecond < secondsLimit := by
    have hle : Nat.ofDigitChars 10 digits 0 * nanos ≤ maxNanos :=
      Nat.le_trans (Nat.le_add_left ..) (hnext ▸ next.nanos_le)
    rw [Nat.div_lt_iff_lt_mul (by decide)]
    exact Nat.lt_of_le_of_lt hle (by decide)
  have hpart := partNanos?_digits hne hdigits hunit hn hfits
  intro k hk
  obtain ⟨c, cs, hcs⟩ := List.exists_cons_of_ne_nil hne
  cases k with
  | zero => simp [hcs] at hk
  | succ k =>
    -- one step is spent on the part
    have hlength : rest.length ≤ k := by
      simp only [hcs, List.length_append, List.length_cons] at hk
      omega
    -- adding the part does not leave the range
    have hsum : ofNanos? (total.nanos + Nat.ofDigitChars 10 digits 0 * nanos) = some next := by
      rw [ofNanos?, dif_pos (hnext ▸ next.nanos_le)]
      exact congrArg some (ext_nanos hnext.symm)
    rw [hcs, List.cons_append, sumParts?, ← List.cons_append, ← hcs, hnumber, hbehind, hword,
      hlater, hpart]
    exact (congrArg (Option.bind · _) hsum).trans (h k hlength)

/-- What is left out stands for no time. -/
theorem Sums.renderPart {total next d : Duration} {n nanos : Nat} {rest : List Char}
    (h : Sums next rest d) (unit : List Char) (hunit : unitNanos? unit = some nanos)
    (hn : n < secondsLimit) (hrest : ∀ c ∈ rest.head?, Text.isLetter c = false)
    (hnext : next.nanos = total.nanos + n * nanos) :
    Sums total (renderPart n unit ++ rest) d := by
  unfold Duration.renderPart
  split
  next hzero =>
    rw [hzero, Nat.zero_mul, Nat.add_zero] at hnext
    rwa [List.nil_append, ← ext_nanos hnext]
  next =>
    rw [List.append_assoc]
    rw [← Text.ofDigitChars_decimal n] at hn hnext
    exact h.part hunit (Text.decimal_ne_nil n) (fun _ => Text.isDigit_of_mem_decimal) hn hrest hnext

/-- No part begins with a letter. -/
theorem isLetter_head?_renderPart {n : Nat} {unit rest : List Char}
    (hrest : ∀ c ∈ rest.head?, Text.isLetter c = false) :
    ∀ c ∈ (renderPart n unit ++ rest).head?, Text.isLetter c = false := by
  unfold renderPart
  -- a part that is left out leaves what comes behind it
  split
  · exact hrest
  · obtain ⟨c, cs, hcs⟩ := List.exists_cons_of_ne_nil (Text.decimal_ne_nil n)
    rw [hcs]
    rintro c' ⟨⟩
    exact Text.isLetter_eq_false_of_isDigit
      (Text.isDigit_of_mem_decimal (n := n) (hcs ▸ List.mem_cons_self))

/-- The parts of a written duration are short enough to be read, and add up to it from the hours
on. -/
theorem parts_add_up (d : Duration) :
    (d.wholeSeconds < secondsLimit ∧ d.subsecNanos / nanosPerMilli < secondsLimit) ∧
    (d.roundDown (3600 * nanosPerSecond)).nanos =
      zero.nanos + d.wholeSeconds / 3600 * (3600 * nanosPerSecond) ∧
    (d.roundDown (60 * nanosPerSecond)).nanos = (d.roundDown (3600 * nanosPerSecond)).nanos +
      d.wholeSeconds % 3600 / 60 * (60 * nanosPerSecond) ∧
    (d.roundDown nanosPerSecond).nanos = (d.roundDown (60 * nanosPerSecond)).nanos +
      d.wholeSeconds % 60 * nanosPerSecond ∧
    d.inMillis.nanos = (d.roundDown nanosPerSecond).nanos +
      d.subsecNanos / nanosPerMilli * nanosPerMilli := by
  have hle : d.nanos ≤ 18446744073709551616 * 1000000000 - 1 := d.nanos_le
  simp only [inMillis, roundDown, zero, wholeSeconds, subsecNanos, nanosPerSecond, nanosPerMilli,
    secondsLimit, Word.values64]
  omega

/-- The written form of a duration of at least a millisecond leads to it. -/
theorem sums_render {d : Duration} (h : d.wholeMillis ≠ 0) : Sums zero d.render d.inMillis := by
  obtain ⟨⟨hfits, hshort⟩, hhours, hminutes, hseconds, hmillis⟩ := d.parts_add_up
  have hnil : ∀ c ∈ ([] : List Char).head?, Text.isLetter c = false := nofun
  -- from the last part to the first, each with what is behind it
  have hmillis := (sums_nil _).renderPart ['m', 's'] rfl hshort hnil hmillis
  have hseconds := hmillis.renderPart ['s'] rfl (Nat.lt_of_le_of_lt (Nat.mod_le ..) hfits)
    (isLetter_head?_renderPart hnil) hseconds
  have hminutes := hseconds.renderPart ['m'] rfl (by omega)
    (isLetter_head?_renderPart (isLetter_head?_renderPart hnil)) hminutes
  have hhours := hminutes.renderPart ['h'] rfl (by omega)
    (isLetter_head?_renderPart (isLetter_head?_renderPart (isLetter_head?_renderPart hnil))) hhours
  rw [render, if_neg h]
  simpa only [List.append_assoc, List.append_nil] using hhours

/-- Letters and digits are no white space. -/
theorem isBlank_of_isLetterOrDigit {c : Char} (h : Text.isLetterOrDigit c = true) :
    Text.isBlank c = false := by
  have hbounds : 48 ≤ c.toNat ∧ c.toNat ≤ 122 := by
    simp only [Text.isLetterOrDigit, Text.isLetter, Text.isDigit, Char.le_def,
      UInt32.le_iff_toNat_le, Bool.or_eq_true, Bool.and_eq_true, decide_eq_true_eq] at h
    change 48 ≤ c.val.toNat ∧ c.val.toNat ≤ 122
    grind
  simp only [Text.isBlank]
  grind

/-- There is no white space in a written duration. -/
theorem isBlank_of_mem_render {d : Duration} {c : Char} (h : c ∈ d.render) :
    Text.isBlank c = false := by
  -- a part is a decimal number and letters
  have hpart : ∀ {n unit}, unit.all Text.isLetterOrDigit = true → c ∈ renderPart n unit →
      Text.isLetterOrDigit c = true := by
    intro n unit hunit hc
    unfold renderPart at hc
    split at hc
    · exact absurd hc List.not_mem_nil
    · obtain hc | hc := List.mem_append.mp hc
      · rw [Text.isLetterOrDigit, Text.isDigit_of_mem_decimal hc, Bool.or_true]
      · exact List.all_eq_true.mp hunit c hc
  refine isBlank_of_isLetterOrDigit ?_
  unfold render at h
  split at h
  · exact List.mem_singleton.mp h ▸ rfl
  · simp only [List.mem_append] at h
    obtain ((h | h) | h) | h := h <;> exact hpart rfl h

/-- What is written reads as the duration rounded down to whole milliseconds. -/
theorem parse?_toText (d : Duration) : parse? d.toText = some d.inMillis := by
  -- nothing is trimmed off
  have htrim : Text.trim d.render = d.render :=
    Text.trim_eq_self (fun c hc => isBlank_of_mem_render (List.mem_of_mem_head? hc))
      fun c hc => isBlank_of_mem_render (List.mem_of_mem_getLast? hc)
  unfold parse? toText
  dsimp only
  rw [String.toList_ofList, htrim]
  -- less than a millisecond is written as a bare zero
  by_cases hzero : d.wholeMillis = 0
  · have hrender : d.render = ['0'] := if_pos hzero
    rw [if_pos hrender]
    refine congrArg some (ext_nanos ?_)
    change 0 = d.wholeMillis * nanosPerMilli
    rw [hzero, Nat.zero_mul]
  · have hsums := sums_render hzero
    have hread := hsums _ (Nat.le_refl _)
    -- what is longer is not written as a bare zero, and not as nothing
    have hmore : d.render ≠ ['0'] := fun heq => by
      rw [heq] at hread
      exact nomatch hread
    have hsome : ¬ d.render.isEmpty = true := fun hempty => by
      rw [List.isEmpty_iff.mp hempty] at hread
      have hnanos : 0 = d.wholeMillis * nanosPerMilli := congrArg nanos (Option.some.inj hread)
      exact hzero ((Nat.mul_eq_zero.mp hnanos.symm).resolve_right (by decide))
    rw [if_neg hmore, if_neg hsome, hread]

end LongPoll.Duration
