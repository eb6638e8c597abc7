import LongPoll.Time.Duration
/-!
# Timestamps

Moments on the wall clock, in nanoseconds since the start of 1970 and between a first and a last
moment. Arithmetic that would leave this range stops at its end.
-/

namespace LongPoll

/-- The nanoseconds of the first moment, the start of the year -262143. -/
def Timestamp.minNanos : Int := -8334601228800 * 1000000000

/-- The nanoseconds of the last moment, the end of the year 262142. -/
def Timestamp.maxNanos : Int := 8210266876799 * 1000000000 + 999999999

/-- A moment on the wall clock. -/
structure Timestamp where
  /-- The nanoseconds since the start of 1970. -/
  nanos : Int
  /-- No moment comes before the first one. -/
  le_nanos : Timestamp.minNanos ≤ nanos
  /-- No moment comes after the last one. -/
  nanos_le : nanos ≤ Timestamp.maxNanos
  deriving DecidableEq

namespace Timestamp

/-- The moment at that many nanoseconds, or the nearest one there is. -/
def clamp (nanos : Int) : Timestamp :=
  if low : nanos < minNanos then ⟨minNanos, Int.le_refl _, by decide⟩
  else if high : maxNanos < nanos then ⟨maxNanos, by decide, Int.le_refl _⟩
  else ⟨nanos, Int.not_lt.mp low, Int.not_lt.mp high⟩

/-- The moment at that many nanoseconds, if there is one. -/
def ofNanos? (nanos : Int) : Option Timestamp :=
  if h : minNanos ≤ nanos ∧ nanos ≤ maxNanos then some ⟨nanos, h.1, h.2⟩ else none

/-- The first moment. -/
def first : Timestamp := clamp minNanos

/-- The last moment. -/
def last : Timestamp := clamp maxNanos

instance : Inhabited Timestamp := ⟨clamp 0⟩

instance : LT Timestamp := ⟨fun a b => a.nanos < b.nanos⟩

instance : LE Timestamp := ⟨fun a b => a.nanos ≤ b.nanos⟩

instance (a b : Timestamp) : Decidable (a < b) := inferInstanceAs (Decidable (a.nanos < b.nanos))

instance (a b : Timestamp) : Decidable (a ≤ b) := inferInstanceAs (Decidable (a.nanos ≤ b.nanos))

/-- The moment `d` after `t`, or the last one. -/
def plus (t : Timestamp) (d : Duration) : Timestamp := clamp (t.nanos + d.nanos)

/-- The moment `d` before `t`, or the first one. -/
def minus (t : Timestamp) (d : Duration) : Timestamp := clamp (t.nanos - d.nanos)

theorem lt_iff {a b : Timestamp} : a < b ↔ a.nanos < b.nanos := Iff.rfl

theorem le_iff {a b : Timestamp} : a ≤ b ↔ a.nanos ≤ b.nanos := Iff.rfl

theorem not_lt {a b : Timestamp} : ¬ a < b ↔ b ≤ a := Int.not_lt

theorem le_refl (a : Timestamp) : a ≤ a := Int.le_refl _

theorem le_trans {a b c : Timestamp} : a ≤ b → b ≤ c → a ≤ c := Int.le_trans

theorem lt_of_le_of_lt {a b c : Timestamp} : a ≤ b → b < c → a < c := Int.lt_of_le_of_lt

/-- A moment out of range becomes the nearest one that is in it. -/
theorem nanos_clamp (n : Int) : (clamp n).nanos = Max.max minNanos (Min.min n maxNanos) := by
  have horder : minNanos ≤ maxNanos := by decide
  unfold clamp
  split
  · show minNanos = _
    omega
  · split
    · show maxNanos = _
      omega
    · show n = _
      omega

/-- Going back never leads forward. -/
theorem minus_le (t : Timestamp) (d : Duration) : t.minus d ≤ t := by
  have hlow := t.le_nanos
  have hhigh := t.nanos_le
  rw [le_iff, minus, nanos_clamp]
  omega

/-- What is added to the earlier of two moments keeps it the earlier one. -/
theorem plus_le_plus {a b : Timestamp} (h : a ≤ b) (d : Duration) : a.plus d ≤ b.plus d := by
  rw [le_iff] at h
  rw [le_iff, plus, plus, nanos_clamp, nanos_clamp]
  omega

/-- A moment more than `d` before `t` still lies before `t` when `d` is added to it, also where the
range of moments ends. -/
theorem plus_lt_of_lt_minus {a t : Timestamp} {d : Duration} (h : a < t.minus d) :
    a.plus d < t := by
  have hlow := a.le_nanos
  have hhigh := t.nanos_le
  rw [lt_iff, minus, nanos_clamp] at h
  rw [lt_iff, plus, nanos_clamp]
  omega

/-- The moment at that many seconds since the start of 1970, if there is one. -/
def ofUnixSeconds? (seconds : Int) : Option Timestamp :=
  ofNanos? (seconds * nanosPerSecond)

/-- The whole seconds since the start of 1970, rounded down. -/
def unixSeconds (t : Timestamp) : Int := t.nanos.fdiv nanosPerSecond

/-- The nanoseconds beyond the whole seconds. -/
def subsecNanos (t : Timestamp) : Nat := (t.nanos.fmod nanosPerSecond).toNat

/-! ## The calendar -/

/-- A day of the proleptic Gregorian calendar. -/
structure Date where
  /-- The year, with a year 0 and negative years before it. -/
  year : Int
  /-- The month, from 1 to 12. -/
  month : Nat
  /-- The day of the month, from 1. -/
  day : Nat
  deriving DecidableEq

/-- The date of a day, given by its distance from the start of 1970. Years are counted from March,
so that a leap day is the last day of its year, in cycles of 400 years. -/
def Date.ofDays (days : Int) : Date :=
  let shifted := days + 719468
  let era := shifted.fdiv 146097
  let dayOfEra := (shifted.fmod 146097).toNat
  let yearOfEra := (dayOfEra - dayOfEra / 1460 + dayOfEra / 36524 - dayOfEra / 146096) / 365
  let dayOfYear := dayOfEra - (365 * yearOfEra + yearOfEra / 4 - yearOfEra / 100)
  let marchMonth := (5 * dayOfYear + 2) / 153
  let day := dayOfYear - (153 * marchMonth + 2) / 5 + 1
  let month := if marchMonth < 10 then marchMonth + 3 else marchMonth - 9
  let year := (yearOfEra : Int) + era * 400 + (if month ≤ 2 then 1 else 0)
  ⟨year, month, day⟩

/-- A year in four digits; one that needs more, or is negative, is signed and has at least five
characters. -/
def renderYear (year : Int) : List Char :=
  if 0 ≤ year ∧ year ≤ 9999 then Text.paddedDecimal 4 year.toNat
  else (if year < 0 then '-' else '+') :: Text.paddedDecimal 4 year.natAbs

/-- A fraction of a second in three, six or nine digits, as many as it needs, or nothing. -/
def renderFraction (nanos : Nat) : List Char :=
  if nanos = 0 then []
  else if nanos % 1000000 = 0 then '.' :: Text.paddedDecimal 3 (nanos / 1000000)
  else if nanos % 1000 = 0 then '.' :: Text.paddedDecimal 6 (nanos / 1000)
  else '.' :: Text.paddedDecimal 9 nanos

/-- The written form of a moment: date, time of day and zone. -/
def toText (t : Timestamp) : String :=
  let date := Date.ofDays (t.unixSeconds.fdiv 86400)
  let second := (t.unixSeconds.fmod 86400).toNat
  String.ofList <|
    renderYear date.year ++ '-' :: Text.paddedDecimal 2 date.month ++ '-' ::
      Text.paddedDecimal 2 date.day ++ ' ' :: Text.paddedDecimal 2 (second / 3600) ++ ':' ::
      Text.paddedDecimal 2 (second % 3600 / 60) ++ ':' :: Text.paddedDecimal 2 (second % 60) ++
      renderFraction t.subsecNanos ++ " UTC".toList

instance : ToString Timestamp := ⟨toText⟩

end Timestamp

end LongPoll
