import LongPoll.Text.Blank
import LongPoll.Text.Digits
import LongPoll.Word
/-!
# Durations

Lengths of time in whole nanoseconds, up to a fixed longest one, and their written form: a
sequence of numbers with a unit each, such as `1h30m`. Reading accepts the units in any order
and any number of times; writing uses hours, minutes, seconds and milliseconds, leaves out what is
zero, and drops what is shorter than a millisecond.
-/

namespace LongPoll

/-- The nanoseconds in a second. -/
def nanosPerSecond : Nat := 1000000000

/-- The nanoseconds in a millisecond. -/
def nanosPerMilli : Nat := 1000000

/-- The first number of seconds that does not fit in a duration. -/
def secondsLimit : Nat := Word.values64

/-- The nanoseconds of the longest duration. -/
def Duration.maxNanos : Nat := secondsLimit * nanosPerSecond - 1

/-- A length of time. -/
structure Duration where
  /-- The length in nanoseconds. -/
  nanos : Nat
  /-- No duration is longer than the longest one. -/
  nanos_le : nanos ≤ Duration.maxNanos
  deriving DecidableEq

namespace Duration

/-- The duration of that many nanoseconds, if there is one. -/
def ofNanos? (nanos : Nat) : Option Duration :=
  if h : nanos ≤ maxNanos then some ⟨nanos, h⟩ else none

/-- The duration of that many nanoseconds, or the longest one. -/
def clamp (nanos : Nat) : Duration :=
  ⟨min nanos maxNanos, Nat.min_le_right ..⟩

/-- No time at all. -/
def zero : Duration := ⟨0, Nat.zero_le _⟩

instance : Inhabited Duration := ⟨zero⟩

/-- A number of milliseconds. -/
def millis (n : Nat) : Duration := clamp (n * nanosPerMilli)

/-- A number of seconds. -/
def seconds (n : Nat) : Duration := clamp (n * nanosPerSecond)

/-- The whole seconds of a duration. -/
def wholeSeconds (d : Duration) : Nat := d.nanos / nanosPerSecond

/-- The nanoseconds beyond the whole seconds. -/
def subsecNanos (d : Duration) : Nat := d.nanos % nanosPerSecond

/-- The whole milliseconds of a duration. -/
def wholeMillis (d : Duration) : Nat := d.nanos / nanosPerMilli

/-- Whether a duration is no time at all. -/
def isZero (d : Duration) : Bool := d.nanos == 0

theorem isZero_eq_false_iff {d : Duration} : d.isZero = false ↔ 0 < d.nanos := by
  simp [isZero, Nat.pos_iff_ne_zero]

/-- Whether a duration that begins when a running clock shows `reading` nanoseconds ends beyond what
that clock can show, which counts its seconds in 63 bits. -/
def endsBeyond (d : Duration) (reading : Nat) : Bool :=
  Word.values63 ≤ (reading + d.nanos) / nanosPerSecond

/-- Whether a duration reaches beyond what a running clock can show. A wait that begins sooner or
later differs in this by no more than what the clock has counted meanwhile, so the reading is taken
to be one second throughout. -/
def outlastsClocks (d : Duration) : Bool := d.endsBeyond nanosPerSecond

/-- The longer of two durations. -/
def max (a b : Duration) : Duration := if a.nanos ≤ b.nanos then b else a

/-- The shorter of two durations. -/
def min (a b : Duration) : Duration := if a.nanos ≤ b.nanos then a else b

/-! ## Reading -/

/-- The nanoseconds in one of the written unit, if it is a unit. -/
def unitNanos? (unit : List Char) : Option Nat :=
  if unit = ['m', 's'] then some nanosPerMilli
  else if unit = ['s'] then some nanosPerSecond
  else if unit = ['m'] then some (60 * nanosPerSecond)
  else if unit = ['h'] then some (3600 * nanosPerSecond)
  else if unit = ['d'] then some (86400 * nanosPerSecond)
  else none

/-- The nanoseconds of a number and its unit. The number has to fit in 64 bits, and so have the
whole seconds that it stands for. -/
def partNanos? (number : List Char) (unit : List Char) : Option Nat := do
  let value ← Text.readNat? 10 number
  let nanos ← unitNanos? unit
  if value < secondsLimit && value * nanos / nanosPerSecond < secondsLimit then
    some (value * nanos)
  else none

/-- Add up at most `n` numbers with units, starting from `total`. -/
def sumParts? : (n : Nat) → (total : Duration) → List Char → Option Duration
  | _, total, [] => some total
  | 0, _, _ :: _ => none
  | n + 1, total, cs@(_ :: _) => do
    let number := cs.takeWhile Text.isDigit
    let rest := cs.dropWhile Text.isDigit
    let part ← partNanos? number (rest.takeWhile Text.isLetter)
    let total ← ofNanos? (total.nanos + part)
    sumParts? n total (rest.dropWhile Text.isLetter)

/-- Read a written duration. White space around it is ignored, and a bare `0` needs no unit. -/
def parse? (s : String) : Option Duration :=
  let cs := Text.trim s.toList
  if cs = ['0'] then some zero
  else if cs.isEmpty then none
  else sumParts? cs.length zero cs

/-! ## Writing -/

/-- A number with its unit, or nothing for zero. -/
def renderPart (n : Nat) (unit : List Char) : List Char :=
  if n = 0 then [] else Text.decimal n ++ unit

/-- The characters of the written form of a duration. -/
def render (d : Duration) : List Char :=
  if d.wholeMillis = 0 then ['0']
  else
    let secs := d.wholeSeconds
    renderPart (secs / 3600) ['h'] ++ renderPart (secs % 3600 / 60) ['m'] ++
      renderPart (secs % 60) ['s'] ++ renderPart (d.subsecNanos / nanosPerMilli) ['m', 's']

/-- The written form of a duration. -/
def toText (d : Duration) : String := String.ofList d.render

instance : ToString Duration := ⟨toText⟩

end Duration

end LongPoll
