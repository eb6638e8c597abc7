import LongPoll.Pattern.CharSet
/-!
# Regular expressions

Expressions over sets of characters and conditions on a position, and the positions at which a
match that starts at a given position can end. A text matches if some part of it does.
-/

namespace LongPoll

/-- A condition on a position in a text. -/
inductive Look where
  /-- The start of the text. -/
  | textStart
  /-- The end of the text. -/
  | textEnd
  /-- The start of a line; with `crlf` a carriage return also ends a line. -/
  | lineStart (crlf : Bool)
  /-- The end of a line. -/
  | lineEnd (crlf : Bool)
  /-- A word character on exactly one side. -/
  | wordBoundary
  /-- Word characters on both sides or on neither. -/
  | noWordBoundary
  /-- A word starts here. -/
  | wordStart
  /-- A word ends here. -/
  | wordEnd
  /-- No word character before. -/
  | wordStartHalf
  /-- No word character after. -/
  | wordEndHalf
  deriving DecidableEq, Repr

/-- A regular expression. -/
inductive Regex where
  /-- The empty text. -/
  | empty
  /-- One character of the set. -/
  | one (set : CharSet)
  /-- The empty text at a position that satisfies the condition. -/
  | look (l : Look)
  /-- One expression after the other. -/
  | seq (a b : Regex)
  /-- Either expression. -/
  | alt (a b : Regex)
  /-- The expression at least `least` times, and at most `most` times if that is given. -/
  | times (a : Regex) (least : Nat) (most : Option Nat)
  /-- An expression whose match is recorded. -/
  | capture (a : Regex)
  deriving Repr

namespace Look

/-- Whether a character belongs to words. -/
def isWordChar (c : Char) : Bool :=
  ('a' ≤ c && c ≤ 'z') || ('A' ≤ c && c ≤ 'Z') || ('0' ≤ c && c ≤ '9') || c == '_'

/-- Whether the condition holds between the characters before and after a position, which are
absent at the ends of the text. -/
def holds (l : Look) (before after : Option Char) : Bool :=
  let wordBefore := before.any isWordChar
  let wordAfter := after.any isWordChar
  match l with
  | textStart => before.isNone
  | textEnd => after.isNone
  | lineStart crlf =>
    before.isNone || before == some '\n' ||
      (crlf && before == some '\r' && after != some '\n')
  | lineEnd crlf =>
    after.isNone || (after == some '\n' && !(crlf && before == some '\r')) ||
      (crlf && after == some '\r')
  | wordBoundary => wordBefore != wordAfter
  | noWordBoundary => wordBefore == wordAfter
  | wordStart => !wordBefore && wordAfter
  | wordEnd => wordBefore && !wordAfter
  | wordStartHalf => !wordBefore
  | wordEndHalf => !wordAfter

end Look

namespace Regex

/-- Apply `step` to a list of positions `n` times, and drop repeated positions each time. -/
def iterate (step : Nat → List Nat) : (n : Nat) → List Nat → List Nat
  | 0, from_ => from_
  | n + 1, from_ => if from_.isEmpty then [] else iterate step n (from_.flatMap step).eraseDups

/-- The positions reached by applying `step` at most `n` times. Those in `seen` are reached
already, and only those in `fresh` can lead to new ones. -/
def reach (step : Nat → List Nat) : (n : Nat) → (seen fresh : List Nat) → List Nat
  | 0, seen, _ => seen
  | n + 1, seen, fresh =>
    if fresh.isEmpty then seen
    else
      let next := (fresh.flatMap step).eraseDups.filter (!seen.contains ·)
      reach step n (seen ++ next) next

/-- The positions at which a match of the expression that starts at position `i` can end. No
repetition reaches a new position after more rounds than the text has characters, so further
rounds are left out. -/
def ends (text : Array Char) : Regex → (i : Nat) → List Nat
  | empty, i => [i]
  | one set, i =>
    match text[i]? with
    | some c => if set.has c.toNat then [i + 1] else []
    | none => []
  | look l, i => if l.holds (if i = 0 then none else text[i - 1]?) text[i]? then [i] else []
  | seq a b, i => ((a.ends text i).flatMap (b.ends text)).eraseDups
  | alt a b, i => (a.ends text i ++ b.ends text i).eraseDups
  | times a least most, i =>
    let rounds := text.size + 1
    let start := iterate (a.ends text) (min least rounds) [i]
    match most with
    | some most => reach (a.ends text) (min (most - least) rounds) start start
    | none => reach (a.ends text) rounds start start
  | capture a, i => a.ends text i

/-- Whether some part of the text matches. -/
def foundIn (r : Regex) (text : String) : Bool :=
  let cs := text.toList.toArray
  (List.range (cs.size + 1)).any fun i => !(r.ends cs i).isEmpty

/-! ## Size -/

/-- The greatest size of an expression that is accepted, in octets of its compiled form. -/
def sizeLimit : Nat := 10 * 1048576

/-- The compiled size of a set of characters: a state with its ranges, and more for the octets of
characters beyond ASCII. -/
def setSize (set : CharSet) : Nat :=
  let ascii := set.asciiRanges
  let base := if ascii ≤ 1 then 32 else 32 + 8 * ascii
  if set.spread = 0 then base else base + 320 + 60 * set.spread

/-- About how many octets the compiled form of the expression takes. -/
def size : Regex → Nat
  | empty => 32
  | one set => setSize set
  | look _ => 32
  | seq a b => a.size + b.size
  | alt a b => a.size + b.size + 72
  | times a least none => a.size * (if least = 0 then 1 else least) + 72
  | times a least (some most) => a.size * most + 40 * (most - least) + 32
  | capture a => a.size + 64

end Regex

end LongPoll
