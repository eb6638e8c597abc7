import LongPoll.Pattern.Token
/-!
# Reading patterns

A pattern is read token by token onto a stack of open groups. It is accepted if every group is
closed, every repetition has something to repeat, group names differ, and neither the nesting nor
the compiled size exceeds its limit.
-/

namespace LongPoll.Pattern

/-- The greatest depth of nesting. -/
def depthLimit : Nat := 250

/-- A part of a pattern with its depth of nesting. -/
structure Part where
  /-- The expression. -/
  regex : Regex
  /-- The depth of nesting. -/
  depth : Nat

/-- What stands in a sequence: an expression, or the place of a change of flags, which cannot be
repeated. -/
abbrev Item := Option Part

/-- A group while it is read. -/
structure Frame where
  /-- The flags to return to after the group. -/
  outer : Flags
  /-- The match of the group is recorded. -/
  captures : Bool
  /-- The alternatives read so far, the last one first. -/
  branches : List Part
  /-- The items of the current alternative, the last one first. -/
  items : List Item

/-- A pattern while it is read. -/
structure Reading where
  /-- The flags in force. -/
  flags : Flags
  /-- The innermost open group, or the whole pattern. -/
  frame : Frame
  /-- The groups around it. -/
  stack : List Frame
  /-- The names of groups so far. -/
  names : List String

namespace Frame

/-- A group under the given outer flags, with nothing read. -/
def start (outer : Flags) (captures : Bool) : Frame := ⟨outer, captures, [], []⟩

/-- The sequence of items as one part. Only several items make it deeper than its items. -/
def sequence (items : List Item) : Part :=
  let parts := items.reverse.filterMap id
  let regex := match parts with
    | [] => Regex.empty
    | p :: ps => ps.foldl (fun r q => .seq r q.regex) p.regex
  let depth := parts.foldl (fun d p => max d p.depth) 0
  ⟨regex, if 2 ≤ items.length then depth + 1 else depth⟩

/-- The alternatives as one part. -/
def alternatives (f : Frame) : Part :=
  let last := sequence f.items
  match f.branches with
  | [] => last
  | branches =>
    let parts := branches.reverse ++ [last]
    let regex := match parts with
      | [] => Regex.empty
      | p :: ps => ps.foldl (fun r q => .alt r q.regex) p.regex
    ⟨regex, parts.foldl (fun d p => max d p.depth) 0 + 1⟩

/-- Add an item to the current alternative. -/
def push (f : Frame) (item : Item) : Frame := { f with items := item :: f.items }

end Frame

namespace Reading

/-- Nothing read yet. -/
def start : Reading := ⟨{}, .start {} false, [], []⟩

/-- Take in one token, if it fits. -/
def take? (s : Reading) : Token → Option Reading
  | .atom r depth => some { s with frame := s.frame.push (some ⟨r, depth⟩) }
  | .times least most =>
    match s.frame.items with
    -- at the start of a branch and behind flags there is nothing to repeat
    | some p :: items =>
      let repeated : Part := ⟨.times p.regex least most, p.depth + 1⟩
      some { s with frame := { s.frame with items := some repeated :: items } }
    | _ => none
  | .bar =>
    let branch := Frame.sequence s.frame.items
    some { s with frame := { s.frame with branches := branch :: s.frame.branches, items := [] } }
  | .opening flags captures name =>
    match name with
    | some n =>
      if s.names.contains n then none
      else some ⟨flags, .start s.flags captures, s.frame :: s.stack, n :: s.names⟩
    | none => some ⟨flags, .start s.flags captures, s.frame :: s.stack, s.names⟩
  | .closing =>
    match s.stack with
    | outer :: stack =>
      let inner := s.frame.alternatives
      let regex := if s.frame.captures then Regex.capture inner.regex else inner.regex
      some ⟨s.frame.outer, outer.push (some ⟨regex, inner.depth + 1⟩), stack, s.names⟩
    | [] => none
  | .setFlags flags => some { s with flags := flags, frame := s.frame.push none }

/-- Read the tokens of a text, at most `n` of them. -/
def run? : (n : Nat) → Reading → List Char → Option Reading
  | 0, s, cs => if (skip s.flags.verbose cs).isEmpty then some s else none
  | n + 1, s, cs =>
    match skip s.flags.verbose cs with
    | [] => some s
    | cs => do
      let (t, cs) ← token? s.flags cs
      let s ← s.take? t
      run? n s cs

/-- The expression, if everything is closed and within the limits. -/
def finish? (s : Reading) : Option Regex :=
  match s.stack with
  | [] =>
    let whole := s.frame.alternatives
    if whole.depth ≤ depthLimit && whole.regex.size ≤ Regex.sizeLimit then some whole.regex
    else none
  | _ :: _ => none

end Reading

/-- Read a pattern. -/
def parse? (source : String) : Option Regex := do
  let cs := source.toList
  let s ← Reading.start.run? cs.length cs
  s.finish?

/-- The text that matches what the pattern `source` matches, but only from the first character to
the last. -/
def anchored (source : String) : String :=
  "^(?:" ++ source ++ ")$"

end LongPoll.Pattern
