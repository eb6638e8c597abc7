import LongPoll.Pattern.Property
import LongPoll.Pattern.Regex
import LongPoll.Text.Alphanumeric
import LongPoll.Text.Digits
import LongPoll.Word
/-!
# Tokens of patterns

The smallest meaningful parts of a written pattern, read one at a time from the front of the
text. How a part reads depends on the flags in force; where blanks and comments are ignored they
are skipped here.
-/

namespace LongPoll.Pattern

/-- The switches that a pattern can turn on and off within itself. -/
structure Flags where
  /-- Letters match in either case. -/
  anyCase : Bool := false
  /-- Line boundaries match inside the text too. -/
  multiLine : Bool := false
  /-- The dot matches a line break too. -/
  dotAll : Bool := false
  /-- Classes and characters beyond ASCII may be used. -/
  unicode : Bool := true
  /-- A carriage return ends a line too. -/
  crlf : Bool := false
  /-- Blanks and comments are ignored. -/
  verbose : Bool := false
  deriving DecidableEq, Repr

/-- A part of a pattern. -/
inductive Token where
  /-- An expression in itself, with the depth of its nested sets. -/
  | atom (r : Regex) (depth : Nat)
  /-- A repetition of the expression before it. -/
  | times (least : Nat) (most : Option Nat)
  /-- The bar between alternatives. -/
  | bar
  /-- The start of a group under its own flags; it is recorded if it captures. -/
  | opening (flags : Flags) (captures : Bool) (name : Option String)
  /-- The end of a group. -/
  | closing
  /-- A change of flags for the rest of the group. -/
  | setFlags (flags : Flags)
  deriving Repr

/-! ## Blanks and comments -/

/-- The text without the blanks and comments at its start. -/
def skipComments : (inComment : Bool) → List Char → List Char
  | _, [] => []
  | true, c :: cs => skipComments (c != '\n') cs
  | false, c :: cs =>
    if Text.isBlank c then skipComments false cs
    else if c = '#' then skipComments true cs
    else c :: cs

/-- The text without the blanks and comments at its start, if they are ignored. -/
def skip (verbose : Bool) (cs : List Char) : List Char :=
  if verbose then skipComments false cs else cs

/-- The character after the first one, looked for behind blanks if they are ignored. A comment
between the two hides nothing but its sign. -/
def second? (verbose : Bool) (cs : List Char) : Option Char :=
  if verbose then
    match cs.tail.dropWhile Text.isBlank with
    | '#' :: rest => (rest.dropWhile Text.isBlank).head?
    | rest => rest.head?
  else cs.tail.head?

/-! ## Escapes -/

/-- What an escape stands for. -/
inductive Escape where
  /-- A character. -/
  | char (c : Char)
  /-- A set of characters. -/
  | set (s : CharSet)
  /-- A condition on the position. -/
  | look (l : Look)

/-- Whether a backslash before the character makes it stand for itself: any ASCII character but
letters, digits and angle brackets. -/
def isEscapable (c : Char) : Bool :=
  c.toNat < 128 && !Text.isLetterOrDigit c && c != '<' && c != '>'

/-- The character with that code, unless it is a surrogate or too large. -/
def charOfCode? (code : Nat) : Option Char :=
  if code < 0xD800 || (0xDFFF < code && code ≤ 0x10FFFF) then some (Char.ofNat code) else none

/-- Read exactly `n` more hexadecimal digits of a code. -/
def hexDigits? (verbose : Bool) : (n : Nat) → (code : Nat) → List Char → Option (Nat × List Char)
  | 0, code, cs => some (code, cs)
  | n + 1, code, cs =>
    match skip verbose cs with
    | [] => none
    | c :: cs =>
      match Text.digitValue? c with
      | some d => if d < 16 then hexDigits? verbose n (code * 16 + d) cs else none
      | none => none

/-- Read the text up to a closing brace, within `n` characters. -/
def braced? (verbose : Bool) : (n : Nat) → (taken : List Char) → List Char →
    Option (List Char × List Char)
  | 0, _, _ => none
  | n + 1, taken, cs =>
    match skip verbose cs with
    | [] => none
    | '\x7d' :: cs => some (taken.reverse, cs)
    | c :: cs => braced? verbose n (c :: taken) cs

/-- Read a character code of any number of hexadecimal digits, up to a closing brace. -/
def bracedHex? (verbose : Bool) (cs : List Char) : Option (Char × List Char) := do
  let (digits, cs) ← braced? verbose (cs.length + 1) [] cs
  let code ← Text.readNat? 16 digits
  let c ← charOfCode? code
  some (c, skip verbose cs)

/-- Read a character code of `n` hexadecimal digits. -/
def plainHex? (verbose : Bool) (n : Nat) (cs : List Char) : Option (Char × List Char) := do
  let (code, cs) ← hexDigits? verbose n 0 cs
  let c ← charOfCode? code
  some (c, skip verbose cs)

/-- Read a character code in hexadecimal: `n` digits, or any number of them in braces. -/
def hexEscape? (verbose : Bool) (n : Nat) (cs : List Char) : Option (Char × List Char) :=
  match skip verbose cs with
  | '\x7b' :: cs => bracedHex? verbose cs
  | cs => plainHex? verbose n cs

/-- The text before the first place where one of the separators stands, the separator, and the
text after it. -/
def splitAtAny (separators : List (List Char)) : (before : List Char) → List Char →
    Option (List Char × List Char × List Char)
  | before, cs =>
    match separators.find? (·.isPrefixOf cs) with
    | some sep => some (before.reverse, sep, cs.drop sep.length)
    | none =>
      match cs with
      | [] => none
      | c :: cs => splitAtAny separators (c :: before) cs

/-- The set that the text in the braces of a property escape denotes: a name, or a name and a
value with `!=`, `:` or `=` between them. -/
def propertySet? (text : List Char) : Option CharSet :=
  match splitAtAny [['!', '=']] [] text with
  | some (name, _, value) =>
    (CharSet.valued? (String.ofList name) (String.ofList value)).map .compl
  | none =>
    match splitAtAny [[':']] [] text <|> splitAtAny [['=']] [] text with
    | some (name, _, value) => CharSet.valued? (String.ofList name) (String.ofList value)
    | none => CharSet.named? (String.ofList text)

/-- Fold a set if letters match in either case, then turn it round if it is negated. Without
Unicode it must not leave ASCII. -/
def finishSet? (flags : Flags) (negated : Bool) (set : CharSet) : Option CharSet :=
  let set := if flags.anyCase then CharSet.anyCase set else set
  let set := if negated then CharSet.compl set else set
  if flags.unicode || set.isAscii then some set else none

/-- Read a property escape after its `p`. -/
def propertyEscape? (flags : Flags) (negated : Bool) (cs : List Char) :
    Option (Escape × List Char) :=
  if !flags.unicode then none
  else
    match skip flags.verbose cs with
    | [] => none
    | '\x7b' :: cs => do
      let (name, cs) ← braced? flags.verbose (cs.length + 1) [] cs
      let set ← propertySet? name
      let set ← finishSet? flags negated set
      some (.set set, cs)
    | c :: cs => do
      if c = '\\' then none
      let set ← CharSet.named? (String.ofList [c])
      let set ← finishSet? flags negated set
      some (.set set, skip flags.verbose cs)

/-- The word for a word boundary in braces. -/
def boundary? (name : List Char) : Option Look :=
  if name = "start".toList then some .wordStart
  else if name = "end".toList then some .wordEnd
  else if name = "start-half".toList then some .wordStartHalf
  else if name = "end-half".toList then some .wordEndHalf
  else none

/-- Whether the character can be part of the name of a word boundary. -/
def isBoundaryChar (c : Char) : Bool :=
  Text.isLetter c || c == '-'

/-- Read the name of a word boundary in braces, within `n` characters. -/
def boundaryName? (verbose : Bool) : (n : Nat) → (taken : List Char) → List Char →
    Option (Look × List Char)
  | 0, _, _ => none
  | n + 1, taken, cs =>
    match skip verbose cs with
    | '\x7d' :: cs => (boundary? taken.reverse).map fun l => (l, cs)
    | c :: cs => if isBoundaryChar c then boundaryName? verbose n (c :: taken) cs else none
    | [] => none

/-- Read what follows the escape for a word boundary: it may be narrowed to one side by a name in
braces, which are a repetition if no name starts in them. -/
def wordEscape? (verbose : Bool) (cs : List Char) : Option (Escape × List Char) :=
  match cs with
  | '\x7b' :: rest =>
    match skip verbose rest with
    | [] => none
    | c :: _ =>
      if isBoundaryChar c then
        (boundaryName? verbose (rest.length + 1) [] rest).map fun (l, cs) => (.look l, cs)
      else some (.look .wordBoundary, cs)
  | _ => some (.look .wordBoundary, cs)

/-- Read an escape after its backslash. -/
def escape? (flags : Flags) : List Char → Option (Escape × List Char)
  | [] => none
  | c :: cs =>
    let short (negated : Bool) (set : Bool → CharSet) : Option (Escape × List Char) :=
      let set := set flags.unicode
      let set := if negated then CharSet.compl set else set
      if flags.unicode || set.isAscii then some (.set set, cs) else none
    let char (c : Char) : Option (Escape × List Char) := some (.char c, cs)
    let hex (n : Nat) : Option (Escape × List Char) :=
      (hexEscape? flags.verbose n cs).map fun (c, cs) => (.char c, cs)
    -- marks of punctuation stand for themselves, even those that mean nothing without the backslash
    if isEscapable c then char c
    else
      match c with
      | 'x' => hex 2
      | 'u' => hex 4
      | 'U' => hex 8
      | 'p' => propertyEscape? flags false cs
      | 'P' => propertyEscape? flags true cs
      | 'd' => short false CharSet.digits
      | 'D' => short true CharSet.digits
      | 's' => short false CharSet.blanks
      | 'S' => short true CharSet.blanks
      | 'w' => short false CharSet.wordChars
      | 'W' => short true CharSet.wordChars
      | 'a' => char '\x07'
      | 'f' => char '\x0c'
      | 't' => char '\t'
      | 'n' => char '\n'
      | 'r' => char '\r'
      | 'v' => char '\x0b'
      | 'A' => some (.look .textStart, cs)
      | 'z' => some (.look .textEnd, cs)
      | 'b' => wordEscape? flags.verbose cs
      | 'B' => some (.look .noWordBoundary, cs)
      | '<' => some (.look .wordStart, cs)
      | '>' => some (.look .wordEnd, cs)
      | _ => none

/-! ## Sets in brackets -/

/-- The ways to combine two sets. -/
inductive SetOp where
  /-- Common members. -/
  | inter
  /-- Members of the first only. -/
  | diff
  /-- Members of exactly one. -/
  | symDiff

/-- Combine two sets. -/
def SetOp.apply : SetOp → CharSet → CharSet → CharSet
  | inter => .inter
  | diff => .diff
  | symDiff => .symDiff

/-- The operator at the front of the text. -/
def setOp? : List Char → Option (SetOp × List Char)
  | '&' :: '&' :: cs => some (.inter, cs)
  | '-' :: '-' :: cs => some (.diff, cs)
  | '~' :: '~' :: cs => some (.symDiff, cs)
  | _ => none

/-- A set in brackets while it is read. -/
structure OpenSet where
  /-- The set is turned round in the end. -/
  negated : Bool
  /-- What stands before the last operator, and that operator. -/
  left : Option (CharSet × SetOp)
  /-- What was read since the last operator. -/
  right : CharSet
  /-- The number of parts in `right`, up to two. -/
  parts : Nat
  /-- The depth of the sets and operators inside. -/
  depth : Nat

namespace OpenSet

/-- Add a part of the given depth. -/
def add (o : OpenSet) (set : CharSet) (depth : Nat) : OpenSet :=
  { o with right := .union o.right set, parts := min 2 (o.parts + 1), depth := max o.depth depth }

/-- What was read since the last operator counts one deeper if it has several parts. -/
def unionDepth (o : OpenSet) : Nat :=
  if 2 ≤ o.parts then o.depth + 1 else o.depth

/-- Apply the operator that waits for its right side. -/
def combined (flags : Flags) (o : OpenSet) : CharSet :=
  let fold (s : CharSet) : CharSet := if flags.anyCase then CharSet.anyCase s else s
  match o.left with
  | some (left, op) => op.apply (fold left) (fold o.right)
  | none => o.right

/-- The depth of the set so far. -/
def combinedDepth (o : OpenSet) : Nat :=
  match o.left with
  | some _ => o.unionDepth + 1
  | none => o.unionDepth

/-- Take note of an operator. -/
def push (flags : Flags) (o : OpenSet) (op : SetOp) : OpenSet :=
  { o with
    left := some (o.combined flags, op)
    right := .empty
    parts := 0
    depth := o.combinedDepth }

end OpenSet

/-- The character or set at the front of the text inside brackets. -/
def setItem? (flags : Flags) : List Char → Option (Escape × List Char)
  | [] => none
  | '\\' :: cs => escape? flags cs
  | c :: cs => some (.char c, cs)

/-- Without Unicode only ASCII characters may stand in a set. -/
def allowedInSet (flags : Flags) (c : Char) : Bool :=
  flags.unicode || c.toNat < 128

/-- Read a character, range or short class inside brackets. A hyphen before the closing bracket or
before another hyphen stands for itself. -/
def setRange? (flags : Flags) (cs : List Char) : Option (CharSet × List Char) := do
  let (item, cs) ← setItem? flags cs
  let cs := skip flags.verbose cs
  match cs with
  | [] => none
  | c :: rest =>
    let after := second? flags.verbose cs
    -- the hyphen makes a range only if an item follows it
    if c ≠ '-' || after = some ']' || after = some '-' then
      match item with
      | .char c => if allowedInSet flags c then some (.single c, cs) else none
      | .set s => some (s, cs)
      | .look _ => none
    else
      match item with
      | .char low =>
        match skip flags.verbose rest with
        | [] => none
        | rest => do
          let (item, cs) ← setItem? flags rest
          match item with
          | .char high =>
            if low ≤ high && allowedInSet flags high then
              some (.range low.toNat high.toNat, cs)
            else none
          | _ => none
      | _ => none

/-- Read the name of a bracketed ASCII class, with what closes the class. -/
def className? (negated : Bool) (cs : List Char) : Option ((Bool × CharSet) × List Char) :=
  match cs.dropWhile (· ≠ ':') with
  | ':' :: ']' :: rest =>
    (CharSet.asciiClass? (String.ofList (cs.takeWhile (· ≠ ':')))).map
      fun set => ((negated, set), rest)
  | _ => none

/-- Read a bracketed ASCII class such as `[:alpha:]`, after its bracket. -/
def asciiClass? : List Char → Option ((Bool × CharSet) × List Char)
  | ':' :: '^' :: cs => className? true cs
  | ':' :: cs => className? false cs
  | _ => none

/-- Read hyphens at the start of a set, which stand for themselves. -/
def leadingHyphens (verbose : Bool) : (n : Nat) → OpenSet → List Char → OpenSet × List Char
  | 0, o, cs => (o, cs)
  | n + 1, o, cs =>
    match cs with
    | '-' :: rest => leadingHyphens verbose n (o.add (.single '-') 0) (skip verbose rest)
    | _ => (o, cs)

/-- Read the sign at the start of a set that turns it round. -/
def setSign (verbose : Bool) : List Char → Bool × List Char
  | '^' :: cs => (true, skip verbose cs)
  | cs => (false, cs)

/-- Read a closing bracket that stands for itself because nothing comes before it. -/
def leadingBracket (verbose : Bool) (o : OpenSet) : List Char → OpenSet × List Char
  | ']' :: cs => if o.parts = 0 then (o.add (.single ']') 0, skip verbose cs) else (o, ']' :: cs)
  | cs => (o, cs)

/-- Read the start of a set after its bracket: the sign that turns it round, and hyphens or a
closing bracket that stand for themselves. -/
def openSet (verbose : Bool) (cs : List Char) : OpenSet × List Char :=
  let (negated, cs) := setSign verbose (skip verbose cs)
  let (o, cs) := leadingHyphens verbose cs.length ⟨negated, none, .empty, 0, 0⟩ cs
  leadingBracket verbose o cs

/-- Read the rest of a set, within `n` steps. The sets that it stands in are on the stack. -/
def setBody? (flags : Flags) : (n : Nat) → (stack : List OpenSet) → OpenSet → List Char →
    Option ((CharSet × Nat) × List Char)
  | 0, _, _, _ => none
  | n + 1, stack, o, cs =>
    let cs := skip flags.verbose cs
    match cs with
    | [] => none
    -- the set has ended and is an item of the one that it stands in
    | ']' :: rest => do
      let set ← finishSet? flags o.negated (o.combined flags)
      let depth := o.combinedDepth + 1
      match stack with
      | [] => some ((set, depth), rest)
      | outer :: stack => setBody? flags n stack (outer.add set depth) rest
    | '[' :: rest =>
      match asciiClass? rest with
      | some ((negated, set), rest) => do
        let set ← finishSet? flags negated set
        setBody? flags n stack (o.add set 0) rest
      | none =>
        let (inner, rest) := openSet flags.verbose rest
        setBody? flags n (o :: stack) inner rest
    | _ =>
      match setOp? cs with
      | some (op, rest) => setBody? flags n stack (o.push flags op) rest
      | none => do
        let (set, rest) ← setRange? flags cs
        setBody? flags n stack (o.add set 0) rest

/-- Read a set after its bracket. -/
def bracketSet? (flags : Flags) (cs : List Char) : Option ((CharSet × Nat) × List Char) :=
  let (o, rest) := openSet flags.verbose cs
  setBody? flags (cs.length + 1) [] o rest

/-! ## Groups and repetitions -/

/-- Apply the letters of a flag list. Each letter and the minus sign may occur once, and something
has to follow the sign. -/
def flagLetters? : (seen : List Char) → (on : Bool) → Flags → List Char →
    Option (Flags × List Char)
  | _, _, _, [] => none
  | seen, on, flags, c :: cs =>
    if c = ':' || c = ')' then
      if seen.head? = some '-' then none else some (flags, c :: cs)
    else if seen.contains c then none
    else
      match c with
      | '-' => flagLetters? (c :: seen) false flags cs
      | 'i' => flagLetters? (c :: seen) on { flags with anyCase := on } cs
      | 'm' => flagLetters? (c :: seen) on { flags with multiLine := on } cs
      | 's' => flagLetters? (c :: seen) on { flags with dotAll := on } cs
      | 'U' => flagLetters? (c :: seen) on flags cs
      | 'u' => flagLetters? (c :: seen) on { flags with unicode := on } cs
      | 'R' => flagLetters? (c :: seen) on { flags with crlf := on } cs
      | 'x' => flagLetters? (c :: seen) on { flags with verbose := on } cs
      | _ => none

/-- Whether the character can be part of the name of a group, and the first one if `first`. Letters
and numbers of all scripts can, but a name does not start with a number. -/
def isNameChar (first : Bool) (c : Char) : Bool :=
  if first then c == '_' || Text.isAlphabetic c
  else c == '_' || c == '.' || c == '[' || c == ']' || Text.isAlphanumeric c

/-- Read the name of a group up to its closing angle bracket. -/
def groupName? (cs : List Char) : Option (String × List Char) :=
  let name := cs.takeWhile (· ≠ '>')
  match name, cs.dropWhile (· ≠ '>') with
  | c :: rest, _ :: cs =>
    if isNameChar true c && rest.all (isNameChar false) then some (String.ofList name, cs)
    else none
  | _, _ => none

/-- Read the name of a group whose match is recorded under it. -/
def namedGroup? (flags : Flags) (cs : List Char) : Option (Token × List Char) :=
  (groupName? cs).map fun (name, cs) => (.opening flags true (some name), cs)

/-- Read flags: for the group that they open, or, if a parenthesis comes at once, for the rest of
the group that they stand in. -/
def flagGroup? (flags : Flags) (letters : List Char) : Option (Token × List Char) := do
  let (inner, cs) ← flagLetters? [] true flags letters
  match cs with
  | ')' :: cs => if letters.head? = some ')' then none else some (.setFlags inner, cs)
  | _ :: cs => some (.opening inner false none, cs)
  | [] => none

/-- Read what opens a group after a question mark: a name or flags. The signs for looking ahead or
behind are neither. -/
def extension? (flags : Flags) : List Char → Option (Token × List Char)
  | '<' :: cs | 'P' :: '<' :: cs => namedGroup? flags cs
  | cs => flagGroup? flags cs

/-- Read what opens a group, after its parenthesis. -/
def opening? (flags : Flags) (cs : List Char) : Option (Token × List Char) :=
  match skip flags.verbose cs with
  | '?' :: cs => extension? flags cs
  | cs => some (.opening flags true none, cs)

/-- Read a number in the braces of a repetition, with blanks around it; the number is absent if
there are no digits. -/
def count? (verbose : Bool) (cs : List Char) : Option (Option Nat × List Char) :=
  let cs := cs.dropWhile Text.isBlank
  let (digits, cs) := spanDigits verbose cs.length cs
  let cs := cs.dropWhile Text.isBlank
  let cs := skip verbose cs
  if digits.isEmpty then some (none, cs)
  else
    match Text.readNat? 10 digits with
    | some n => if n < Word.values32 then some (some n, cs) else none
    | none => none
where
  /-- The digits at the front, with blanks and comments between them if those are ignored. -/
  spanDigits (verbose : Bool) : Nat → List Char → List Char × List Char
    | 0, cs => ([], cs)
    | n + 1, cs =>
      match cs with
      | c :: rest =>
        if Text.isDigit c then
          let (digits, rest) := spanDigits verbose n (skip verbose rest)
          (c :: digits, rest)
        else ([], cs)
      | [] => ([], [])

/-- The text without the question mark that makes a repetition prefer fewer rounds. -/
def dropLazy : List Char → List Char
  | '?' :: cs => cs
  | cs => cs

/-- Read the upper bound of a repetition after its comma, with the closing brace. There is no bound
if the brace comes at once. -/
def upperBound? (verbose : Bool) (cs : List Char) : Option (Option Nat × List Char) :=
  match skip verbose cs with
  | '\x7d' :: cs => some (none, cs)
  | cs => do
    let (most, cs) ← count? verbose cs
    match most, cs with
    | some m, '\x7d' :: cs => some (some m, cs)
    | _, _ => none

/-- Read the bounds of a repetition after its opening brace. -/
def bounds? (verbose : Bool) (cs : List Char) : Option (Token × List Char) := do
  let (least, cs) ← count? verbose (skip verbose cs)
  match least, cs with
  | some n, '\x7d' :: cs => some (.times n (some n), dropLazy (skip verbose cs))
  | some n, ',' :: cs => do
    let (most, cs) ← upperBound? verbose cs
    if most.all (n ≤ ·) then some (.times n most, dropLazy (skip verbose cs)) else none
  | _, _ => none

/-! ## Tokens -/

/-- The expression for one character under the flags. -/
def charRegex? (flags : Flags) (c : Char) : Option Regex :=
  if !flags.unicode && 128 ≤ c.toNat then none
  else some (.one (if flags.anyCase then .anyCase (.single c) else .single c))

/-- The expression for the dot. -/
def dotRegex? (flags : Flags) : Option Regex :=
  if !flags.unicode then none
  else if flags.dotAll then some (.one (.compl .empty))
  else if flags.crlf then some (.one (.compl (.union (.single '\n') (.single '\r'))))
  else some (.one (.compl (.single '\n')))

/-- The expression for an escape under the flags. -/
def escapeRegex? (flags : Flags) : Escape → Option Regex
  | .char c => charRegex? flags c
  | .set s => some (.one s)
  | .look l => some (.look l)

/-- Read the token at the front of a text that is not empty. -/
def token? (flags : Flags) : List Char → Option (Token × List Char)
  | [] => none
  | c :: cs =>
    match c with
    | '(' => opening? flags cs
    | ')' => some (.closing, cs)
    | '|' => some (.bar, cs)
    | '?' => some (.times 0 (some 1), dropLazy cs)
    | '*' => some (.times 0 none, dropLazy cs)
    | '+' => some (.times 1 none, dropLazy cs)
    | '\x7b' => bounds? flags.verbose cs
    | '[' => do
      let ((set, depth), cs) ← bracketSet? flags cs
      some (.atom (.one set) depth, cs)
    | '\\' => do
      let (e, cs) ← escape? flags cs
      let r ← escapeRegex? flags e
      some (.atom r 0, cs)
    | '.' => (dotRegex? flags).map fun r => (.atom r 0, cs)
    | '^' =>
      let l := if flags.multiLine then Look.lineStart flags.crlf else .textStart
      some (.atom (.look l) 0, cs)
    | '$' =>
      let l := if flags.multiLine then Look.lineEnd flags.crlf else .textEnd
      some (.atom (.look l) 0, cs)
    | c => (charRegex? flags c).map fun r => (.atom r 0, cs)

end LongPoll.Pattern
