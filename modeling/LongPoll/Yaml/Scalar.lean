import LongPoll.Yaml.Line
/-!
# Scalars

The forms in which YAML writes a text: plain, between quotes of either kind, and as a block of
lines. Each reader takes the text after the mark that opens the scalar and gives what the scalar
says with the text that follows it.
-/

namespace LongPoll.Yaml

/-! ## Plain scalars -/

/-- Read a plain word. It ends at a gap, at a colon before a gap, and in a flow collection also at
a mark of such a collection, which must not follow on a colon. -/
def readWord? (inFlow : Bool) : List Char → Option (List Char × List Char)
  | [] => some ([], [])
  | c :: rest =>
    let closes (d : Char) : Bool := d == ',' || d == '[' || d == ']' || d == '\x7b' || d == '\x7d'
    if isBlank c || isBreak c || (c == ':' && atGap rest) then some ([], c :: rest)
    else if inFlow && c == ':' && rest.head?.any (fun d => closes d || d == '?') then none
    else if inFlow && closes c then some ([], c :: rest)
    else (readWord? inFlow rest).map fun (word, rest) => (c :: word, rest)

/-- A plain scalar that was read. -/
structure PlainScalar where
  /-- What it says. -/
  text : List Char
  /-- Whether the text that follows stands on a later line. -/
  endsLine : Bool
  /-- The text that follows. -/
  rest : List Char

/-- Read at most `n` words of a plain scalar after the text read so far and the gap after it. Lines
after the first need at least `indent` characters before them, except in a flow collection. -/
def readWords? (inFlow : Bool) (indent : Nat) :
    (n : Nat) → (text : List Char) → Gap → Option PlainScalar
  | 0, text, g => some ⟨text, g.isBroken, g.rest⟩
  | n + 1, text, g =>
    -- a comment ends the scalar, and so does a mark between documents
    if g.rest.head? == some '#' || (g.isBroken && g.column == 0 && isDocumentMark g.rest) then
      some ⟨text, g.isBroken, g.rest⟩
    else
      match readWord? inFlow g.rest with
      | none => none
      | some ([], _) => some ⟨text, g.isBroken, g.rest⟩
      | some (word, rest) =>
        let text := text ++ g.text ++ word
        let g := Gap.read rest
        if rest.isEmpty || !atGap rest || (!inFlow && g.isBroken && g.column < indent) then
          some ⟨text, g.isBroken, g.rest⟩
        else readWords? inFlow indent n text g

/-- Read a plain scalar. -/
def readPlain? (inFlow : Bool) (indent : Nat) (cs : List Char) : Option PlainScalar :=
  readWords? inFlow indent (cs.length + 1) [] (Gap.start cs)

/-! ## Quoted scalars -/

/-- Go on behind a gap inside quotes, where no document may end. -/
def behindGap? (g : Gap) : Option (List Char) :=
  if g.isBroken && g.column == 0 && isDocumentMark g.rest then none else some g.rest

/-- Read a text up to a single quote, in at most `n` steps. A quote in it is written twice. -/
def readSingle? : (n : Nat) → List Char → Option (List Char × List Char)
  | 0, _ => none
  | _ + 1, [] => none
  | n + 1, '\'' :: '\'' :: rest =>
    (readSingle? n rest).map fun (text, rest) => ('\'' :: text, rest)
  | _ + 1, '\'' :: rest => some ([], rest)
  | n + 1, c :: rest =>
    if isBlank c || isBreak c then do
      let g := Gap.read (c :: rest)
      let rest ← behindGap? g
      let (text, rest) ← readSingle? n rest
      some (g.text ++ text, rest)
    else (readSingle? n rest).map fun (text, rest) => (c :: text, rest)

/-- The character with the given number of hexadecimal digits as its code. -/
def readCode? (digits : Nat) (cs : List Char) : Option (Char × List Char) := do
  let code := cs.take digits
  let n ← if code.length = digits then Text.readNat? 16 code else none
  if n.isValidChar then some (Char.ofNat n, cs.drop digits) else none

/-- The character that one letter after a backslash stands for. -/
def shortEscape? (c : Char) : Option Char :=
  match c with
  | '0' => some '\x00'
  | 'a' => some '\x07'
  | 'b' => some '\x08'
  | 't' | '\t' => some '\t'
  | 'n' => some '\n'
  | 'v' => some '\x0B'
  | 'f' => some '\x0C'
  | 'r' => some '\r'
  | 'e' => some '\x1B'
  | ' ' | '"' | '/' | '\\' => some c
  | 'N' => some '\u0085'
  | '_' => some '\u00A0'
  | 'L' => some '\u2028'
  | 'P' => some '\u2029'
  | _ => none

/-- Read what follows a backslash. -/
def readEscape? : List Char → Option (Char × List Char)
  | 'x' :: rest => readCode? 2 rest
  | 'u' :: rest => readCode? 4 rest
  | 'U' :: rest => readCode? 8 rest
  | c :: rest => (shortEscape? c).map fun d => (d, rest)
  | [] => none

/-- Read a text up to a double quote, in at most `n` steps. A line break after a backslash is no
part of the text. -/
def readDouble? : (n : Nat) → List Char → Option (List Char × List Char)
  | 0, _ => none
  | _ + 1, [] => none
  | _ + 1, '"' :: rest => some ([], rest)
  | n + 1, '\\' :: rest =>
    match takeBreak? rest with
    | some (_, rest) => do
      let g := Gap.read rest
      let rest ← if g.column == 0 && isDocumentMark g.rest then none else some g.rest
      let (text, rest) ← readDouble? n rest
      some (g.breaks ++ text, rest)
    | none => do
      let (c, rest) ← readEscape? rest
      let (text, rest) ← readDouble? n rest
      some (c :: text, rest)
  | n + 1, c :: rest =>
    if isBlank c || isBreak c then do
      let g := Gap.read (c :: rest)
      let rest ← behindGap? g
      let (text, rest) ← readDouble? n rest
      some (g.text ++ text, rest)
    else (readDouble? n rest).map fun (text, rest) => (c :: text, rest)

/-! ## Block scalars -/

/-- What becomes of the line breaks at the end of a block. -/
inductive Chomping where
  /-- They are dropped. -/
  | strip
  /-- The first one is kept. -/
  | clip
  /-- All are kept. -/
  | keep
  deriving DecidableEq, Repr

/-- The head of a block scalar. -/
structure BlockHead where
  /-- What becomes of the line breaks at the end. -/
  chomping : Chomping
  /-- By how much the block is indented, if that is written. -/
  indent : Option Nat

/-- Read the mark for the line breaks at the end. -/
def readChomping? : List Char → Option (Chomping × List Char)
  | '+' :: rest => some (.keep, rest)
  | '-' :: rest => some (.strip, rest)
  | _ => none

/-- Read a digit that tells the indentation, if there is one; a zero tells none. -/
def readIndent? : List Char → Option (Option Nat × List Char)
  | c :: rest =>
    if c == '0' then none
    else if Text.isDigit c then some (Text.digitValue? c, rest)
    else some (none, c :: rest)
  | [] => some (none, [])

/-- Read the two marks of a block scalar, which may come in either order. -/
def readMarks? (cs : List Char) : Option (BlockHead × List Char) :=
  match readChomping? cs with
  | some (chomping, rest) => (readIndent? rest).map fun (indent, rest) => (⟨chomping, indent⟩, rest)
  | none => do
    let (indent, rest) ← readIndent? cs
    match indent, readChomping? rest with
    | some _, some (chomping, rest) => some (⟨chomping, indent⟩, rest)
    | _, _ => some (⟨.clip, indent⟩, rest)

/-- Drop the blanks and the comment at the end of a line. -/
def dropComment (cs : List Char) : List Char :=
  match cs.dropWhile isBlank with
  | '#' :: rest => rest.dropWhile fun c => !isBreak c
  | rest => rest

/-- Read the line with the head of a block scalar. -/
def readHead? (cs : List Char) : Option (BlockHead × List Char) := do
  let (head, rest) ← readMarks? cs
  let rest := dropComment rest
  if atLineEnd rest then some (head, dropBreak rest) else none

/-- The empty lines before a line of a block. -/
structure EmptyLines where
  /-- Their line breaks. -/
  breaks : List Char
  /-- How many characters stand before the text on its line. -/
  column : Nat
  /-- The greatest number of spaces that any of the lines begins with. -/
  deepest : Nat
  /-- The text. -/
  rest : List Char

/-- Skip empty lines and the indentation of the line after them, in at most `n` steps. -/
def skipEmptyLines (indent : Option Nat) : (n : Nat) → EmptyLines → EmptyLines
  | 0, e => e
  | n + 1, e =>
    match e.rest with
    | ' ' :: rest =>
      if indent.all (e.column < ·) then
        skipEmptyLines indent n ⟨e.breaks, e.column + 1, Nat.max e.deepest (e.column + 1), rest⟩
      else e
    | cs =>
      match takeBreak? cs with
      | some (b, rest) => skipEmptyLines indent n ⟨e.breaks ++ [b], 0, e.deepest, rest⟩
      | none => e

/-- The empty lines at the start of a text. -/
def emptyLines (indent : Option Nat) (cs : List Char) : EmptyLines :=
  skipEmptyLines indent cs.length ⟨[], 0, 0, cs⟩

/-- The line break after a line, if there is one. -/
def breakAfter (cs : List Char) : List Char :=
  match takeBreak? cs with
  | some (b, _) => [b]
  | none => []

/-- Read at most `n` lines of a block after the text read so far, given the break that ended the
last line and whether that line began with a blank. Folding joins lines that begin with no blank. -/
def readLines (folded : Bool) (indent : Nat) (chomping : Chomping) :
    (n : Nat) → (text lastBreak : List Char) → (afterBlank : Bool) → EmptyLines →
      List Char × List Char
  | 0, text, _, _, e => (text, e.rest)
  | n + 1, text, lastBreak, afterBlank, e =>
    if e.column == indent && !e.rest.isEmpty then
      let blank := e.rest.head?.any isBlank
      -- one break between two lines becomes a space, and of several all but the first stay
      let joined :=
        if folded && lastBreak == ['\n'] && !afterBlank && !blank then
          if e.breaks.isEmpty then [' '] else e.breaks
        else lastBreak ++ e.breaks
      let line := e.rest.takeWhile fun c => !isBreak c
      let rest := e.rest.dropWhile fun c => !isBreak c
      readLines folded indent chomping n (text ++ joined ++ line) (breakAfter rest) blank
        (emptyLines (some indent) (dropBreak rest))
    else
      let tail := match chomping with
        | .strip => []
        | .clip => lastBreak
        | .keep => lastBreak ++ e.breaks
      (text ++ tail, e.rest)

/-- Read a block scalar whose parent is indented by `parent`, which is negative for none. If the
head tells no indentation, it is that of the first line that is not empty. -/
def readBlock? (folded : Bool) (parent : Int) (cs : List Char) :
    Option (List Char × List Char) := do
  let (head, rest) ← readHead? cs
  let told := head.indent.map fun n => if 0 ≤ parent then parent.toNat + n else n
  let lines := emptyLines told rest
  let indent := told.getD (Nat.max lines.deepest (Nat.max (parent + 1).toNat 1))
  some (readLines folded indent head.chomping (rest.length + 1) [] [] false lines)

end LongPoll.Yaml
