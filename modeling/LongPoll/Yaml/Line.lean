import LongPoll.Text.Digits
/-!
# Lines and gaps

How YAML text falls into lines, and what the space between two words of a scalar stands for: blanks
on one line are kept, a single line break is folded into a space, and of several breaks all but the
first are kept.
-/

namespace LongPoll.Yaml

/-- Whether the character ends a line. -/
def isBreak (c : Char) : Bool :=
  c == '\n' || c == '\r' || c == '\u0085' || c == '\u2028' || c == '\u2029'

/-- Whether the character is a space or a tab. -/
def isBlank (c : Char) : Bool := c == ' ' || c == '\t'

/-- Whether the text is at a blank, at the end of a line, or at its own end. -/
def atGap : List Char → Bool
  | [] => true
  | c :: _ => isBlank c || isBreak c

/-- Whether the text is at the end of a line or at its own end. -/
def atLineEnd : List Char → Bool
  | [] => true
  | c :: _ => isBreak c

/-- Whether the character can be part of the name of an anchor. -/
def isNameChar (c : Char) : Bool := Text.isLetterOrDigit c || c == '_' || c == '-'

/-- Whether the character may occur in a text at all. -/
def isAllowed (c : Char) : Bool :=
  let n := c.toNat
  n == 0x9 || n == 0xA || n == 0xD || (0x20 ≤ n && n ≤ 0x7E) || n == 0x85 ||
    (0xA0 ≤ n && n ≤ 0xD7FF) || (0xE000 ≤ n && n ≤ 0xFFFD) || 0x10000 ≤ n

/-- Take a line break off a text. Most breaks count as a line feed; the separators of lines and
paragraphs stand for themselves. -/
def takeBreak? : List Char → Option (Char × List Char)
  | '\r' :: '\n' :: rest => some ('\n', rest)
  | c :: rest =>
    if c == '\u2028' || c == '\u2029' then some (c, rest)
    else if isBreak c then some ('\n', rest)
    else none
  | [] => none

/-- The text without the line break before it. -/
def dropBreak (cs : List Char) : List Char :=
  match takeBreak? cs with
  | some (_, rest) => rest
  | none => cs

/-- Whether the text begins with three characters that separate documents and nothing else follows
on them directly. -/
def isDocumentMark : List Char → Bool
  | '-' :: '-' :: '-' :: rest => atGap rest
  | '.' :: '.' :: '.' :: rest => atGap rest
  | _ => false

/-- The line breaks between two words as they are read. -/
def foldBreaks : List Char → List Char
  | ['\n'] => [' ']
  | '\n' :: rest => rest
  | breaks => breaks

/-- The space between two words of a scalar. -/
structure Gap where
  /-- The blanks before the first line break. -/
  blanks : List Char
  /-- The line breaks. -/
  breaks : List Char
  /-- How many characters stand before the second word on its line, if there are line breaks. -/
  column : Nat
  /-- The text from the second word on. -/
  rest : List Char

namespace Gap

/-- The gap before any word. -/
def start (rest : List Char) : Gap := ⟨[], [], 0, rest⟩

/-- Whether the second word stands on another line. -/
def isBroken (g : Gap) : Bool := !g.breaks.isEmpty

/-- What the gap stands for. -/
def text (g : Gap) : List Char := if g.isBroken then foldBreaks g.breaks else g.blanks

/-- Extend a gap over the blanks and line breaks of at most `n` steps. -/
def extend : (n : Nat) → Gap → Gap
  | 0, g => g
  | n + 1, g =>
    match takeBreak? g.rest, g.rest with
    | some (b, rest), _ => extend n ⟨g.blanks, g.breaks ++ [b], 0, rest⟩
    | none, c :: rest =>
      if isBlank c then
        let blanks := if g.isBroken then g.blanks else g.blanks ++ [c]
        extend n ⟨blanks, g.breaks, g.column + 1, rest⟩
      else g
    | none, [] => g

/-- The gap at the start of a text. -/
def read (cs : List Char) : Gap := extend cs.length (start cs)

end Gap

end LongPoll.Yaml
