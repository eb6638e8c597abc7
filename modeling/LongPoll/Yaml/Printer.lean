import LongPoll.Json
import LongPoll.Yaml.Line
import LongPoll.Yaml.Meaning
/-!
# Writing YAML

A JSON value as a YAML text in block style: a mapping has one entry a line, the items of a list
stand under its key without further indentation, and a scalar is written in the plainest form that
reads back as the same text.
-/

namespace LongPoll.Yaml

/-! ## Forms of scalars -/

/-- Whether the character can stand in a scalar without an escape. -/
def isPrintable (c : Char) : Bool :=
  let n := c.toNat
  n == 0xA || (0x20 ≤ n && n ≤ 0x7E) || (0xA0 ≤ n && n ≤ 0xD7FF) ||
    (0xE000 ≤ n && n ≤ 0xFFFD && n ≠ 0xFEFF)

/-- Whether the character at the start of a scalar would be read as a mark, given what follows. -/
def marksStart (c : Char) (rest : List Char) : Bool :=
  "#,[]\x7b\x7d&*!|>'\"%@`".toList.contains c ||
    ((c == '?' || c == ':' || c == '-') && atGap rest)

/-- Whether a character inside a scalar would be read as a mark, given what stands around it. -/
def marksInside (before c : Char) (rest : List Char) : Bool :=
  (c == ':' && atGap rest) || (c == '#' && (isBlank before || isBreak before))

/-- Whether some character after the first would be read as a mark. -/
def hasMarkAfter : (before : Char) → List Char → Bool
  | _, [] => false
  | before, c :: rest => marksInside before c rest || hasMarkAfter c rest

/-- Whether the characters hold a mark that ends or changes a plain scalar. -/
def hasMark (cs : List Char) : Bool :=
  match cs with
  | [] => false
  | c :: rest =>
    marksStart c rest || hasMarkAfter c rest ||
      "---".toList.isPrefixOf cs || "...".toList.isPrefixOf cs

/-- Whether two neighbouring characters satisfy `p`. -/
def hasPair (p : Char → Char → Bool) : List Char → Bool
  | a :: b :: rest => p a b || hasPair p (b :: rest)
  | _ => false

/-- The forms that a scalar can be written in. -/
structure Forms where
  /-- Without quotes. -/
  plain : Bool
  /-- In single quotes. -/
  single : Bool
  /-- As a block. -/
  block : Bool

/-- The forms that a text can be written in. A text that cannot be written in any of them stands in
double quotes. -/
def formsOf (cs : List Char) : Forms :=
  let special := cs.any fun c => !isPrintable c
  let spaceBreak := hasPair (fun a b => a == ' ' && isBreak b) cs
  let breakSpace := hasPair (fun a b => isBreak a && b == ' ') cs
  let edge (c : Option Char) : Bool := c.any fun c => c == ' ' || isBreak c
  let single := !special && !spaceBreak && !breakSpace
  { plain := single && !cs.any isBreak && !edge cs.head? && !edge cs.getLast? && !hasMark cs
    single := single
    block := !special && !spaceBreak && cs.getLast? != some ' ' && !cs.isEmpty }

/-! ## Writing scalars -/

/-- So many spaces. -/
def spaces (n : Nat) : List Char := List.replicate n ' '

/-- The characters with the beginning of each line after a break indented, except empty lines. -/
def indentLines (indent : Nat) (escape : Char → List Char) :
    (newLine : Bool) → List Char → List Char
  | _, [] => []
  | newLine, c :: rest =>
    if isBreak c then c :: indentLines indent escape true rest
    else
      let before := if newLine then spaces indent else []
      before ++ escape c ++ indentLines indent escape false rest

/-- A text in single quotes. A quote in it is written twice. -/
def singleQuoted (indent : Nat) (cs : List Char) : List Char :=
  let body := indentLines indent (fun c => if c == '\'' then ['\'', '\''] else [c]) false cs
  let last := if cs.getLast?.any isBreak then spaces indent else []
  '\'' :: body ++ last ++ ['\'']

/-- A number in upper-case hexadecimal with so many digits. -/
def hexadecimal (width n : Nat) : List Char :=
  let digits := (Nat.toDigits 16 n).map Char.toUpper
  List.replicate (width - digits.length) '0' ++ digits

/-- What stands for a character after a backslash. -/
def escapeCode (c : Char) : List Char :=
  match c with
  | '\x00' => ['0']
  | '\x07' => ['a']
  | '\x08' => ['b']
  | '\t' => ['t']
  | '\n' => ['n']
  | '\x0B' => ['v']
  | '\x0C' => ['f']
  | '\r' => ['r']
  | '\x1B' => ['e']
  | '"' | '\\' => [c]
  | '\u0085' => ['N']
  | '\u2028' => ['L']
  | '\u2029' => ['P']
  | _ =>
    let n := c.toNat
    if n ≤ 0xFF then 'x' :: hexadecimal 2 n
    else if n ≤ 0xFFFF then 'u' :: hexadecimal 4 n
    else 'U' :: hexadecimal 8 n

/-- A text in double quotes. -/
def doubleQuoted (cs : List Char) : List Char :=
  let body := cs.flatMap fun c =>
    if !isPrintable c || isBreak c || c == '"' || c == '\\' then '\\' :: escapeCode c else [c]
  '"' :: body ++ ['"']

/-- The head of a block: the mark, the indentation if the text begins with a space or a break, and
what is to become of the line breaks at its end. -/
def blockHead (cs : List Char) : List Char :=
  let indent := if cs.head?.any fun c => c == ' ' || isBreak c then ['2'] else []
  let chomping := match cs.reverse with
    | [] => ['-']
    | [c] => if isBreak c then ['+'] else ['-']
    | c :: d :: _ => if !isBreak c then ['-'] else if isBreak d then ['+'] else []
  '|' :: indent ++ chomping

/-- A text as a block of lines up to the end of its last line. -/
def blockLines (indent : Nat) (cs : List Char) : List Char :=
  let last := if cs.getLast?.any isBreak then [] else ['\n']
  blockHead cs ++ '\n' :: indentLines indent (fun c => [c]) true cs ++ last

/-- A text as a scalar up to the end of its line, where lines after the first are indented. -/
def textLine (indent : Nat) (s : String) : List Char :=
  let cs := s.toList
  let forms := formsOf cs
  if cs.contains '\n' then
    if forms.block then blockLines indent cs else doubleQuoted cs ++ ['\n']
  else if forms.plain && !isTyped s then cs ++ ['\n']
  else if forms.single then singleQuoted indent cs ++ ['\n']
  else doubleQuoted cs ++ ['\n']

/-! ## Writing values -/

/-- Whether a key can stand on one line with its value: it is short and has no line breaks. -/
def isSimpleKey (s : String) : Bool := s.utf8ByteSize ≤ 128 && !s.toList.any isBreak

/-- A whole number. -/
def integerText (n : Int) : List Char :=
  match n with
  | .ofNat n => Text.decimal n
  | .negSucc n => '-' :: Text.decimal (n + 1)

/-- The value as a scalar up to the end of its line, if it is one. -/
def scalarLine? (indent : Nat) : Json → Option (List Char)
  | .null => some "null\n".toList
  | .bool b => some (if b then "true\n".toList else "false\n".toList)
  | .int n => some (integerText n ++ ['\n'])
  | .text s => some (textLine indent s)
  | .array [] => some "[]\n".toList
  | .object [] => some "\x7b\x7d\n".toList
  | _ => none

mutual

/-- The lines of a value that is no scalar, the first one without its indentation. -/
def valueLines (indent : Nat) : Json → List Char
  | .array items => itemLines indent items
  | .object members => memberLines indent members
  | _ => []

/-- The lines of the items of a list, the first one without its indentation. -/
def itemLines (indent : Nat) : List Json → List Char
  | [] => []
  | j :: rest =>
    let item := match scalarLine? (indent + 2) j with
      | some line => line
      | none => valueLines (indent + 2) j
    let others := if rest.isEmpty then [] else spaces indent ++ itemLines indent rest
    '-' :: ' ' :: item ++ others

/-- The lines of the members of an object, the first one without its indentation. -/
def memberLines (indent : Nat) : List (String × Json) → List Char
  | [] => []
  | (name, j) :: rest =>
    let member :=
      if isSimpleKey name then
        let key := (textLine (indent + 2) name).dropLast ++ [':']
        match scalarLine? (indent + 2) j with
        | some line => key ++ ' ' :: line
        | none =>
          let inner := match j with
            -- an array is not indented under its name
            | .array _ => indent
            | _ => indent + 2
          key ++ '\n' :: spaces inner ++ valueLines inner j
      else
        -- a name that takes several lines stands behind a question mark, and its value behind a
        -- colon
        let value := match scalarLine? (indent + 2) j with
          | some line => line
          | none => valueLines (indent + 2) j
        '?' :: ' ' :: textLine (indent + 2) name ++ spaces indent ++ ':' :: ' ' :: value
    let others := if rest.isEmpty then [] else spaces indent ++ memberLines indent rest
    member ++ others

end

/-- A value as a YAML text. -/
def render (j : Json) : String :=
  String.ofList <| match scalarLine? 2 j with
    | some line => line
    | none => valueLines 0 j

end LongPoll.Yaml
