import LongPoll.Settings.Document
import LongPoll.Yaml.Scalar
/-!
# Tokens

The marks and scalars of a YAML text. The structure that indentation gives is made explicit:
wherever a block begins or ends stands a token that says so, and every key of a mapping has a token
before it, although a simple key is only known to be one when the colon after it is read.
-/

namespace LongPoll.Yaml

/-- A mark or scalar of a YAML text. -/
inductive Token where
  /-- The version that a document is written for. -/
  | versionDirective (major minor : Nat)
  /-- A shorthand for the start of tags. -/
  | tagDirective (handle expansion : String)
  /-- The start of a document. -/
  | documentStart
  /-- The end of a document. -/
  | documentEnd
  /-- The start of a block sequence. -/
  | blockSequence
  /-- The start of a block mapping. -/
  | blockMapping
  /-- The end of a block. -/
  | blockEnd
  /-- The start of a flow sequence. -/
  | flowSequence
  /-- The end of a flow sequence. -/
  | flowSequenceEnd
  /-- The start of a flow mapping. -/
  | flowMapping
  /-- The end of a flow mapping. -/
  | flowMappingEnd
  /-- An item of a block sequence follows. -/
  | blockEntry
  /-- The next entry of a flow collection follows. -/
  | flowEntry
  /-- A key follows. -/
  | key
  /-- A value follows. -/
  | value
  /-- A reference to the node of that name. -/
  | alias (name : String)
  /-- The name of the node that follows. -/
  | anchor (name : String)
  /-- The tag of the node that follows. -/
  | tag (handle suffix : String)
  /-- A scalar. -/
  | scalar (style : ScalarStyle) (text : String)
  deriving DecidableEq, Repr

/-! ## Places -/

/-- A place in a text. -/
structure Place where
  /-- The number of lines before it. -/
  line : Nat
  /-- The number of characters before it on its line. -/
  column : Nat
  /-- The number of characters before it. -/
  index : Nat
  deriving DecidableEq, Repr

namespace Place

/-- The place after some text. -/
def after : List Char → Place → Place
  | [], p => p
  | '\r' :: '\n' :: rest, p => after rest ⟨p.line + 1, 0, p.index + 2⟩
  | c :: rest, p =>
    if isBreak c then after rest ⟨p.line + 1, 0, p.index + 1⟩
    else after rest ⟨p.line, p.column + 1, p.index + 1⟩

end Place

/-! ## Directives, anchors and tags -/

/-- Read a name. -/
def readName (cs : List Char) : List Char × List Char :=
  (cs.takeWhile isNameChar, cs.dropWhile isNameChar)

/-- Read the name of an anchor, which has to be followed by a gap or a mark. -/
def readAnchor? (cs : List Char) : Option (String × List Char) :=
  let (name, rest) := readName cs
  let ends := atGap rest || rest.head?.any fun c => "?:,]\x7d%@`".toList.contains c
  if name.isEmpty || !ends then none else some (String.ofList name, rest)

/-- Whether the character can be part of a tag; commas and square brackets can only if the tag is
written in full. -/
def isTagChar (full : Bool) (c : Char) : Bool :=
  isNameChar c || ";/?:@&=+$.%!~*'()".toList.contains c ||
    (full && (c == ',' || c == '[' || c == ']'))

/-- The octet that two hexadecimal digits after a percent sign stand for. -/
def percentOctet? : List Char → Option (UInt8 × List Char)
  | '%' :: a :: b :: rest => (Text.readNat? 16 [a, b]).map fun n => (UInt8.ofNat n, rest)
  | _ => none

/-- Read the octets of a character that is written with percent signs, given how many are left. -/
def percentOctets? : (n : Nat) → List Char → Option (List UInt8 × List Char)
  | 0, cs => some ([], cs)
  | n + 1, cs => do
    let (b, rest) ← percentOctet? cs
    let (bs, rest) ← percentOctets? n rest
    some (b :: bs, rest)

/-- The number of octets of a character that begins with the given one. -/
def octetCount (b : UInt8) : Nat :=
  if b < 0x80 then 1 else if b < 0xE0 then 2 else if b < 0xF0 then 3 else 4

/-- Read a character that is written with percent signs. -/
def readPercent? (cs : List Char) : Option (List Char × List Char) := do
  let (b, _) ← percentOctet? cs
  let (bs, rest) ← percentOctets? (octetCount b) cs
  let s ← String.fromUTF8? ⟨bs.toArray⟩
  some (s.toList, rest)

/-- Read the characters of a tag, in at most `n` steps. -/
def readTagChars? (full : Bool) : (n : Nat) → List Char → Option (List Char × List Char)
  | 0, cs => some ([], cs)
  | n + 1, cs =>
    match cs with
    | [] => some ([], [])
    | c :: rest =>
      if !isTagChar full c then some ([], cs)
      else do
        let (text, rest) ← if c == '%' then readPercent? cs else some ([c], rest)
        let (more, rest) ← readTagChars? full n rest
        some (text ++ more, rest)

/-- Read a tag or the part of it that stands after its handle. -/
def readTagText? (full : Bool) (cs : List Char) : Option (List Char × List Char) :=
  readTagChars? full cs.length cs

/-- Read the handle of a tag: an exclamation mark, perhaps with a name and another such mark. -/
def readHandle? : List Char → Option (List Char × List Char)
  | '!' :: rest =>
    let (name, rest) := readName rest
    match rest with
    | '!' :: rest => some ('!' :: name ++ ['!'], rest)
    | _ => some ('!' :: name, rest)
  | _ => none

/-- Read a tag, which begins with an exclamation mark and is followed by a gap. -/
def readTag? (inFlow : Bool) (cs : List Char) : Option (Token × List Char) := do
  let (token, rest) ← match cs with
    | '!' :: '<' :: rest => do
      let (text, rest) ← readTagText? true rest
      match text, rest with
      | _ :: _, '>' :: rest => some (Token.tag "" (String.ofList text), rest)
      | _, _ => none
    | _ => do
      let (handle, rest) ← readHandle? cs
      let (text, rest) ← readTagText? false rest
      if handle.length > 1 && handle.getLast? == some '!' then
        if text.isEmpty then none
        else some (Token.tag (String.ofList handle) (String.ofList text), rest)
      else
        -- what looked like a handle was the beginning of the tag
        let suffix := handle.drop 1 ++ text
        if suffix.isEmpty then some (Token.tag "" "!", rest)
        else some (Token.tag "!" (String.ofList suffix), rest)
  if atGap rest || (inFlow && rest.head? == some ',') then some (token, rest) else none

/-- Read a number of at most nine digits. -/
def readVersionPart? (cs : List Char) : Option (Nat × List Char) := do
  let digits := cs.takeWhile Text.isDigit
  let n ← if digits.length ≤ 9 then Text.readNat? 10 digits else none
  some (n, cs.dropWhile Text.isDigit)

/-- Read what stands after the name of a directive. -/
def readDirectiveValue? (name : List Char) (cs : List Char) : Option (Token × List Char) :=
  if name = "YAML".toList then do
    let (major, rest) ← readVersionPart? (cs.dropWhile isBlank)
    match rest with
    | '.' :: rest =>
      let (minor, rest) ← readVersionPart? rest
      some (.versionDirective major minor, rest)
    | _ => none
  else if name = "TAG".toList then do
    let (handle, rest) ← readHandle? (cs.dropWhile isBlank)
    let whole := handle = ['!'] || (handle.length > 1 && handle.getLast? == some '!')
    if !whole || !rest.head?.any isBlank then none
    else do
      let (expansion, rest) ← readTagText? true (rest.dropWhile isBlank)
      if expansion.isEmpty || !atGap rest then none
      else some (.tagDirective (String.ofList handle) (String.ofList expansion), rest)
  else none

/-- Read a directive up to the end of its line. -/
def readDirective? (cs : List Char) : Option (Token × List Char) := do
  let (name, rest) := readName cs
  if name.isEmpty || !atGap rest then none
  else
    let (token, rest) ← readDirectiveValue? name rest
    let rest := dropComment rest
    if atLineEnd rest then some (token, dropBreak rest) else none

/-! ## Layout -/

/-- A token that may turn out to be a key. -/
structure KeyCandidate where
  /-- Nothing but a key can stand there. -/
  required : Bool
  /-- The number of tokens before it. -/
  tokens : Nat
  /-- Where it begins. -/
  place : Place

/-- The state of reading tokens. -/
structure Layout where
  /-- The tokens, the last one first. -/
  tokens : List Token
  /-- How many tokens there are. -/
  count : Nat
  /-- The text that follows. -/
  rest : List Char
  /-- Where that text begins. -/
  place : Place
  /-- By how much the innermost block is indented, negative outside of all blocks. -/
  indent : Int
  /-- By how much the blocks around it are indented, the innermost first. -/
  outer : List Int
  /-- What may turn out to be a key, in the innermost flow collection and in those around it. -/
  candidates : List (Option KeyCandidate)
  /-- Whether a key can begin here. -/
  keyAllowed : Bool

namespace Layout

/-- The layout before any token. -/
def start (cs : List Char) : Layout := ⟨[], 0, cs, ⟨0, 0, 0⟩, -1, [], [none], true⟩

/-- Whether the text that follows stands in a flow collection. -/
def inFlow (l : Layout) : Bool := l.candidates.length != 1

/-- Go on where the given text is left. -/
def moveTo (l : Layout) (rest : List Char) : Layout :=
  let passed := l.rest.take (l.rest.length - rest.length)
  { l with rest := rest, place := Place.after passed l.place }

/-- Add a token. -/
def add (l : Layout) (t : Token) : Layout :=
  { l with tokens := t :: l.tokens, count := l.count + 1 }

/-- Add a token behind the first `n`. -/
def addAt (l : Layout) (n : Nat) (t : Token) : Layout :=
  { l with tokens := l.tokens.insertIdx (l.count - n) t, count := l.count + 1 }

/-- The mark of the order of octets, which is of no account at the beginning of a line. -/
def orderMark : Char := '\uFEFF'

/-- Skip the mark of the order of octets at the beginning of a line. It counts as a character of the
line. -/
def skipOrderMark (l : Layout) : Layout :=
  if l.place.column == 0 && l.rest.head? == some orderMark then l.moveTo l.rest.tail else l

/-- Skip blanks, comments and line breaks, in at most `n` steps. Outside of flow collections a key
can begin on a new line. -/
def skipGap : (n : Nat) → Layout → Layout
  | 0, l => l
  | n + 1, l =>
    let l := l.skipOrderMark
    let blank (c : Char) : Bool := c == ' ' || (c == '\t' && (l.inFlow || !l.keyAllowed))
    let rest := l.rest.dropWhile blank
    let rest := if rest.head? == some '#' then rest.dropWhile fun c => !isBreak c else rest
    match takeBreak? rest with
    | some (_, rest) =>
      let l := l.moveTo rest
      skipGap n { l with keyAllowed := l.keyAllowed || !l.inFlow }
    | none => l.moveTo rest

/-- Give up the candidates for keys that have become too long, or that the line has ended on. -/
def dropStale? (l : Layout) : Option Layout := do
  let isStale (k : KeyCandidate) : Bool :=
    k.place.line < l.place.line || k.place.index + 1024 < l.place.index
  if l.candidates.any fun k => k.any fun k => isStale k && k.required then none
  else some { l with candidates := l.candidates.map fun k => k.filter fun k => !isStale k }

/-- End the blocks that are indented by more than `column`. -/
def endBlocks (l : Layout) (column : Int) : Layout :=
  if l.inFlow then l
  else
    let ended := (l.indent :: l.outer).takeWhile (column < ·)
    let left := (l.indent :: l.outer).dropWhile (column < ·)
    { l with
      tokens := List.replicate ended.length .blockEnd ++ l.tokens
      count := l.count + ended.length
      indent := left.headD (-1)
      outer := left.tail }

/-- Begin a block at a column if it is indented by more than the innermost one. The token for it
goes behind the first `n`. -/
def beginBlock (l : Layout) (column n : Nat) (t : Token) : Layout :=
  if l.inFlow || (column : Int) ≤ l.indent then l
  else { l.addAt n t with indent := column, outer := l.indent :: l.outer }

/-- Give up the candidate in the innermost collection, unless it has to be a key. -/
def dropCandidate? (l : Layout) : Option Layout :=
  match l.candidates with
  | some k :: others => if k.required then none else some { l with candidates := none :: others }
  | _ => some l

/-- Take note that the next token may turn out to be a key. -/
def noteCandidate? (l : Layout) : Option Layout :=
  if l.keyAllowed then do
    let l ← l.dropCandidate?
    let required := !l.inFlow && l.indent == (l.place.column : Int)
    some { l with candidates := some ⟨required, l.count, l.place⟩ :: l.candidates.tail }
  else some l

/-- Add a token and go on behind it. -/
def pass (l : Layout) (t : Token) (rest : List Char) (keyAllowed : Bool) : Layout :=
  { (l.add t).moveTo rest with keyAllowed := keyAllowed }

/-- Read a directive. -/
def directive? (l : Layout) (rest : List Char) : Option Layout := do
  let l ← (l.endBlocks (-1)).dropCandidate?
  let (t, rest) ← readDirective? rest
  some (l.pass t rest false)

/-- Read a mark between documents. -/
def documentMark? (l : Layout) (t : Token) : Option Layout := do
  let l ← (l.endBlocks (-1)).dropCandidate?
  some (l.pass t (l.rest.drop 3) false)

/-- Begin a flow collection. -/
def flowStart? (l : Layout) (t : Token) (rest : List Char) : Option Layout := do
  let l ← l.noteCandidate?
  let l := l.pass t rest true
  some { l with candidates := none :: l.candidates }

/-- End a flow collection. -/
def flowEnd? (l : Layout) (t : Token) (rest : List Char) : Option Layout := do
  let l ← l.dropCandidate?
  let l := l.pass t rest false
  some (if l.inFlow then { l with candidates := l.candidates.tail } else l)

/-- Go on to the next entry of a flow collection. -/
def flowEntry? (l : Layout) (rest : List Char) : Option Layout := do
  let l ← l.dropCandidate?
  some (l.pass .flowEntry rest true)

/-- Read the mark of an item of a block sequence. -/
def blockEntry? (l : Layout) (rest : List Char) : Option Layout := do
  let l := l.beginBlock l.place.column l.count .blockSequence
  let l ← if l.inFlow || l.keyAllowed then l.dropCandidate? else none
  some (l.pass .blockEntry rest true)

/-- Read the mark of a key. -/
def key? (l : Layout) (rest : List Char) : Option Layout := do
  let l := l.beginBlock l.place.column l.count .blockMapping
  let l ← if l.inFlow || l.keyAllowed then l.dropCandidate? else none
  some (l.pass .key rest !l.inFlow)

/-- Read the mark of a value. The candidate before it, if there is one, has turned out to be a
key. -/
def value? (l : Layout) (rest : List Char) : Option Layout :=
  match l.candidates with
  | some k :: others =>
    let l := { l with candidates := none :: others }
    let l := (l.addAt k.tokens .key).beginBlock k.place.column k.tokens .blockMapping
    some (l.pass .value rest false)
  | _ =>
    if l.inFlow || l.keyAllowed then
      let l := l.beginBlock l.place.column l.count .blockMapping
      some (l.pass .value rest !l.inFlow)
    else none

/-- Read a token that may turn out to be a key. -/
def node? (l : Layout) (read : Option (Token × List Char)) : Option Layout := do
  let l ← l.noteCandidate?
  let (t, rest) ← read
  some (l.pass t rest false)

/-- Read a block scalar. -/
def block? (l : Layout) (folded : Bool) (rest : List Char) : Option Layout := do
  let l ← l.dropCandidate?
  let (text, rest) ← readBlock? folded l.indent rest
  let style := if folded then ScalarStyle.quoted else .literal
  some (l.pass (.scalar style (String.ofList text)) rest true)

/-- Read a plain scalar. -/
def plain? (l : Layout) : Option Layout := do
  let l ← l.noteCandidate?
  let s ← readPlain? l.inFlow (l.indent + 1).toNat l.rest
  some (l.pass (.scalar .plain (String.ofList s.text)) s.rest s.endsLine)

/-- A quoted scalar as a token. -/
def quoted (read : Option (List Char × List Char)) : Option (Token × List Char) :=
  read.map fun (text, rest) => (.scalar .quoted (String.ofList text), rest)

/-- Whether a plain scalar can begin with the character, given whether a gap follows on it. -/
def beginsPlain (inFlow : Bool) (c : Char) (rest : List Char) : Bool :=
  if c == '-' then !rest.head?.any isBlank
  else if c == '?' || c == ':' then !inFlow && !atGap rest
  else !",[]\x7b\x7d#&*!|>'\"%@`".toList.contains c

/-- Read the next token, which begins with the character `c`. -/
def next? (l : Layout) (c : Char) (rest : List Char) : Option Layout :=
  if l.place.column == 0 && c == '%' then l.directive? rest
  else if l.place.column == 0 && c == '-' && isDocumentMark l.rest then
    l.documentMark? .documentStart
  else if l.place.column == 0 && c == '.' && isDocumentMark l.rest then
    l.documentMark? .documentEnd
  else if c == '[' then l.flowStart? .flowSequence rest
  else if c == '\x7b' then l.flowStart? .flowMapping rest
  else if c == ']' then l.flowEnd? .flowSequenceEnd rest
  else if c == '\x7d' then l.flowEnd? .flowMappingEnd rest
  else if c == ',' then l.flowEntry? rest
  else if c == '-' && atGap rest then l.blockEntry? rest
  else if c == '?' && (l.inFlow || atGap rest) then l.key? rest
  else if c == ':' && (l.inFlow || atGap rest) then l.value? rest
  else if c == '*' then l.node? ((readAnchor? rest).map fun (name, rest) => (.alias name, rest))
  else if c == '&' then l.node? ((readAnchor? rest).map fun (name, rest) => (.anchor name, rest))
  else if c == '!' then l.node? (readTag? l.inFlow l.rest)
  else if c == '|' && !l.inFlow then l.block? false rest
  else if c == '>' && !l.inFlow then l.block? true rest
  else if c == '\'' then l.node? (quoted (readSingle? (rest.length + 1) rest))
  else if c == '"' then l.node? (quoted (readDouble? (rest.length + 1) rest))
  else if beginsPlain l.inFlow c rest then l.plain?
  else none

/-- End all blocks at the end of the text. -/
def finish? (l : Layout) : Option (List Token) := do
  let l ← (l.endBlocks (-1)).dropCandidate?
  some l.tokens.reverse

/-- Read at most `n` tokens. -/
def run? : (n : Nat) → Layout → Option (List Token)
  | 0, _ => none
  | n + 1, l => do
    let l ← (l.skipGap (l.rest.length + 1)).dropStale?
    let l := l.endBlocks l.place.column
    match l.rest with
    | [] => l.finish?
    | c :: rest => (l.next? c rest).bind (run? n)

end Layout

/-- The tokens of a text, if it consists of them. -/
def Token.ofText? (s : String) : Option (List Token) :=
  let cs := s.toList
  if cs.all isAllowed then (Layout.start cs).run? (cs.length + 1) else none

end LongPoll.Yaml
