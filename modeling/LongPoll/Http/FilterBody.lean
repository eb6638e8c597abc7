import LongPoll.Decimal
import LongPoll.Text.Digits
import LongPoll.Text.Utf8
/-!
# Filter bodies

The body of a request that replaces the log filter: a JSON object with the written filter as the
member `filter`, or a JSON array of the written filter alone. The body is read from left to right
and the first fault in it decides. What stands after the value does not matter, and neither do
other members of the object, as long as they are JSON.
-/

namespace LongPoll.Http

/-- What is wrong with a body. -/
inductive BodyFault where
  /-- It is not JSON. -/
  | malformed
  /-- It is JSON, but not of the shape that is asked for. -/
  | misshapen
  deriving DecidableEq, Repr

namespace FilterBody

/-- Octets that are still to be read. -/
abbrev Octets := List UInt8

/-- The octet of an ASCII character. -/
def octet (c : Char) : UInt8 := UInt8.ofNat c.toNat

/-- Whether the octet is white space between the parts of a value. -/
def isSpace (b : UInt8) : Bool :=
  b == octet ' ' || b == octet '\n' || b == octet '\r' || b == octet '\t'

/-- The octets from the next part of a value on. -/
def skipSpace (octets : Octets) : Octets := octets.dropWhile isSpace

/-- The octets after the given ones. -/
def after? (expected : String) (octets : Octets) : Option Octets :=
  let word := expected.toList.map octet
  if word.isPrefixOf octets then some (octets.drop word.length) else none

/-! ## Strings -/

/-- A number of four hexadecimal digits, and the octets after it. -/
def hexNumber? : Octets → Option (Nat × Octets)
  | a :: b :: c :: d :: rest =>
    (Text.readNat? 16 ([a, b, c, d].map fun o => Char.ofNat o.toNat)).map (·, rest)
  | _ => none

/-- Whether the number is one of those that lead a pair of numbers for one character. -/
def leadsPair (n : Nat) : Bool := 0xD800 ≤ n && n < 0xDC00

/-- Whether the number is one of those that end a pair of numbers for one character. -/
def endsPair (n : Nat) : Bool := 0xDC00 ≤ n && n < 0xE000

/-- The character of a numbered escape, of which backslash and letter have been read, and the octets
after it. -/
def numbered? (octets : Octets) : Option (Char × Octets) := do
  let (n, rest) ← hexNumber? octets
  if leadsPair n then
    let rest ← after? "\\u" rest
    let (m, rest) ← hexNumber? rest
    if endsPair m then some (Char.ofNat (0x10000 + (n - 0xD800) * 0x400 + (m - 0xDC00)), rest)
    else none
  else if endsPair n then none
  else some (Char.ofNat n, rest)

/-- The character that the letter of an escape stands for. -/
def escaped? (letter : Char) : Option Char :=
  match letter with
  | '"' | '\\' | '/' => some letter
  | 'b' => some '\x08'
  | 'f' => some '\x0c'
  | 'n' => some '\n'
  | 'r' => some '\r'
  | 't' => some '\t'
  | _ => none

/-- The character of an escape, of which the backslash has been read, and the octets after it. -/
def escape? : Octets → Option (Char × Octets)
  | [] => none
  | b :: rest =>
    if b == octet 'u' then numbered? rest
    else (escaped? (Char.ofNat b.toNat)).map (·, rest)

/-- The octets of a string, of which the opening quote has been read, after those `before`, and the
octets after the string; at most `n` steps are taken. -/
def stringOctets? : (n : Nat) → (before : Array UInt8) → Octets → Option (Array UInt8 × Octets)
  | 0, _, _ => none
  | _ + 1, _, [] => none
  | n + 1, before, b :: rest =>
    if b == octet '"' then some (before, rest)
    else if b == octet '\\' then
      match escape? rest with
      | some (c, rest) => stringOctets? n (before ++ c.toString.toUTF8.data) rest
      | none => none
    else if b < octet ' ' then none
    else stringOctets? n (before.push b) rest

/-- A string, of which the opening quote has been read, and the octets after it. -/
def string? (octets : Octets) : Option (String × Octets) := do
  let (content, rest) ← stringOctets? octets.length #[] octets
  let s ← Text.strict? ⟨content⟩
  some (s, rest)

/-- The octets after a string that is not looked at, of which the opening quote has been read; at
most `n` steps are taken. -/
def skipString? : (n : Nat) → Octets → Option Octets
  | 0, _ => none
  | _ + 1, [] => none
  | n + 1, b :: rest =>
    if b == octet '"' then some rest
    else if b == octet '\\' then
      match rest with
      | [] => none
      | e :: rest =>
        if e == octet 'u' then
          -- a string that is skipped may hold one half of a surrogate pair
          match hexNumber? rest with
          | some (_, rest) => skipString? n rest
          | none => none
        else if (escaped? (Char.ofNat e.toNat)).isSome then skipString? n rest
        else none
    else if b < octet ' ' then none
    else skipString? n rest

/-! ## Numbers -/

/-- Whether the octet is a digit. -/
def isDigit (b : UInt8) : Bool := Text.isDigit (Char.ofNat b.toNat)

/-- A written number. -/
structure Numeral where
  /-- The digits before the point. -/
  whole : List Char
  /-- The digits after the point. -/
  fraction : List Char
  /-- The power of ten that they are multiplied with. -/
  exponent : Int

/-- A run of digits, and the octets after it. -/
def digits (octets : Octets) : List Char × Octets :=
  ((octets.takeWhile isDigit).map fun b => Char.ofNat b.toNat, octets.dropWhile isDigit)

/-- The fraction of a number, and the octets after it. -/
def fraction? (octets : Octets) : Option (List Char × Octets) :=
  match after? "." octets with
  | none => some ([], octets)
  | some octets =>
    let (ds, rest) := digits octets
    if ds.isEmpty then none else some (ds, rest)

/-- The exponent of a number, and the octets after it. -/
def exponent? (octets : Octets) : Option (Int × Octets) :=
  match (after? "e" octets).or (after? "E" octets) with
  | none => some (0, octets)
  | some octets =>
    let (negative, octets) := match after? "-" octets with
      | some rest => (true, rest)
      | none => (false, (after? "+" octets).getD octets)
    let (ds, rest) := digits octets
    (Text.readNat? 10 ds).map fun n => (if negative then -(n : Int) else n, rest)

/-- A number, and the octets after it. -/
def numeral? (octets : Octets) : Option (Numeral × Octets) := do
  let (whole, rest) := digits ((after? "-" octets).getD octets)
  if whole.isEmpty || (whole.head? == some '0' && whole.length != 1) then none
  else
    let (fraction, rest) ← fraction? rest
    let (exponent, rest) ← exponent? rest
    some (⟨whole, fraction, exponent⟩, rest)

/-- Whether a number is too large to be worked with. -/
def Numeral.isTooLarge (n : Numeral) : Bool :=
  !Decimal.isFinite (n.whole ++ n.fraction) (n.exponent - n.fraction.length)

/-! ## Values that are not looked at -/

/-- The octets after a word, if a value begins with one. -/
def word? (octets : Octets) : Option Octets :=
  ((after? "null" octets).or (after? "true" octets)).or (after? "false" octets)

/-- The octets after a value that is neither an array nor an object. -/
def skipScalar? (octets : Octets) : Option Octets :=
  match after? "\"" octets with
  | some rest => skipString? rest.length rest
  | none => (word? octets).or ((numeral? octets).map (·.2))

mutual

/-- The octets after a value; at most `n` steps are taken. -/
def skipValue? : (n : Nat) → Octets → Option Octets
  | 0, _ => none
  | n + 1, octets =>
    let octets := skipSpace octets
    match after? "[" octets, after? "\x7b" octets with
    | some rest, _ =>
      match after? "]" (skipSpace rest) with
      | some rest => some rest
      | none => skipItems? n rest
    | none, some rest =>
      match after? "\x7d" (skipSpace rest) with
      | some rest => some rest
      | none => skipMembers? n rest
    | none, none => skipScalar? octets

/-- The octets after the items of an array and its bracket; at most `n` steps are taken. -/
def skipItems? : (n : Nat) → Octets → Option Octets
  | 0, _ => none
  | n + 1, octets =>
    match skipValue? n octets with
    | none => none
    | some rest =>
      match after? "]" (skipSpace rest) with
      | some rest => some rest
      | none => (after? "," (skipSpace rest)).bind (skipItems? n)

/-- The octets after the members of an object and its brace; at most `n` steps are taken. -/
def skipMembers? : (n : Nat) → Octets → Option Octets
  | 0, _ => none
  | n + 1, octets =>
    let value := do
      let name ← after? "\"" (skipSpace octets)
      let rest ← skipString? name.length name
      after? ":" (skipSpace rest)
    match value.bind (skipValue? n) with
    | none => none
    | some rest =>
      match after? "\x7d" (skipSpace rest) with
      | some rest => some rest
      | none => (after? "," (skipSpace rest)).bind (skipMembers? n)

end

/-! ## The body -/

/-- The fault of a value of the wrong kind. An array or an object is not read any further; anything
else is read to its end. -/
def faultOf (octets : Octets) : BodyFault :=
  match octets with
  | [] => .malformed
  | b :: rest =>
    if b == octet '[' || b == octet '\x7b' then .misshapen
    else if b == octet '"' then if (string? rest).isSome then .misshapen else .malformed
    else if (word? octets).isSome then .misshapen
    else
      match numeral? octets with
      | some (n, _) => if n.isTooLarge then .malformed else .misshapen
      | none => .malformed

/-- A string, and the octets after it. -/
def text (octets : Octets) : Except BodyFault (String × Octets) :=
  let octets := skipSpace octets
  match after? "\"" octets with
  | none => .error (faultOf octets)
  | some rest =>
    match string? rest with
    | some found => .ok found
    | none => .error .malformed

/-- The octets after a mark that has to come next. -/
def expect (mark : String) (octets : Octets) : Except BodyFault Octets :=
  match after? mark (skipSpace octets) with
  | some rest => .ok rest
  | none => .error .malformed

/-- Read the array, of which the bracket has been read. -/
def items (octets : Octets) : Except BodyFault String :=
  match after? "]" (skipSpace octets) with
  | some _ => .error .misshapen
  | none => do
    let (s, rest) ← text octets
    let _ ← expect "]" rest
    .ok s

/-- The name of a member and the octets of its value. -/
def memberName (octets : Octets) : Except BodyFault (String × Octets) :=
  match after? "\"" (skipSpace octets) with
  | none => .error .malformed
  | some rest =>
    match string? rest with
    | some found => .ok found
    | none => .error .malformed

/-- Read the members of the object until its brace; `found` is the filter found so far, and at most
`n` steps are taken. -/
def members : (n : Nat) → (found : Option String) → (first : Bool) → Octets →
    Except BodyFault String
  | 0, _, _, _ => .error .malformed
  | n + 1, found, first, octets =>
    match after? "\x7d" (skipSpace octets) with
    | some _ =>
      match found with
      | some s => .ok s
      | none => .error .misshapen
    | none => do
      let octets ← if first then .ok octets else expect "," octets
      let (name, rest) ← memberName octets
      if name = "filter" then
        if found.isSome then .error .misshapen
        else
          let (s, rest) ← text (← expect ":" rest)
          members n (some s) false rest
      else
        let value ← expect ":" rest
        -- the readers of values make two steps at most for each octet
        match skipValue? (2 * value.length + 2) value with
        | some rest => members n found false rest
        | none => .error .malformed

/-- The written filter in a body. -/
def read (body : ByteArray) : Except BodyFault String :=
  let octets := skipSpace body.toList
  match after? "[" octets, after? "\x7b" octets with
  | some rest, _ => items rest
  | none, some rest => members (rest.length + 1) none true rest
  | none, none => .error (faultOf octets)

end FilterBody

end LongPoll.Http
