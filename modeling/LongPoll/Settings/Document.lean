import LongPoll.Json
import LongPoll.Text.Digits
import LongPoll.Time.Duration
/-!
# Documents

What settings are read from: a tree of scalars, lists and mappings that comes from a JSON value or
from a YAML text. A plain scalar has no type of its own; it means what is asked for. Reading
yields nothing as soon as a part of a document is not what is asked for.
-/

namespace LongPoll

/-- How a scalar is written. -/
inductive ScalarStyle where
  /-- Without quotes, so that it may be more than text. -/
  | plain
  /-- In quotes or folded: a text. -/
  | quoted
  /-- As a literal block: a text, unless a tag says otherwise. -/
  | literal
  deriving DecidableEq, Repr

/-- A tree to read settings from. -/
inductive Document where
  /-- The value `null`. -/
  | null
  /-- A truth value. -/
  | bool (b : Bool)
  /-- A whole number. -/
  | int (n : Int)
  /-- A scalar, with its tag if it has one. -/
  | scalar (style : ScalarStyle) (tag : Option String) (text : String)
  /-- A list. If it is a record, its items stand for the fields in their order. -/
  | list (record : Bool) (items : List Document)
  /-- A mapping. -/
  | mapping (entries : List (Document × Document))
  deriving Repr

namespace Document

instance : Inhabited Document := ⟨null⟩

mutual

/-- The document that a JSON value is. -/
def ofJson : Json → Document
  | .null => null
  | .bool b => bool b
  | .int n => int n
  | .text s => scalar .quoted none s
  | .array items => list true (ofJsonItems items)
  | .object members => mapping (ofJsonMembers members)

/-- The documents that several JSON values are. -/
def ofJsonItems : List Json → List Document
  | [] => []
  | j :: js => ofJson j :: ofJsonItems js

/-- The entries that the members of a JSON object are. -/
def ofJsonMembers : List (String × Json) → List (Document × Document)
  | [] => []
  | (name, j) :: members => (scalar .quoted none name, ofJson j) :: ofJsonMembers members

end

/-! ## Scalars -/

/-- The tag of truth values. -/
def boolTag : String := "tag:yaml.org,2002:bool"

/-- The tag of whole numbers. -/
def intTag : String := "tag:yaml.org,2002:int"

/-- The tag of `null`. -/
def nullTag : String := "tag:yaml.org,2002:null"

/-- Whether a scalar may be read as a value of the type with that tag. -/
def mayBe (expected : String) : ScalarStyle → Option String → Bool
  | .plain, _ => true
  | .literal, some tag => tag == expected
  | _, _ => false

/-- Whether a plain scalar means `null`. -/
def isNullWord (s : String) : Bool := s == "null" || s == "Null" || s == "NULL" || s == "~"

/-- The truth value that a plain scalar means. -/
def boolWord? (s : String) : Option Bool :=
  if s == "true" || s == "True" || s == "TRUE" then some true
  else if s == "false" || s == "False" || s == "FALSE" then some false
  else none

/-- Whether the text is a run of digits with a zero before others, perhaps signed. Such a run is a
text and no number. -/
def isZeroPadded (cs : List Char) : Bool :=
  let digits := match cs with
    | '-' :: rest | '+' :: rest => rest
    | _ => cs
  match digits with
  | '0' :: c :: rest => (c :: rest).all Text.isDigit
  | _ => false

/-- The number that a plain scalar means, perhaps with a plus sign or in a base that its first two
characters tell. -/
def natWord? (s : String) : Option Nat :=
  let cs := s.toList
  let unsigned := match cs with
    | '+' :: rest => rest
    | _ => cs
  match unsigned with
  | '0' :: 'x' :: rest => Text.readNat? 16 rest
  | '0' :: 'o' :: rest => Text.readNat? 8 rest
  | '0' :: 'b' :: rest => Text.readNat? 2 rest
  | _ => if isZeroPadded cs then none else Text.readNat? 10 unsigned

/-! ## Reading -/

/-- Read a text. Any scalar but a typed one is a text. -/
def text? : Document → Option String
  | scalar _ _ s => some s
  | _ => none

/-- Read a truth value. -/
def bool? : Document → Option Bool
  | bool b => some b
  | scalar style tag s => if mayBe boolTag style tag then boolWord? s else none
  | _ => none

/-- Read a whole number below `limit`. -/
def nat? (limit : Nat) (d : Document) : Option Nat :=
  let n := match d with
    | int n => if 0 ≤ n then some n.toNat else none
    | scalar style tag s => if mayBe intTag style tag then natWord? s else none
    | _ => none
  n.filter (· < limit)

/-- Read a duration, which is written as a text. -/
def duration? (d : Document) : Option Duration := d.text?.bind Duration.parse?

/-- Whether the document is a plain scalar without characters, which stands for an empty list or
mapping where one is asked for. -/
def isBlank : Document → Bool
  | scalar .plain _ s => s.isEmpty
  | _ => false

/-- Read a list. -/
def list? {α : Type} (item? : Document → Option α) (d : Document) : Option (List α) :=
  match d with
  | list _ items => items.mapM item?
  | _ => if d.isBlank then some [] else none

/-- Read a value that may be `null`. -/
def option? {α : Type} (value? : Document → Option α) (d : Document) : Option (Option α) :=
  match d with
  | null => some none
  | scalar style tag s =>
    if style != .plain then (value? d).map some
    else if tag == some nullTag then if isNullWord s then some none else none
    else if tag.isNone && (s.isEmpty || isNullWord s) then some none
    else (value? d).map some
  | _ => (value? d).map some

/-- Read the entries of a mapping. -/
def entries? (d : Document) : Option (List (Document × Document)) :=
  match d with
  | mapping entries => some entries
  | _ => if d.isBlank then some [] else none

/-! ## Records -/

/-- The fields of a record that are given. -/
abbrev Fields := List (String × Document)

/-- Read the names of given fields. A name that is not among the known ones or is given twice is
not accepted. -/
def namedFields? (names : List String) : List (Document × Document) → Option Fields
  | [] => some []
  | (key, value) :: rest =>
    match key.text?, namedFields? names rest with
    | some name, some fields =>
      if names.contains name && !fields.any (·.1 == name) then some ((name, value) :: fields)
      else none
    | _, _ => none

/-- Read the fields of a record with the given field names. -/
def fields? (names : List String) (d : Document) : Option Fields :=
  match d with
  | list true items =>
    if items.length ≤ names.length then some (names.zip items) else none
  | _ => d.entries?.bind (namedFields? names)

namespace Fields

/-- The field of that name, if it is given. -/
def get? (fields : Fields) (name : String) : Option Document :=
  (fields.find? (·.1 == name)).map (·.2)

/-- Read a field that has to be given. -/
def require? {α : Type} (fields : Fields) (name : String) (value? : Document → Option α) :
    Option α :=
  (fields.get? name).bind value?

/-- Read a field, or take the value that stands in for it if it is not given. -/
def getD? {α : Type} (fields : Fields) (name : String) (value? : Document → Option α)
    (standIn : α) : Option α :=
  match fields.get? name with
  | some d => value? d
  | none => some standIn

end Fields

end Document

end LongPoll
