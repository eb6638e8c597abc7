import LongPoll.Http.Request
/-!
# Media types

What kind of content comes with a request: a type and a subtype, and perhaps parameters. A text that
is not written like that announces nothing.
-/

namespace LongPoll.Http

/-- Whether the character may stand in a type, a subtype, or the name of a parameter. -/
def isTokenChar (c : Char) : Bool :=
  Text.isLetterOrDigit c || "!#$%&'*+-.^_\x60|~".toList.contains c

/-- The characters after a quoted value, of which the opening quote has been read. -/
def afterQuoted? : List Char → Option (List Char)
  | '\\' :: c :: cs => if ' ' ≤ c then afterQuoted? cs else none
  | c :: cs => if c == '"' then some cs else if ' ' ≤ c then afterQuoted? cs else none
  | [] => none

/-- The characters after the value of a parameter. -/
def afterValue? : List Char → Option (List Char)
  | '"' :: cs => (afterQuoted? cs).map (·.dropWhile (· == ' '))
  | cs => some (cs.dropWhile isTokenChar)

/-- The characters after one parameter and the semicolon behind it. -/
def afterParameter? (cs : List Char) : Option (List Char) :=
  let name := cs.takeWhile isTokenChar
  match cs.drop name.length with
  | '=' :: value =>
    if name.isEmpty then none
    else
      match afterValue? value with
      | some [] => some []
      | some (';' :: rest) => some rest
      | _ => none
  | _ => none

/-- Whether the characters are parameters, at most `n` of them. -/
def areParameters : (n : Nat) → List Char → Bool
  | 0, _ => false
  | n + 1, cs =>
    match cs.dropWhile (· == ' ') with
    | [] => true
    | cs => (afterParameter? cs).any (areParameters n)

/-- The type and the subtype that a text names, in lower case. -/
def mediaType? (s : String) : Option (String × String) :=
  let kind := s.toList.takeWhile isTokenChar
  match s.toList.drop kind.length with
  | '/' :: cs =>
    let subtype := cs.takeWhile isTokenChar
    let written := match (cs.drop subtype.length).dropWhile (· == ' ') with
      | [] => true
      | ';' :: parameters => areParameters (parameters.length + 1) parameters
      | _ => false
    if kind.isEmpty || subtype.isEmpty || !written then none
    else some (lowerCase (String.ofList kind), lowerCase (String.ofList subtype))
  | _ => none

/-- A subtype without its last suffix, and that suffix. -/
def splitSuffix (subtype : String) : String × Option String :=
  let cs := subtype.toList
  let suffix := (cs.reverse.takeWhile (· != '+')).reverse
  let base := cs.take (cs.length - suffix.length - 1)
  if base.isEmpty then (subtype, none) else (String.ofList base, some (String.ofList suffix))

/-- Whether a media type announces JSON: as such, or as the base or the suffix of another type. -/
def isJsonType (s : String) : Bool :=
  match mediaType? s with
  | some (kind, subtype) =>
    let (base, suffix) := splitSuffix subtype
    kind == "application" && (base == "json" || suffix == some "json")
  | none => false

/-- Whether the request says that it comes with JSON. -/
def Request.announcesJson (r : Request) : Bool :=
  (headerText? "content-type" r.headers).any isJsonType

end LongPoll.Http
