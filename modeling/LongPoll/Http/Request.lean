import LongPoll.Text.Blank
import LongPoll.Text.Percent
import LongPoll.Text.Utf8
/-!
# Requests

What a client asks over HTTP. The names of headers have no case; of several headers of one name the
first one counts, and a value counts only if it consists of visible ASCII characters and blanks.
-/

namespace LongPoll.Http

/-- The runs between separators. -/
def pieces {α : Type} [BEq α] (separator : α) : List α → List (List α)
  | [] => [[]]
  | a :: rest =>
    if a == separator then [] :: pieces separator rest
    else
      match pieces separator rest with
      | piece :: more => (a :: piece) :: more
      | [] => [[a]]

/-- A request. -/
structure Request where
  /-- What to do. -/
  method : String
  /-- What to do it with, as it is written. -/
  path : String
  /-- The parameters behind the path, as they are written, if there are any. -/
  query : Option String
  /-- The headers in order. -/
  headers : List (String × String)
  /-- What comes with the request. -/
  body : ByteArray

namespace Request

/-- The request for a target: a path, perhaps a query after a question mark, and perhaps a fragment
after a number sign, which is of no account. -/
def ofTarget (method target : String) (headers : List (String × String)) (body : ByteArray) :
    Request :=
  let named := target.toList.takeWhile (· != '#')
  let path := named.takeWhile (· != '?')
  let query := match named.drop path.length with
    | [] => none
    | _ :: query => some (String.ofList query)
  ⟨method, String.ofList path, query, headers, body⟩

/-- The target of a request: the path and the query. -/
def target (r : Request) : String :=
  r.path ++ (match r.query with
    | some query => "?" ++ query
    | none => "")

end Request

/-! ## Headers -/

/-- Text with its ASCII letters in lower case. -/
def lowerCase (s : String) : String := String.ofList (s.toList.map Char.toLower)

/-- Whether the character may stand in the value of a header that is read as text. -/
def isHeaderChar (c : Char) : Bool := (' ' ≤ c && c ≤ '~') || c == '\t'

/-- The value of the first header of that name, which is given in lower case, if it is text. -/
def headerText? (name : String) (headers : List (String × String)) : Option String :=
  match headers.find? fun (n, _) => lowerCase n == name with
  | some (_, value) => if value.toList.all isHeaderChar then some value else none
  | none => none

end LongPoll.Http
