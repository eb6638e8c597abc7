import LongPoll.Http.Request
import LongPoll.Word
/-!
# Queries

The parameters of a request, written as names and values with `=` between them and `&` between
one and the next. Parameters that nobody asks for do not matter, but one that is asked for may stand
there once only.
-/

namespace LongPoll.Http

/-- The parameters of a request in order. -/
abbrev Query := List (String × String)

namespace Query

/-- The text that a name or a value in a query stands for: a plus sign is a space. -/
def decode (octets : List UInt8) : String :=
  let spaced := octets.map fun b => if b == '+'.toUInt8 then ' '.toUInt8 else b
  Text.lossy ⟨(Text.unescape spaced).toArray⟩

/-- Read a query. A parameter without a value has the empty one. -/
def ofText (s : String) : Query :=
  let parameters := (pieces '&'.toUInt8 s.toUTF8.toList).filter (!·.isEmpty)
  parameters.map fun octets =>
    let name := octets.takeWhile (· != '='.toUInt8)
    (decode name, decode (octets.drop (name.length + 1)))

/-- The parameters of a request. -/
def ofRequest (r : Request) : Query := ofText (r.query.getD "")

/-- The values of the parameters of that name. -/
def values (q : Query) (name : String) : List String :=
  q.filterMap fun (n, value) => if n == name then some value else none

/-- The value of a parameter that may be left out, unless it is given more than once. -/
def optional? (q : Query) (name : String) : Option (Option String) :=
  match q.values name with
  | [] => some none
  | [value] => some (some value)
  | _ => none

/-- The value of a parameter that has to be there once. -/
def required? (q : Query) (name : String) : Option String :=
  match q.values name with
  | [value] => some value
  | _ => none

end Query

/-! ## Numbers -/

/-- A whole number of at most 64 bits, one of them for the sign. -/
def signedWord? (s : String) : Option Int :=
  match s.toList with
  | '-' :: cs => ((Text.readNat? 10 cs).filter (· ≤ Word.values63)).map fun n => -(n : Int)
  | cs => ((Text.readNat? 10 (Text.withoutPlus cs)).filter (· < Word.values63)).map Int.ofNat

/-! ## The parameters of operations -/

/-- What a poll asks for. -/
structure PollQuery where
  /-- How long to wait, as it is written. -/
  timeout : Option String
  /-- How many messages to hand out at most. -/
  max : Option Nat

/-- Read what a poll asks for. -/
def PollQuery.ofQuery? (q : Query) : Option PollQuery := do
  let timeout ← q.optional? "timeout"
  match ← q.optional? "max" with
  | none => some ⟨timeout, none⟩
  | some s => (Text.readWord? s.toList).map fun max => ⟨timeout, some max⟩

/-- What a revocation is about. -/
structure RevokeQuery where
  /-- The name of the token. -/
  jti : String
  /-- When the token expires, in seconds since the start of 1970. -/
  exp : Int

/-- Read what a revocation is about. -/
def RevokeQuery.ofQuery? (q : Query) : Option RevokeQuery := do
  let jti ← q.required? "jti"
  let exp ← (q.required? "exp").bind signedWord?
  some ⟨jti, exp⟩

end LongPoll.Http
