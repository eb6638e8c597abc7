import LongPoll.Error
import LongPoll.Http.Request
/-!
# Credentials

Administrators show a token. A request is let through if and only if its first `authorization`
header carries one of the configured tokens; without any configured token there is nothing to
administrate.
-/

namespace LongPoll.Http

/-- What stands before a token. -/
def bearerScheme : String := "Bearer "

/-- The token that a request shows, without the white space around it. -/
def bearerToken? (headers : List (String × String)) : Option String :=
  match headerText? "authorization" headers with
  | some value =>
    if bearerScheme.toList.isPrefixOf value.toList then
      some (String.ofList (Text.trim (value.toList.drop bearerScheme.length)))
    else none
  | none => none

/-- The bits in which octets at the same place differ, all places together. -/
def differingBits : List UInt8 → List UInt8 → UInt8
  | a :: as, b :: bs => (a ^^^ b) ||| differingBits as bs
  | _, _ => 0

/-- Whether two secrets are the same. All octets are looked at, wherever the first difference is. -/
def sameSecret (a b : ByteArray) : Bool :=
  a.size == b.size && differingBits a.toList b.toList == 0

/-- Whether a shown token is one of the configured ones. All of them are looked at. -/
def isKnownToken (tokens : List String) (shown : String) : Bool :=
  tokens.foldl (fun found t => sameSecret t.toUTF8 shown.toUTF8 || found) false

/-- How a request for administration is met. -/
inductive Admission where
  /-- There is no administration. -/
  | closed
  /-- The request does not show a configured token. -/
  | rejected
  /-- The request is let through. -/
  | granted
  deriving DecidableEq

/-- Meet a request for administration. -/
def admission (tokens : List String) (headers : List (String × String)) : Admission :=
  if tokens.isEmpty then .closed
  else if (bearerToken? headers).any (isKnownToken tokens) then .granted
  else .rejected

end LongPoll.Http
