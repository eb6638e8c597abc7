import LongPoll.Channel.Catalogue
import LongPoll.Settings.Document
/-!
# Settings of channels

The rules of a channel catalogue as documents and as JSON values.
-/

namespace LongPoll

namespace JwtPolicy

/-- Read a token policy. -/
def ofDocument? (d : Document) : Option JwtPolicy := do
  let fields ← d.fields? ["iss", "clockSkewLeeway"]
  let issuers ← fields.getD? "iss" (Document.list? Document.text?) []
  let leeway ← fields.getD? "clockSkewLeeway" Document.duration? Duration.zero
  some ⟨issuers, leeway⟩

/-- A token policy as JSON. -/
def toJson (p : JwtPolicy) : Json :=
  .object [("iss", .texts p.issuers), ("clockSkewLeeway", .text p.leeway.toText)]

end JwtPolicy

namespace ChannelRule

/-- Read a rule. -/
def ofDocument? (d : Document) : Option ChannelRule := do
  let fields ← d.fields? ["regex", "expire", "jwt"]
  let pattern ← fields.require? "regex" Document.text?
  let expire ← fields.getD? "expire" Document.duration? defaultExpire
  let jwt ← fields.getD? "jwt" (Document.option? JwtPolicy.ofDocument?) none
  some ⟨pattern, expire, jwt⟩

/-- A rule as JSON. -/
def toJson (r : ChannelRule) : Json :=
  let jwt := match r.jwt with
    | some p => [("jwt", p.toJson)]
    | none => []
  .object (("regex", .text r.pattern) :: ("expire", .text r.expire.toText) :: jwt)

/-- Read a list of rules. -/
def listOfDocument? : Document → Option (List ChannelRule) := Document.list? ofDocument?

/-- A list of rules as JSON. -/
def listToJson (rules : List ChannelRule) : Json := .array (rules.map toJson)

end ChannelRule

end LongPoll
