import LongPoll.Identifier
import LongPoll.Time.Duration
/-!
# Channels

A resolved channel: its name, how long its messages and idle subscribers are kept, and which
tokens its subscribers may show.
-/

namespace LongPoll

/-- Which tokens a channel accepts. -/
structure JwtPolicy where
  /-- The issuers whose tokens are accepted. -/
  issuers : List String
  /-- By how much the clock of an issuer may differ. -/
  leeway : Duration
  deriving DecidableEq

/-- A resolved channel. -/
structure Channel where
  /-- The name. -/
  id : ChannelId
  /-- How long messages and idle subscribers are kept. -/
  expire : Duration
  /-- The tokens accepted, if the channel restricts them. -/
  jwt : Option JwtPolicy
  deriving DecidableEq

end LongPoll
