import LongPoll.Identifier
import LongPoll.Json
import LongPoll.Log.Event
import LongPoll.Word
/-!
# Requests to storages

The operations of a storage, what they answer, and how they are named in the log.
-/

namespace LongPoll

/-- An operation of a storage. -/
inductive StorageRequest where
  /-- Store a message and queue it for the subscribers of its channel. -/
  | publish (m : Message)
  /-- Take messages off the queue of a subscriber, and wait for some if there are none. -/
  | poll (locator : Locator) (max : Nat) (wait : Duration)
  /-- Take note that a token is revoked. -/
  | revoke (exp : Timestamp) (jti : Jti)
  /-- Ask whether a token is revoked. -/
  | isRevoked (jti : Jti)
  /-- Ask whether the storage is broken for good. -/
  | liveness
  /-- Ask whether the storage can serve now. -/
  | readiness
  /-- Stop the storage. -/
  | shutdown
  deriving DecidableEq

/-- What an operation answers if it succeeds. -/
inductive StorageReply where
  /-- It is done. -/
  | done
  /-- Messages, the earliest first. -/
  | messages (ms : List Message)
  /-- Whether the token is revoked. -/
  | revoked (b : Bool)
  /-- A report about the state of the storage. -/
  | detail (j : Json)

namespace StorageReply

/-- The messages in a reply. -/
def delivered : StorageReply → List Message
  | messages ms => ms
  | _ => []

/-- Whether a reply says that the token is revoked. -/
def isRevoked : StorageReply → Bool
  | revoked b => b
  | _ => false

/-- The report in a reply. -/
def probeDetail : StorageReply → Json
  | detail j => j
  | _ => .null

end StorageReply

/-- How an operation ends. -/
abbrev StorageAnswer := Except Error StorageReply

/-- What a storage can do beyond reporting its state. -/
inductive Capability where
  /-- It takes and hands out messages. -/
  | pubsub
  /-- It keeps revocations. -/
  | jwt
  deriving DecidableEq, Repr

/-- The name of a capability. -/
def Capability.word : Capability → String
  | pubsub => "pubsub"
  | jwt => "jwt"

namespace StorageRequest

/-- The capability that an operation needs. -/
def needs? : StorageRequest → Option Capability
  | publish _ | poll .. => some .pubsub
  | revoke .. | isRevoked _ => some .jwt
  | liveness | readiness | shutdown => none

/-- The name of an operation. -/
def operation : StorageRequest → String
  | publish _ => "publish"
  | poll .. => "poll"
  | revoke .. => "revoke_jwt"
  | isRevoked _ => "is_revoked_jwt"
  | liveness => "liveness"
  | readiness => "readiness"
  | shutdown => "shutdown"

/-- What is recorded about the arguments of an operation. A wait is recorded in milliseconds and in
64 bits. -/
def arguments : StorageRequest → List LogField
  | publish m => [("channel_id", .text m.channel.text), ("message_id", .text m.id.text)]
  | poll locator max wait =>
    [("channel_id", .text locator.channel.text), ("subscriber_id", .text locator.subscriber.text),
      ("max_messages", .count max), ("max_wait_ms", .count (wait.wholeMillis % Word.values64))]
  | revoke exp jti => [("jti", .text jti.text), ("exp", .text exp.toText)]
  | isRevoked jti => [("jti", .text jti.text)]
  | liveness | readiness | shutdown => []

/-- The record of an operation on the storage of that name. -/
def span (r : StorageRequest) (id : StorageId) : LogSpan where
  name := "storage"
  target := "pubpoll_storage::instrumented"
  fields :=
    ("storage.id", .text id.text) :: ("operation", .text r.operation) :: r.arguments
  era := 0

end StorageRequest

end LongPoll
