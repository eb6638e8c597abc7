import LongPoll.Identifier
import LongPoll.Time.Timestamp
/-!
# Log events

What the program reports about its work. A notice says what happened; an event is a notice
together with the operations in whose course it happened.
-/

namespace LongPoll

/-- How important an event is. -/
inductive LogLevel where
  /-- Something is broken. -/
  | error
  /-- Something deserves attention. -/
  | warn
  /-- Something of note happened. -/
  | info
  /-- Something happened. -/
  | debug
  /-- Something happened inside something. -/
  | trace
  deriving DecidableEq, Repr

namespace LogLevel

/-- The rank of a level: the less important, the higher. -/
def rank : LogLevel → Nat
  | error => 1
  | warn => 2
  | info => 3
  | debug => 4
  | trace => 5

/-- The name of a level. -/
def word : LogLevel → String
  | error => "ERROR"
  | warn => "WARN"
  | info => "INFO"
  | debug => "DEBUG"
  | trace => "TRACE"

end LogLevel

/-- A value recorded with an event. -/
inductive LogValue where
  /-- A text. -/
  | text (s : String)
  /-- A whole number. -/
  | count (n : Nat)
  /-- A truth value. -/
  | flag (b : Bool)
  deriving DecidableEq, Repr

/-- A recorded value under its name. -/
abbrev LogField := String × LogValue

/-- An operation that events happen in the course of. -/
structure LogSpan where
  /-- The kind of operation. -/
  name : String
  /-- The part of the program it belongs to. -/
  target : String
  /-- What is recorded about it. -/
  fields : List LogField
  /-- How often the log filter had been replaced when it began. -/
  era : Nat
  deriving DecidableEq, Repr

/-- Something to report. -/
inductive Notice where
  /-- A memory storage starts. -/
  | memoryStarted (pubsub jwt : Bool) (collectEvery : Duration)
  /-- A memory storage stopped. -/
  | memoryStopped
  /-- A subscriber was registered. -/
  | subscriberCreated (subscriber : Locator)
  /-- Messages were handed out. -/
  | delivered (subscriber : Locator) (count : Nat)
  /-- A message was stored for that many subscribers. -/
  | published (channel : ChannelId) (message : MessageId) (subscribers : Nat)
  /-- A message was already known. -/
  | duplicate (channel : ChannelId) (message : MessageId)
  /-- A storage took note of a revocation. -/
  | revocationStored (jti : Jti) (exp : Timestamp)
  /-- Garbage was collected. -/
  | collected (stats : String)
  /-- Garbage was not collected this time. -/
  | collectFailed (error : String)
  /-- Collecting garbage broke down. -/
  | collectAborted (error : String)
  /-- Storing in memory is not for production. -/
  | memoryWarning (storage : StorageId)
  /-- A storage is ready. -/
  | storageReady (storage : StorageId) (kind : String)
  /-- An operation of a storage succeeded. -/
  | completed
  /-- An operation of a storage failed. -/
  | failed (error : String)
  /-- One of several storages failed during a poll. -/
  | pollFailed (storage : StorageId) (subscriber : Locator) (error : String)
  /-- Messages of several storages were merged. -/
  | merged (subscriber : Locator) (count : Nat)
  /-- A broker starts. -/
  | brokerStarted (storage : String)
  /-- A broker has revoked a token. -/
  | revoked (jti : Jti) (exp : Timestamp)
  /-- A broker stops. -/
  | brokerStopping
  /-- A broker could not stop its storage. -/
  | brokerStopFailed (error : String)
  /-- Stale look-ups were removed from the cache. -/
  | cacheSwept (evicted : Nat)
  /-- A request failed for a reason that the client does not learn. -/
  | requestFailed (error : String)
  /-- A request for administration was turned away. -/
  | adminRejected (uri : String)
  /-- The log filter was replaced. -/
  | filterReplaced (filter : String)
  deriving DecidableEq

namespace Notice

/-- How important a notice is. -/
def level : Notice → LogLevel
  | memoryStarted .. | memoryStopped | storageReady .. | brokerStarted _ | revoked ..
  | brokerStopping | filterReplaced _ => .info
  | collectFailed _ | memoryWarning _ | pollFailed .. | brokerStopFailed _
  | adminRejected _ => .warn
  | collectAborted _ | requestFailed _ => .error
  | _ => .debug

/-- The part of the program that gives the notice. -/
def target : Notice → String
  | memoryStarted .. | memoryStopped | subscriberCreated _ | delivered .. | published ..
  | duplicate .. | revocationStored .. => "pubpoll_storage::memory"
  | collected _ | collectFailed _ | collectAborted _ => "pubpoll_storage::memory::gc"
  | memoryWarning _ | storageReady .. => "pubpoll_storage::factory"
  | completed | failed _ => "pubpoll_storage::instrumented"
  | pollFailed .. | merged .. => "pubpoll_storage::multiplex"
  | brokerStarted _ | revoked .. | brokerStopping | brokerStopFailed _ => "pubpoll_core::broker"
  | cacheSwept _ => "pubpoll_core::channel"
  | requestFailed _ | adminRejected _ | filterReplaced _ => "pubpoll::server"

/-- The wording of a notice. -/
def message : Notice → String
  | memoryStarted .. => "Initializing in-memory storage"
  | memoryStopped => "In-memory storage shut down"
  | subscriberCreated _ => "Subscriber created"
  | delivered .. => "Messages delivered"
  | published .. => "Message published"
  | duplicate .. => "Duplicate message ignored"
  | revocationStored .. | revoked .. => "JWT revoked"
  | collected _ => "GC pass completed"
  | collectFailed _ => "GC pass failed, retrying at next interval"
  | collectAborted _ => "GC pass aborted"
  | memoryWarning _ =>
    "onmemory storage keeps everything in process memory, do not use it in production"
  | storageReady .. => "Storage initialized"
  | completed => "Storage operation completed"
  | failed _ => "Storage operation failed"
  | pollFailed .. => "Poll failed on one storage"
  | merged .. => "Merged poll results"
  | brokerStarted _ => "Initializing pubpoll broker"
  | brokerStopping => "Shutting down broker"
  | brokerStopFailed _ => "Failed to shutdown storage"
  | cacheSwept _ => "Channel cache swept"
  | requestFailed _ => "Request failed"
  | adminRejected _ => "Rejected admin request"
  | filterReplaced _ => "Log filter replaced"

/-- What is recorded with a notice. -/
def fields : Notice → List LogField
  | memoryStarted pubsub jwt every =>
    [("pubsub", .flag pubsub), ("jwt", .flag jwt), ("gc_interval", .text every.toText)]
  | subscriberCreated subscriber => [("subscriber", .text (toString subscriber))]
  | delivered subscriber count | merged subscriber count =>
    [("subscriber", .text (toString subscriber)), ("count", .count count)]
  | published channel message subscribers =>
    [("channel", .text channel.text), ("message_id", .text message.text),
      ("subscribers", .count subscribers)]
  | duplicate channel message =>
    [("channel", .text channel.text), ("message_id", .text message.text)]
  | revocationStored jti exp | revoked jti exp =>
    [("jti", .text jti.text), ("exp", .text exp.toText)]
  | collected stats => [("stats", .text stats)]
  | collectFailed error | collectAborted error | failed error | brokerStopFailed error
  | requestFailed error => [("error", .text error)]
  | memoryWarning storage => [("storage", .text storage.text)]
  | storageReady storage kind => [("storage", .text storage.text), ("kind", .text kind)]
  | pollFailed storage subscriber error =>
    [("storage", .text storage.text), ("subscriber", .text (toString subscriber)),
      ("error", .text error)]
  | brokerStarted storage => [("storage", .text storage)]
  | cacheSwept evicted => [("evicted", .count evicted)]
  | adminRejected uri => [("uri", .text uri)]
  | filterReplaced filter => [("filter", .text filter)]
  | memoryStopped | completed | brokerStopping => []

end Notice

/-- A notice and the operations around it, the outermost one first. -/
structure LogEvent where
  /-- What happened. -/
  notice : Notice
  /-- The operations in whose course it happened. -/
  spans : List LogSpan
  deriving DecidableEq

end LongPoll
