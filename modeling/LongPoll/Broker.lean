import LongPoll.Storage.Configured
import LongPoll.Job
/-!
# Brokers

A broker stands before a storage. It turns down what the storage cannot do and what is about no
channel before the storage hears of it.
-/

namespace LongPoll

/-- A broker before a storage. Channels are looked up in the directory of the world. -/
structure Broker where
  /-- The storage. -/
  storage : Storage

namespace Broker

/-- Put a broker before a storage. -/
def start (s : Storage) (w : World) : World × Broker :=
  (w.report [] (.brokerStarted s.display), ⟨s⟩)

/-- Pass a request on to the storage. -/
def pass (b : Broker) (r : StorageRequest) (w : World) : World × Job StorageAnswer :=
  let (w, call) := b.storage.start [] r w
  (w, .ofCall call)

/-- Go on only if the storage has the capability. -/
def requiring {α : Type} (b : Broker) (c : Capability)
    (next : World → World × Job (Except Error α)) (w : World) : World × Job (Except Error α) :=
  if b.storage.has c then next w else (w, .done (.error (Storage.lacks c)))

/-- Go on only if there is a channel of that name. -/
def resolving {α : Type} (channel : ChannelId)
    (next : World → World × Job (Except Error α)) (w : World) : World × Job (Except Error α) :=
  match w.findChannel [] channel with
  | (w, .ok _) => next w
  | (w, .error e) => (w, .done (.error e))

/-- Publish a message. -/
def publish (b : Broker) (m : Message) : World → World × Job StorageAnswer :=
  b.requiring .pubsub <| resolving m.channel <| b.pass (.publish m)

/-- Publish content under a name that the broker chooses, and answer with that name. -/
def publishUnnamed (b : Broker) (channel : ChannelId) (content : ByteArray) :
    World → World × Job (Except Error MessageId) :=
  b.requiring .pubsub <| resolving channel fun w =>
    let (w, id) := w.nameMessage
    let (w, job) := b.pass (.publish ⟨channel, id, content⟩) w
    (w, job.andThen fun answer w => (w, answer.map fun _ => id))

/-- Take messages off the queue of a subscriber. -/
def poll (b : Broker) (locator : Locator) (max : Nat) (wait : Duration) :
    World → World × Job StorageAnswer :=
  b.requiring .pubsub <| resolving locator.channel <| b.pass (.poll locator max wait)

/-- Revoke a token until it expires. -/
def revoke (b : Broker) (jti : Jti) (exp : Timestamp) : World → World × Job StorageAnswer :=
  b.requiring .jwt fun w =>
    let (w, job) := b.pass (.revoke exp jti) w
    (w, job.andThen fun answer w =>
      match answer with
      | .ok reply => (w.report [] (.revoked jti exp), .ok reply)
      | .error e => (w, .error e))

/-- Ask whether a token is revoked. -/
def isRevoked (b : Broker) (jti : Jti) : World → World × Job StorageAnswer :=
  b.requiring .jwt (b.pass (.isRevoked jti))

/-- Ask whether the storage is broken for good. -/
def liveness (b : Broker) : World → World × Job StorageAnswer := b.pass .liveness

/-- Ask whether the storage can serve now. -/
def readiness (b : Broker) : World → World × Job StorageAnswer := b.pass .readiness

/-- Stop the storage. -/
def shutdown (b : Broker) (w : World) : World × Job StorageAnswer :=
  let (w, job) := b.pass .shutdown (w.report [] .brokerStopping)
  (w, job.andThen fun answer w =>
    match answer with
    | .ok reply => (w, .ok reply)
    | .error e => (w.report [] (.brokerStopFailed e.message), .error e))

/-- The number of descriptors that the directory and the storage may hold together. -/
def descriptors (b : Broker) (w : World) : Nat := w.directory.descriptors + b.storage.descriptors

end Broker

end LongPoll
