import LongPoll.Channel
import LongPoll.Log.Event
import LongPoll.Storage.Bell
import LongPoll.Table
/-!
# The memory engine

Messages, subscribers and revocations kept in memory. A published message goes into the log of
its channel and into the queue of every subscriber the channel has. A new subscriber starts with
the visible part of the log in its queue. A message is visible until the moment at which it
expires, which is fixed when it is published.
-/

namespace LongPoll

/-- The place of a bell in the engine. -/
abbrev BellId := Nat

/-- A message as the engine keeps it. -/
structure Posted where
  /-- Its place in the order of all publishes. -/
  sequence : Nat
  /-- The message. -/
  message : Message
  /-- When it stops being visible. -/
  expireAt : Timestamp
  deriving DecidableEq

/-- Whether the message can be handed out. -/
def Posted.isVisible (p : Posted) (now : Timestamp) : Bool := decide (now < p.expireAt)

/-- A subscriber of a channel. -/
structure Subscription where
  /-- The messages to hand out, in the order of publishing. -/
  queue : List Posted
  /-- When a poll last looked at the queue. -/
  lastActivity : Timestamp
  /-- The bell that a publish rings. -/
  bell : BellId
  deriving DecidableEq

/-- A channel as the engine keeps it. -/
structure ChannelState where
  /-- The last definition seen. -/
  channel : Channel
  /-- The messages in the order of publishing. -/
  log : List Posted
  /-- Where in the log each message name stands. -/
  index : Table MessageId Nat
  /-- The subscribers. -/
  subscribers : Table SubscriberId Subscription

/-- The state of a memory engine. -/
structure Memory where
  /-- The channels that hold a message or a subscriber. -/
  channels : Table ChannelId ChannelState
  /-- The revoked tokens, with the moments at which they expire anyway. -/
  revoked : Table Jti Timestamp
  /-- The place of the next publish in the order of all. There are taken to be fewer than `2 ^ 64`
  publishes, so that the count does not start again. -/
  nextSequence : Nat
  /-- The bells of subscribers present and past. -/
  bells : List Bell

namespace ChannelState

/-- A channel without messages and subscribers. -/
def start (channel : Channel) : ChannelState := ⟨channel, [], ∅, ∅⟩

/-- The logged message at a place in the order of all publishes. -/
def logged? (c : ChannelState) (sequence : Nat) : Option Posted :=
  c.log.find? fun p => p.sequence = sequence

/-- Whether the channel still shows a message of that name. -/
def shows (c : ChannelState) (now : Timestamp) (id : MessageId) : Bool :=
  match c.index.get? id with
  | some sequence => (c.logged? sequence).any (·.isVisible now)
  | none => false

/-- The channel with a message logged under its name and queued for every subscriber. What the log
held under that name before is dropped from it. -/
def post (c : ChannelState) (p : Posted) : ChannelState :=
  let log := match c.index.get? p.message.id with
    | some sequence => c.log.filter (·.sequence ≠ sequence)
    | none => c.log
  { c with
    log := log ++ [p]
    index := c.index.insert p.message.id p.sequence
    subscribers := c.subscribers.map fun s => { s with queue := s.queue ++ [p] } }

end ChannelState

namespace Memory

/-- An engine without contents. -/
def empty : Memory := ⟨∅, ∅, 0, []⟩

instance : Inhabited Memory := ⟨empty⟩

/-- The state of a channel with the given definition, fresh if the engine does not know it. -/
def channelFor (m : Memory) (channel : Channel) : ChannelState :=
  match m.channels.get? channel.id with
  | some c => { c with channel := channel }
  | none => ChannelState.start channel

/-- The engine with the state of a channel replaced. -/
def withChannel (m : Memory) (id : ChannelId) (c : ChannelState) : Memory :=
  { m with channels := m.channels.insert id c }

/-! ## Bells -/

/-- The bell at a place. -/
def bell (m : Memory) (b : BellId) : Bell := m.bells.getD b Bell.fresh

/-- The engine with a bell changed. -/
def onBell (m : Memory) (b : BellId) (f : Bell → Bell) : Memory :=
  { m with bells := m.bells.modify b f }

/-- The engine with a bell more, and the place of that bell. -/
def addBell (m : Memory) : Memory × BellId :=
  ({ m with bells := m.bells ++ [Bell.fresh] }, m.bells.length)

/-- Ring several bells one after the other. -/
def ringAll (m : Memory) (bells : List BellId) : Memory :=
  bells.foldl (fun m b => m.onBell b Bell.ring) m

/-! ## Publishing -/

/-- Publish a message to a channel. A message whose name the channel still shows is dropped. -/
def publish (m : Memory) (now : Timestamp) (channel : Channel) (message : Message) :
    Memory × Notice :=
  let sequence := m.nextSequence
  let m := { m with nextSequence := sequence + 1 }
  let c := m.channelFor channel
  if c.shows now message.id then
    -- the newest definition of the channel is kept all the same
    (m.withChannel channel.id c, .duplicate message.channel message.id)
  else
    let c := c.post ⟨sequence, message, now.plus channel.expire⟩
    let m := m.withChannel channel.id c
    (m.ringAll (c.subscribers.values.map (·.bell)),
      .published message.channel message.id c.subscribers.size)

/-! ## Draining -/

/-- Take the first visible messages off a queue, at most `n`, and drop the expired ones that stand
before or between them. -/
def takeVisible (now : Timestamp) : (n : Nat) → List Posted → List Posted × List Posted
  | 0, queue => ([], queue)
  | _ + 1, [] => ([], [])
  | n + 1, p :: queue =>
    if p.isVisible now then
      let (taken, rest) := takeVisible now n queue
      (p :: taken, rest)
    else takeVisible now (n + 1) queue

/-- What a look at a queue brings. -/
inductive Drained where
  /-- Messages to hand out. -/
  | messages (ms : List Message)
  /-- Nothing yet: the poll is blocked on the bell. -/
  | wait (bell : BellId)
  deriving DecidableEq

/-- The subscription of a channel, or a new one that starts with what the log shows. The third part
tells whether it is new. -/
def subscriptionFor (m : Memory) (now : Timestamp) (c : ChannelState) (id : SubscriberId) :
    Memory × Subscription × Bool :=
  match c.subscribers.get? id with
  | some s => (m, s, false)
  | none =>
    let (m, b) := m.addBell
    (m, ⟨c.log.filter (·.isVisible now), now, b⟩, true)

/-- Look at the queue of a subscriber, and register the subscriber if it is new. At most `max`
messages are handed out; if there are none, the poll is blocked on the bell of the subscriber. -/
def drain (m : Memory) (now : Timestamp) (channel : Channel) (locator : Locator) (max : Nat) :
    Memory × Drained × List Notice :=
  let c := m.channelFor channel
  let (m, s, isNew) := m.subscriptionFor now c locator.subscriber
  let (taken, queue) := takeVisible now max s.queue
  -- to look is to be active, whether something is found or not
  let s := { s with queue := queue, lastActivity := now }
  let c := { c with subscribers := c.subscribers.insert locator.subscriber s }
  let m := m.withChannel channel.id c
  let notices := if isNew then [Notice.subscriberCreated locator] else []
  match taken with
  | [] => (m.onBell s.bell Bell.block, .wait s.bell, notices)
  | taken =>
    (m, .messages (taken.map (·.message)), notices ++ [.delivered locator taken.length])

/-! ## Revocations -/

/-- Take note that a token is revoked. -/
def revoke (m : Memory) (exp : Timestamp) (jti : Jti) : Memory :=
  { m with revoked := m.revoked.insert jti exp }

/-- Whether a token is known to be revoked. -/
def isRevoked (m : Memory) (jti : Jti) : Bool := m.revoked.contains jti

/-! ## Counts -/

/-- The number of subscribers of all channels. -/
def subscriberCount (m : Memory) : Nat :=
  m.channels.total (·.subscribers.size)

end Memory

end LongPoll
