import LongPoll.Proofs.Engine.Passes
import LongPoll.Proofs.Engine.Pending
import LongPoll.Proofs.Engine.Visit
/-!
# Chronicles

A chronicle is an engine together with its past: the publishes that it has accepted, and the
messages that it has handed out to each subscriber since the subscriber was registered. Nothing is
assumed of the outside: the clock may jump, also backwards, and looking channels up may answer
differently each time.

`Chronicle.Faithful` relates the engine to its past, and every deed keeps it:

* logs and queues hold accepted publishes of the channel that they are filed under;
* what a subscriber was handed, followed by what its queue holds, stands in the order of publishing.

Hence a drain can neither hand a message out again nor hand one out that was published before
another which was handed out already.
-/

namespace LongPoll

namespace Memory

/-- The messages that a look at a queue has brought. -/
def Drained.delivered : Drained → List Message
  | messages ms => ms
  | wait _ => []

/-- The queue of a consumer, which is empty if there is no subscription. -/
def queueOf (m : Memory) (l : Locator) : List Posted := (m.subscription? l).elim [] (·.queue)

section QueueOf

variable {m m' : Memory} {now : Timestamp} {channel : Channel} {message : Message} {l : Locator}

theorem queueOf_congr (h : m.channels = m'.channels) (l : Locator) :
    m.queueOf l = m'.queueOf l := by
  rw [queueOf, queueOf, subscription?_congr h]

/-- The queue of a consumer with a subscription is that of the subscription. -/
theorem queueOf_of_subscription? {s : Subscription} (h : m.subscription? l = some s) :
    m.queueOf l = s.queue := by
  rw [queueOf, h]
  rfl

/-- A duplicate goes into no queue. -/
theorem queueOf_publish_of_shows (h : (m.channelFor channel).shows now message.id = true) :
    (m.publish now channel message).1.queueOf l = m.queueOf l := by
  rw [queueOf, subscription?_publish_of_shows h, queueOf]

/-- A publish that is accepted goes to the end of the queues of its channel, if anywhere. -/
theorem queueOf_publish (h : (m.channelFor channel).shows now message.id = false) :
    (m.publish now channel message).1.queueOf l = m.queueOf l ∨
      channel.id = l.channel ∧ (m.publish now channel message).1.queueOf l =
        m.queueOf l ++ [m.posted now channel message] := by
  unfold queueOf
  rw [subscription?_publish h]
  split
  next hid =>
    cases m.subscription? l with
    | none => exact Or.inl rfl
    | some s => exact Or.inr ⟨hid, rfl⟩
  next => exact Or.inl rfl

/-- A look at a queue changes no other. -/
theorem queueOf_looked (hid : channel.id = l.channel) (n : Nat) (l' : Locator) :
    (m.looked now channel l.subscriber n).queueOf l' =
      if l' = l then (m.seatAfter now channel l.subscriber n).queue else m.queueOf l' := by
  unfold queueOf
  rw [subscription?_looked, Locator.mk_subscriber hid]
  split <;> rfl

/-- To remove garbage adds nothing to a queue. -/
theorem Thins.queueOf_sublist {m' : Memory} (h : m.Thins m') (l : Locator) :
    (m'.queueOf l).Sublist (m.queueOf l) := by
  cases hs : m'.subscription? l with
  | none =>
    rw [queueOf, hs]
    exact List.nil_sublist _
  | some s =>
    obtain ⟨s₀, hs₀, hqueue, -⟩ := h.subscription hs
    rw [queueOf_of_subscription? hs, queueOf_of_subscription? hs₀]
    exact hqueue

end QueueOf

/-- What a publish of an engine in good order leaves in a log was there before or is new. -/
theorem Indexed.mem_logOf_publish {m : Memory} (h : m.Indexed) {now : Timestamp}
    {channel : Channel} {message : Message}
    (hshows : (m.channelFor channel).shows now message.id = false) {id : ChannelId} {p : Posted}
    (hp : p ∈ (m.publish now channel message).1.logOf id) :
    p ∈ m.logOf id ∨ channel.id = id ∧ p = m.posted now channel message := by
  rw [logOf_publish hshows] at hp
  split at hp
  next hid =>
    subst hid
    rw [h.log_post, List.mem_append, List.mem_filter, List.mem_singleton] at hp
    exact hp.imp And.left fun hnew => ⟨rfl, hnew⟩
  next => exact Or.inl hp

/-- Whether a look at a queue brings messages or blocks the poll, it takes what it takes. -/
theorem drain_frame (m : Memory) (now : Timestamp) (channel : Channel) (l : Locator) (n : Nat) :
    (m.drain now channel l n).1.channels = (m.looked now channel l.subscriber n).channels ∧
      (m.drain now channel l n).1.nextSequence = m.nextSequence ∧
      (m.drain now channel l n).2.1.delivered =
        (m.taken now channel l.subscriber n).map (·.message) := by
  by_cases h : m.taken now channel l.subscriber n = []
  · obtain ⟨notices, heq⟩ := m.drain_of_nothing now channel l n h
    rw [heq, h]
    exact ⟨rfl, rfl, rfl⟩
  · obtain ⟨notices, heq⟩ := m.drain_of_taken now channel l n h
    rw [heq]
    exact ⟨rfl, rfl, rfl⟩

end Memory

/-- What is done to an engine, with all that it reads from outside. -/
inductive Deed where
  /-- Publish a message to its channel, if that is found. -/
  | publish (now : Timestamp) (resolver : Resolver) (message : Message)
  /-- Look at the queue of a subscriber for a poll. The poll goes by the channel that was found when
  it started, if one was found. -/
  | drain (now : Timestamp) (resolver : Resolver) (locator : Locator) (max : Nat)
  /-- Run a pass that collects garbage, until there is none left or the time is over. -/
  | collect (now : Timestamp) (resolver : Resolver) (pace : Pace)
  /-- Take note that a token is revoked. -/
  | revoke (exp : Timestamp) (jti : Jti)
  /-- Change a bell in any way, as polls do that wait, resume or are dropped. -/
  | signal (bell : BellId) (change : Bell → Bell)

/-- An engine and its past. -/
structure Chronicle where
  /-- The engine. -/
  memory : Memory
  /-- The publishes that were not taken for duplicates, in order. -/
  accepted : List Posted
  /-- The messages that drains have handed out to a subscriber since it was last registered. -/
  handed : Locator → List Message

namespace Chronicle

/-- The chronicle of an engine without a past. -/
def start : Chronicle := ⟨.empty, [], fun _ => []⟩

/-- Publish a message. -/
def publish (c : Chronicle) (now : Timestamp) (channel : Channel) (message : Message) :
    Chronicle :=
  match c.memory.publish now channel message with
  | (m, .duplicate ..) => { c with memory := m }
  | (m, _) =>
    { c with memory := m, accepted := c.accepted ++ [c.memory.posted now channel message] }

section Publish

variable {c : Chronicle} {now : Timestamp} {channel : Channel} {message : Message}

/-- A duplicate adds nothing to the accepted publishes. -/
theorem publish_of_shows (h : (c.memory.channelFor channel).shows now message.id = true) :
    c.publish now channel message =
      { c with memory := (c.memory.publish now channel message).1 } := by
  have hfor : { c.memory with nextSequence := c.memory.nextSequence + 1 }.channelFor channel =
      c.memory.channelFor channel := Memory.channelFor_congr rfl channel
  simp only [publish, Memory.publish, hfor, h, if_true]

/-- A publish of any other name is accepted. -/
theorem publish_of_not_shows (h : (c.memory.channelFor channel).shows now message.id = false) :
    c.publish now channel message =
      { c with
        memory := (c.memory.publish now channel message).1
        accepted := c.accepted ++ [c.memory.posted now channel message] } := by
  have hfor : { c.memory with nextSequence := c.memory.nextSequence + 1 }.channelFor channel =
      c.memory.channelFor channel := Memory.channelFor_congr rfl channel
  simp only [publish, Memory.publish, hfor, h, Bool.false_eq_true, if_false]

end Publish

/-- What a subscriber was handed that is still registered. -/
def known (c : Chronicle) (l : Locator) : List Message :=
  if (c.memory.subscription? l).isSome then c.handed l else []

/-- Look at a queue. The past of a subscriber begins anew if it has to be registered. -/
def drain (c : Chronicle) (now : Timestamp) (channel : Channel) (l : Locator) (max : Nat) :
    Chronicle :=
  let (m, drained, _) := c.memory.drain now channel l max
  { c with
    memory := m
    handed := fun l' => if l' = l then c.known l ++ drained.delivered else c.handed l' }

/-- Do one thing. -/
def perform (c : Chronicle) : Deed → Chronicle
  | .publish now resolver message =>
    match resolver.find message.channel with
    | .ok channel => c.publish now channel message
    | .error _ => c
  | .drain now resolver locator max =>
    match resolver.find locator.channel with
    | .ok channel => c.drain now channel locator max
    | .error _ => c
  | .collect now resolver pace =>
    { c with memory :=
        (c.memory.collectWithin pace now fun id => (resolver.find id).toOption).memory }
  | .revoke exp jti => { c with memory := c.memory.revoke exp jti }
  | .signal bell change => { c with memory := c.memory.onBell bell change }

/-- Do one thing after the other. -/
def run (c : Chronicle) (deeds : List Deed) : Chronicle := deeds.foldl perform c

/-! ### Faithful chronicles -/

/-- The engine holds accepted publishes where they belong, and each subscriber gets them in
order. -/
structure Faithful (c : Chronicle) : Prop where
  /-- Every log and its index agree. -/
  indexed : c.memory.Indexed
  /-- The accepted publishes stand in the order of publishing. -/
  inOrder : InOrder c.accepted
  /-- The accepted publishes have places in the order of all publishes so far. -/
  bounded : ∀ p ∈ c.accepted, p.sequence < c.memory.nextSequence
  /-- A log holds accepted publishes of its channel. -/
  logged : ∀ id, ∀ p ∈ c.memory.logOf id, p ∈ c.accepted ∧ p.message.channel = id
  /-- A queue holds accepted publishes of its channel. -/
  queued : ∀ l, ∀ p ∈ c.memory.queueOf l, p ∈ c.accepted ∧ p.message.channel = l.channel
  /-- What a subscriber was handed comes before what its queue holds, all in the order of
  publishing. -/
  handed : ∀ l, ∃ ps, (∀ p ∈ ps, p ∈ c.accepted) ∧ ps.map (·.message) = c.handed l ∧
    InOrder (ps ++ c.memory.queueOf l)

/-- The engine without a past has nothing to be faithful to. -/
theorem faithful_start : start.Faithful where
  indexed := Memory.indexed_empty
  inOrder := List.Pairwise.nil
  bounded := by simp [start]
  logged _ := by simp [start, Memory.logOf, Memory.empty]
  queued _ := by simp [start, Memory.queueOf, Memory.subscription?, Memory.empty]
  handed _ := ⟨[], by simp, rfl, List.Pairwise.nil⟩

namespace Faithful

variable {c : Chronicle} {now : Timestamp} {channel : Channel} {message : Message} {l : Locator}

/-- Bells and revocations play no part. -/
theorem congr (h : c.Faithful) {m : Memory} (hchannels : m.channels = c.memory.channels)
    (hnext : m.nextSequence = c.memory.nextSequence) : { c with memory := m }.Faithful where
  indexed := by
    simp only [Memory.Indexed, hchannels, hnext]
    exact h.indexed
  inOrder := h.inOrder
  bounded := by simpa only [hnext] using h.bounded
  logged id := by simpa only [Memory.logOf_congr hchannels] using h.logged id
  queued l := by simpa only [Memory.queueOf_congr hchannels] using h.queued l
  handed l := by simpa only [Memory.queueOf_congr hchannels] using h.handed l

/-- A duplicate is nowhere to be seen, but has a place in the order of publishing. -/
theorem publish_duplicate (h : c.Faithful)
    (hshows : (c.memory.channelFor channel).shows now message.id = true) :
    { c with memory := (c.memory.publish now channel message).1 }.Faithful where
  indexed := h.indexed.publish now channel message
  inOrder := h.inOrder
  bounded p hp := by
    rw [Memory.nextSequence_publish]
    exact Nat.lt_succ_of_lt (h.bounded p hp)
  logged id := by simpa only [Memory.logOf_publish_of_shows hshows] using h.logged id
  queued l := by simpa only [Memory.queueOf_publish_of_shows hshows] using h.queued l
  handed l := by simpa only [Memory.queueOf_publish_of_shows hshows] using h.handed l

/-- A publish that is accepted comes last in every respect. -/
theorem publish_accepted (h : c.Faithful) (hid : channel.id = message.channel)
    (hshows : (c.memory.channelFor channel).shows now message.id = false) :
    Faithful { c with
      memory := (c.memory.publish now channel message).1
      accepted := c.accepted ++ [c.memory.posted now channel message] } := by
  have hold : ∀ p ∈ c.accepted, p ∈ c.accepted ++ [c.memory.posted now channel message] :=
    fun p hp => List.mem_append_left _ hp
  -- the book of accepted publishes only grows, so what was in it is still there
  have hnew : c.memory.posted now channel message ∈
      c.accepted ++ [c.memory.posted now channel message] := List.mem_append_right _ (by simp)
  refine ⟨h.indexed.publish now channel message, h.inOrder.append h.bounded, ?_, ?_, ?_, ?_⟩
  · intro p hp
    rw [Memory.nextSequence_publish]
    rcases List.mem_append.mp hp with hp | hp
    · exact Nat.lt_succ_of_lt (h.bounded p hp)
    · rw [List.mem_singleton.mp hp]
      exact Nat.lt_succ_self _
  · intro id p hp
    rcases h.indexed.mem_logOf_publish hshows hp with hp | ⟨rfl, rfl⟩
    · exact (h.logged id p hp).imp_left (hold p)
    · exact ⟨hnew, hid.symm⟩
  · intro l p hp
    rcases Memory.queueOf_publish hshows with heq | ⟨hl, heq⟩ <;> rw [heq] at hp
    · exact (h.queued l p hp).imp_left (hold p)
    · rcases List.mem_append.mp hp with hp | hp
      · exact (h.queued l p hp).imp_left (hold p)
      · rw [List.mem_singleton.mp hp]
        exact ⟨hnew, hid.symm.trans hl⟩
  · intro l
    obtain ⟨ps, hps, hmap, horder⟩ := h.handed l
    refine ⟨ps, fun p hp => hold p (hps p hp), hmap, ?_⟩
    rcases Memory.queueOf_publish hshows with heq | ⟨-, heq⟩ <;> rw [heq]
    · exact horder
    · -- whatever was handed out or is queued has a place before the next one
      rw [← List.append_assoc]
      refine horder.append fun p hp => h.bounded p ?_
      rcases List.mem_append.mp hp with hp | hp
      · exact hps p hp
      · exact (h.queued l p hp).1

/-- A publish keeps a chronicle faithful. -/
theorem publish (h : c.Faithful) (hid : channel.id = message.channel) :
    (c.publish now channel message).Faithful := by
  cases hshows : (c.memory.channelFor channel).shows now message.id with
  | true =>
    rw [publish_of_shows hshows]
    exact h.publish_duplicate hshows
  | false =>
    rw [publish_of_not_shows hshows]
    exact h.publish_accepted hid hshows

/-- What a drain finds comes after what its subscriber was handed before, if anything. -/
theorem seat (h : c.Faithful) (now : Timestamp) (hid : channel.id = l.channel) :
    (∀ p ∈ (c.memory.seat now channel l.subscriber).queue,
      p ∈ c.accepted ∧ p.message.channel = l.channel) ∧
    ∃ ps, (∀ p ∈ ps, p ∈ c.accepted) ∧ ps.map (·.message) = c.known l ∧
      InOrder (ps ++ (c.memory.seat now channel l.subscriber).queue) := by
  unfold Memory.seat known
  rw [Locator.mk_subscriber hid]
  cases hs : c.memory.subscription? l with
  | some s =>
    have hqueued := h.queued l
    have hhanded := h.handed l
    rw [Memory.queueOf_of_subscription? hs] at hqueued hhanded
    exact ⟨hqueued, hhanded⟩
  | none =>
    -- a new subscriber was handed nothing yet, and its queue is part of the log
    refine ⟨fun p hp => ?_, [], by simp, rfl, ?_⟩
    · rw [← hid]
      exact h.logged channel.id p (List.mem_of_mem_filter hp)
    · exact (h.indexed.inOrder_logOf channel.id).sublist List.filter_sublist

/-- A drain hands out the front of what it finds. -/
theorem drain (h : c.Faithful) (hid : channel.id = l.channel) (n : Nat) :
    (c.drain now channel l n).Faithful := by
  obtain ⟨hchannels, hnext, hdelivered⟩ := c.memory.drain_frame now channel l n
  obtain ⟨hqueue, ps, hps, hmap, horder⟩ := h.seat now hid
  have hsplit := Memory.append_takeVisible_sublist now n
    (c.memory.seat now channel l.subscriber).queue
  refine ⟨h.indexed.of_looked hchannels hnext, h.inOrder, ?_, ?_, ?_, ?_⟩
  · intro p hp
    exact Nat.lt_of_lt_of_eq (h.bounded p hp) hnext.symm
  · intro id
    rw [Chronicle.drain, Memory.logOf_congr hchannels, Memory.logOf_looked]
    exact h.logged id
  -- the queue that was looked at keeps a part of what was found, and others are as they were
  · intro l' p hp
    rw [Chronicle.drain, Memory.queueOf_congr hchannels, Memory.queueOf_looked hid] at hp
    split at hp
    next heq =>
      subst heq
      exact hqueue p (hsplit.subset (List.mem_append_right _ hp))
    next => exact h.queued l' p hp
  · intro l'
    rw [Chronicle.drain, Memory.queueOf_congr hchannels, Memory.queueOf_looked hid]
    dsimp only
    split
    next =>
      -- what was handed out before, what is handed out now and what stays are in order
      refine ⟨ps ++ c.memory.taken now channel l.subscriber n, ?_, ?_, ?_⟩
      · intro p hp
        rcases List.mem_append.mp hp with hp | hp
        · exact hps p hp
        · exact (hqueue p (hsplit.subset (List.mem_append_left _ hp))).1
      · rw [List.map_append, hmap, hdelivered]
      · rw [List.append_assoc]
        exact horder.sublist (hsplit.append_left ps)
    next => exact h.handed l'

/-- To remove garbage from logs and queues leaves the rest in order. -/
theorem thin (h : c.Faithful) {m : Memory} (hthins : c.memory.Thins m) :
    { c with memory := m }.Faithful where
  indexed := hthins.indexed h.indexed
  inOrder := h.inOrder
  bounded := by simpa only [hthins.nextSequence_eq] using h.bounded
  logged id p hp := h.logged id p ((hthins.logOf_sublist id).subset hp)
  queued l p hp := h.queued l p ((hthins.queueOf_sublist l).subset hp)
  handed l := by
    obtain ⟨ps, hps, hmap, horder⟩ := h.handed l
    exact ⟨ps, hps, hmap, horder.sublist ((hthins.queueOf_sublist l).append_left ps)⟩

/-- Every deed keeps a chronicle faithful. -/
theorem perform (h : c.Faithful) (deed : Deed) : (c.perform deed).Faithful := by
  unfold Chronicle.perform
  cases deed with
  | publish now resolver message =>
    dsimp only
    cases hfind : resolver.find message.channel with
    | error e => exact h
    | ok channel => exact h.publish (resolver.id_of_find hfind)
  | drain now resolver l max =>
    dsimp only
    cases hfind : resolver.find l.channel with
    | error e => exact h
    | ok channel => exact h.drain (resolver.id_of_find hfind) max
  | collect now resolver pace => exact h.thin (c.memory.thins_collectWithin _ _ pace)
  | revoke exp jti => exact h.congr rfl rfl
  | signal bell change => exact h.congr rfl rfl

/-- Any number of deeds keeps a chronicle faithful. -/
theorem run (h : c.Faithful) (deeds : List Deed) : (c.run deeds).Faithful := by
  induction deeds generalizing c with
  | nil => exact h
  | cons deed deeds ih => exact ih (h.perform deed)

end Faithful

end Chronicle

/-- At every moment of an engine, whatever the clock shows and whatever looking channels up answers:
the index of a channel finds the places of its logged messages and nothing else, logs and queues
stand in the order of publishing and hold messages of their own channel, and every subscriber has
been handed accepted publishes in the order of publishing since it was registered. -/
theorem handed_in_order (deeds : List Deed) :
    (∀ id c, (Chronicle.start.run deeds).memory.channels.get? id = some c →
      (∀ name place, c.index.get? name = some place ↔
        ∃ p, c.logged? place = some p ∧ p.message.id = name) ∧
      InOrder c.log ∧
      (∀ p ∈ c.log, p.sequence < (Chronicle.start.run deeds).memory.nextSequence ∧
        p.message.channel = id) ∧
      ∀ s subscription, c.subscribers.get? s = some subscription →
        InOrder subscription.queue ∧ ∀ p ∈ subscription.queue, p.message.channel = id) ∧
    InOrder (Chronicle.start.run deeds).accepted ∧
    ∀ l, ∃ ps, (∀ p ∈ ps, p ∈ (Chronicle.start.run deeds).accepted) ∧ InOrder ps ∧
      ps.map (·.message) = (Chronicle.start.run deeds).handed l := by
  -- the invariant of the chronicle says all of this, in terms of what it has written down
  have h := Chronicle.faithful_start.run deeds
  refine ⟨fun id c hget => ?_, h.inOrder, fun l => ?_⟩
  · have hindexed := h.indexed id c hget
    have hlog : (Chronicle.start.run deeds).memory.logOf id = c.log := Memory.logOf_of_get? hget
    refine ⟨fun name place => hindexed.get?_index_iff, hindexed.inOrder, fun p hp => ?_, ?_⟩
    · exact ⟨hindexed.bounded p hp, (h.logged id p (hlog ▸ hp)).2⟩
    · intro s subscription hs
      have hqueue : (Chronicle.start.run deeds).memory.queueOf ⟨id, s⟩ = subscription.queue :=
        Memory.queueOf_of_subscription? (Option.bind_eq_some_iff.mpr ⟨c, hget, hs⟩)
      obtain ⟨ps, -, -, horder⟩ := h.handed ⟨id, s⟩
      rw [hqueue] at horder
      refine ⟨horder.sublist (List.sublist_append_right _ _), fun p hp => ?_⟩
      exact (h.queued ⟨id, s⟩ p (hqueue ▸ hp)).2
  · obtain ⟨ps, hps, hmap, horder⟩ := h.handed l
    exact ⟨ps, hps, horder.sublist (List.sublist_append_left _ _), hmap⟩

end LongPoll
