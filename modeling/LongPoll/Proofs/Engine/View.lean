import Mathlib.Data.List.Basic
import LongPoll.Storage.Collect
import LongPoll.Storage.Poll
/-!
# Views of a memory engine

What a memory engine does is said by two views of it: the log of each channel (`Memory.logOf`) and
the subscription of each consumer (`Memory.subscription?`). A channel that the engine does not know
has an empty log and no subscriptions, so the removal of a vacant channel shows in neither view.

Each operation has one lemma for each view:

* a publish appends to one log and to the queues of one channel (`logOf_publish`,
  `subscription?_publish`), or changes neither view if the message is a duplicate;
* a look at a queue leaves every log alone and changes one subscription (`logOf_looked`,
  `subscription?_looked`);
* a poll shows what its first look shows, whatever becomes of it (`look_cases`, `look_frame`,
  `subscription?_look`);
* a pass that collects garbage filters every log and every queue by one bound for each channel, and
  drops idle subscriptions (`logOf_collect`, `subscription?_collect`).
-/

namespace LongPoll

/-- Posting a message changes no bell. -/
theorem ChannelState.bells_post (c : ChannelState) (p : Posted) :
    (c.post p).subscribers.values.map Subscription.bell =
      c.subscribers.values.map Subscription.bell := by
  simp [post, Table.values, Table.map, Table.mapEntries, Function.comp_def]

/-- Posting a message changes the number of subscribers neither. -/
theorem ChannelState.size_subscribers_post (c : ChannelState) (p : Posted) :
    (c.post p).subscribers.size = c.subscribers.size := by
  simp [post, Table.size, Table.map, Table.mapEntries]

/-- Polls name the channel that was found for a locator, not the locator itself. -/
theorem Locator.mk_subscriber {l : Locator} {id : ChannelId} (h : id = l.channel) :
    (⟨id, l.subscriber⟩ : Locator) = l := by
  rw [h]

namespace Memory

/-- The log of a channel, which is empty if the engine does not know the channel. -/
def logOf (m : Memory) (id : ChannelId) : List Posted :=
  match m.channels.get? id with
  | some c => c.log
  | none => []

/-- The log of a channel that the engine knows is the one filed there. -/
theorem logOf_of_get? {m : Memory} {id : ChannelId} {c : ChannelState}
    (h : m.channels.get? id = some c) : m.logOf id = c.log := by
  rw [logOf, h]

/-- The subscription of a consumer, if there is one. -/
def subscription? (m : Memory) (l : Locator) : Option Subscription :=
  (m.channels.get? l.channel).bind fun c => c.subscribers.get? l.subscriber

section Congruence

variable {m m' : Memory} (h : m.channels = m'.channels)

include h

theorem logOf_congr (id : ChannelId) : m.logOf id = m'.logOf id := by
  simp only [logOf, h]

theorem subscription?_congr (l : Locator) : m.subscription? l = m'.subscription? l := by
  simp only [subscription?, h]

theorem channelFor_congr (channel : Channel) : m.channelFor channel = m'.channelFor channel := by
  simp only [channelFor, h]

end Congruence

/-! ### A channel under a new definition -/

section ChannelFor

variable (m : Memory) (channel : Channel)

@[simp]
theorem channel_channelFor : (m.channelFor channel).channel = channel := by
  unfold channelFor
  cases m.channels.get? channel.id <;> rfl

@[simp]
theorem log_channelFor : (m.channelFor channel).log = m.logOf channel.id := by
  unfold channelFor logOf
  cases m.channels.get? channel.id <;> rfl

@[simp]
theorem get?_subscribers_channelFor (s : SubscriberId) :
    (m.channelFor channel).subscribers.get? s = m.subscription? ⟨channel.id, s⟩ := by
  unfold channelFor subscription?
  cases m.channels.get? channel.id <;> rfl

/-- A channel under the definition by which it is filed is found as it is. -/
theorem channelFor_of_get? {c : ChannelState} (h : m.channels.get? channel.id = some c)
    (hc : c.channel = channel) : m.channelFor channel = c := by
  unfold channelFor
  rw [h, ← hc]

end ChannelFor

section WithChannel

variable (m : Memory) (id : ChannelId) (c : ChannelState)

/-- Filing a channel changes the log of that channel only. -/
theorem logOf_withChannel (id' : ChannelId) :
    (m.withChannel id c).logOf id' = if id = id' then c.log else m.logOf id' := by
  unfold logOf withChannel
  by_cases h : id = id' <;> simp [Table.get?_insert, h]

/-- Filing a channel changes the subscriptions of that channel only. -/
theorem subscription?_withChannel (l : Locator) :
    (m.withChannel id c).subscription? l =
      if id = l.channel then c.subscribers.get? l.subscriber else m.subscription? l := by
  unfold subscription? withChannel
  by_cases h : id = l.channel <;> simp [Table.get?_insert, h]

/-- To file a channel as it is filed already changes nothing. -/
theorem withChannel_of_get? (h : m.channels.get? id = some c) : m.withChannel id c = m := by
  unfold withChannel
  rw [Table.insert_of_get? h]

end WithChannel

/-! ### Bells -/

section Bells

variable (m : Memory) (b : BellId)

@[simp]
theorem channels_onBell (f : Bell → Bell) : (m.onBell b f).channels = m.channels := rfl

@[simp]
theorem nextSequence_onBell (f : Bell → Bell) : (m.onBell b f).nextSequence = m.nextSequence := rfl

@[simp]
theorem length_bells_onBell (f : Bell → Bell) :
    (m.onBell b f).bells.length = m.bells.length := by
  simp [onBell]

theorem onBell_onBell (f g : Bell → Bell) :
    (m.onBell b f).onBell b g = m.onBell b fun x => g (f x) := by
  simp only [onBell, List.modify_modify_eq, Function.comp_def]

/-- A bell that there is changes as it is told. -/
theorem bell_onBell_of_lt (h : b < m.bells.length) (f : Bell → Bell) :
    (m.onBell b f).bell b = f (m.bell b) := by
  simp [onBell, bell, List.getD_eq_getElem?_getD, h]

theorem bell_onBell_of_ne {b' : BellId} (h : b ≠ b') (f : Bell → Bell) :
    (m.onBell b f).bell b' = m.bell b' := by
  simp [onBell, bell, List.getD_eq_getElem?_getD, h]

theorem onBell_of_eq_self {f : Bell → Bell} (hf : ∀ x, f x = x) : m.onBell b f = m := by
  rw [onBell, funext hf]
  exact congrArg (fun bells => { m with bells := bells }) (List.modify_id ..)

/-- Replacing a bell by its value under `f` is the same as changing it by `f`. -/
theorem onBell_const (f : Bell → Bell) :
    (m.onBell b fun _ => f (m.bell b)) = m.onBell b f := by
  unfold onBell
  congr 1
  refine List.ext_getElem? fun i => ?_
  rw [List.getElem?_modify, List.getElem?_modify]
  -- past the end of the list of bells, nothing is there to be changed by either
  by_cases hi : b = i
  · subst hi
    cases hb : m.bells[b]? with
    | none => rfl
    | some x => simp [bell, List.getD_eq_getElem?_getD, hb]
  · simp [hi]

/-- To ring bells is no matter of channels. -/
@[simp]
theorem channels_ringAll (bells : List BellId) : (m.ringAll bells).channels = m.channels := by
  unfold ringAll
  induction bells generalizing m with
  | nil => rfl
  | cons b bells ih => rw [List.foldl_cons, ih, channels_onBell]

/-- To ring bells is no matter of the order of publishes. -/
@[simp]
theorem nextSequence_ringAll (bells : List BellId) :
    (m.ringAll bells).nextSequence = m.nextSequence := by
  unfold ringAll
  induction bells generalizing m with
  | nil => rfl
  | cons b bells ih => rw [List.foldl_cons, ih, nextSequence_onBell]

end Bells

/-! ### Publishing -/

section Publish

variable {m : Memory} {now : Timestamp} {channel : Channel} {message : Message}

/-- The message as a publish keeps it. -/
def posted (m : Memory) (now : Timestamp) (channel : Channel) (message : Message) : Posted :=
  ⟨m.nextSequence, message, now.plus channel.expire⟩

/-- A publish of a name that is shown files the channel under its new definition, and nothing
else. -/
theorem publish_of_shows (h : (m.channelFor channel).shows now message.id = true) :
    (m.publish now channel message).1 =
      { m with nextSequence := m.nextSequence + 1 }.withChannel channel.id
        (m.channelFor channel) := by
  have hfor : { m with nextSequence := m.nextSequence + 1 }.channelFor channel =
      m.channelFor channel := channelFor_congr rfl channel
  simp only [publish, hfor, h, if_true]

/-- A publish of any other name posts the message and rings the bells of all subscribers. -/
theorem publish_of_not_shows (h : (m.channelFor channel).shows now message.id = false) :
    (m.publish now channel message).1 =
      ({ m with nextSequence := m.nextSequence + 1 }.withChannel channel.id
        ((m.channelFor channel).post (m.posted now channel message))).ringAll
          ((m.channelFor channel).subscribers.values.map Subscription.bell) := by
  have hfor : { m with nextSequence := m.nextSequence + 1 }.channelFor channel =
      m.channelFor channel := channelFor_congr rfl channel
  -- the bells are read off the channel after the message was posted, which are the same ones
  rw [← ChannelState.bells_post _ (m.posted now channel message)]
  simp only [publish, hfor, h]
  rfl

/-- A duplicate takes a place in the order of all publishes, and shows in no other way. -/
theorem get?_channels_publish_of_shows
    (h : (m.channelFor channel).shows now message.id = true) (id : ChannelId) :
    (m.publish now channel message).1.channels.get? id =
      if channel.id = id then some (m.channelFor channel) else m.channels.get? id := by
  rw [publish_of_shows h]
  exact Table.get?_insert ..

/-- A message that is no duplicate is posted to its channel, and other channels are as they were. -/
theorem get?_channels_publish_of_not_shows
    (h : (m.channelFor channel).shows now message.id = false) (id : ChannelId) :
    (m.publish now channel message).1.channels.get? id =
      if channel.id = id then some ((m.channelFor channel).post (m.posted now channel message))
      else m.channels.get? id := by
  rw [publish_of_not_shows h, channels_ringAll]
  exact Table.get?_insert ..

/-- Every publish takes one place in the order of all. -/
@[simp]
theorem nextSequence_publish :
    (m.publish now channel message).1.nextSequence = m.nextSequence + 1 := by
  cases h : (m.channelFor channel).shows now message.id with
  | true => rw [publish_of_shows h]; rfl
  | false => rw [publish_of_not_shows h, nextSequence_ringAll]; rfl

/-- A duplicate does not show in the logs. -/
theorem logOf_publish_of_shows (h : (m.channelFor channel).shows now message.id = true)
    (id : ChannelId) : (m.publish now channel message).1.logOf id = m.logOf id := by
  rw [publish_of_shows h, logOf_withChannel]
  split
  next heq => rw [log_channelFor, heq]
  next => rfl

/-- A duplicate does not show in the subscriptions. -/
theorem subscription?_publish_of_shows (h : (m.channelFor channel).shows now message.id = true)
    (l : Locator) : (m.publish now channel message).1.subscription? l = m.subscription? l := by
  rw [publish_of_shows h, subscription?_withChannel]
  split
  next heq => rw [get?_subscribers_channelFor, heq]
  next => rfl

/-- A message that is no duplicate goes to the end of the log of its channel. -/
theorem logOf_publish (h : (m.channelFor channel).shows now message.id = false)
    (id : ChannelId) : (m.publish now channel message).1.logOf id =
      if channel.id = id then
        ((m.channelFor channel).post (m.posted now channel message)).log
      else m.logOf id := by
  rw [publish_of_not_shows h, logOf_congr (channels_ringAll ..), logOf_withChannel]
  rfl

/-- A message that is no duplicate goes to the end of every queue of its channel. -/
theorem subscription?_publish (h : (m.channelFor channel).shows now message.id = false)
    (l : Locator) : (m.publish now channel message).1.subscription? l =
      if channel.id = l.channel then
        (m.subscription? l).map fun s =>
          { s with queue := s.queue ++ [m.posted now channel message] }
      else m.subscription? l := by
  rw [publish_of_not_shows h, subscription?_congr (channels_ringAll ..),
    subscription?_withChannel]
  split
  next heq =>
    rw [ChannelState.post, Table.get?_map, get?_subscribers_channelFor, heq]
  next => rfl

/-- The channels after a publish are those before it, apart from the one it is about. -/
theorem get?_channels_publish_cases {id : ChannelId} {c : ChannelState}
    (h : (m.publish now channel message).1.channels.get? id = some c) :
    channel.id = id ∧ c.channel = channel ∨ m.channels.get? id = some c := by
  -- in both cases the channel of the publish is put in and nothing else is touched
  cases hshows : (m.channelFor channel).shows now message.id with
  | true =>
    rw [get?_channels_publish_of_shows hshows] at h
    split at h
    next heq =>
      rw [← Option.some.inj h]
      exact Or.inl ⟨heq, channel_channelFor ..⟩
    next => exact Or.inr h
  | false =>
    rw [get?_channels_publish_of_not_shows hshows] at h
    split at h
    next heq =>
      rw [← Option.some.inj h]
      exact Or.inl ⟨heq, channel_channelFor ..⟩
    next => exact Or.inr h

/-- A publish makes no subscription and changes no more than queues. -/
theorem subscription?_publish_some {l : Locator} {s : Subscription}
    (hshows : (m.channelFor channel).shows now message.id = false)
    (h : (m.publish now channel message).1.subscription? l = some s) :
    ∃ s₀, m.subscription? l = some s₀ ∧
      s.queue =
        s₀.queue ++ (if channel.id = l.channel then [m.posted now channel message] else []) ∧
      s.lastActivity = s₀.lastActivity ∧ s.bell = s₀.bell := by
  rw [subscription?_publish hshows] at h
  split at h
  next heq =>
    obtain ⟨s₀, hs₀, rfl⟩ := Option.map_eq_some_iff.mp h
    rw [if_pos heq]
    exact ⟨s₀, hs₀, rfl, rfl, rfl⟩
  next hne =>
    rw [if_neg hne]
    exact ⟨s, h, (List.append_nil _).symm, rfl, rfl⟩

/-- A publish neither makes nor drops a subscription. -/
theorem subscription?_publish_eq_none_iff {l : Locator} :
    (m.publish now channel message).1.subscription? l = none ↔ m.subscription? l = none := by
  cases hshows : (m.channelFor channel).shows now message.id with
  | true => rw [subscription?_publish_of_shows hshows]
  | false =>
    rw [subscription?_publish hshows]
    split
    next => exact Option.map_eq_none_iff
    next => exact Iff.rfl

end Publish

/-! ### Taking messages off a queue -/

section TakeVisible

variable (now : Timestamp) (n : Nat) (queue : List Posted)

/-- What is taken are the first visible messages, as many as are wanted. -/
theorem fst_takeVisible :
    (takeVisible now n queue).1 = (queue.filter (·.isVisible now)).take n := by
  fun_induction takeVisible now n queue with
  | case1 => simp
  | case2 => simp
  | case3 n p queue h taken rest heq ih =>
    -- a visible message is taken
    simp only [heq] at ih
    simpa [h] using ih
  | case4 n p queue h ih =>
    -- an expired one is passed over and leaves the queue for good
    simpa [h] using ih

/-- What stays of the visible messages are those after the ones that are taken. -/
theorem filter_snd_takeVisible :
    (takeVisible now n queue).2.filter (·.isVisible now) =
      (queue.filter (·.isVisible now)).drop n := by
  fun_induction takeVisible now n queue with
  | case1 => simp
  | case2 => simp
  | case3 n p queue h taken rest heq ih =>
    simp only [heq] at ih
    simpa [h] using ih
  | case4 n p queue h ih => simpa [h] using ih

/-- What is taken and what stays are part of what was there, in the same order. -/
theorem append_takeVisible_sublist :
    ((takeVisible now n queue).1 ++ (takeVisible now n queue).2).Sublist queue := by
  fun_induction takeVisible now n queue with
  | case1 => exact List.Sublist.refl _
  | case2 => exact List.Sublist.refl _
  | case3 n p queue h taken rest heq ih =>
    simp only [heq] at ih
    exact ih.cons_cons p
  | case4 n p queue h ih => exact ih.cons _

theorem snd_takeVisible_sublist : (takeVisible now n queue).2.Sublist queue :=
  (List.sublist_append_right _ _).trans (append_takeVisible_sublist now n queue)

/-- What is taken and what stays are at most what was there. -/
theorem length_takeVisible_le :
    (takeVisible now n queue).1.length + (takeVisible now n queue).2.length ≤ queue.length := by
  rw [← List.length_append]
  exact (append_takeVisible_sublist now n queue).length_le

variable {now n queue}

/-- A queue off which nothing could be taken has been emptied. -/
theorem snd_takeVisible_of_fst_nil (hn : 0 < n) (h : (takeVisible now n queue).1 = []) :
    (takeVisible now n queue).2 = [] := by
  fun_induction takeVisible now n queue with
  | case1 => exact absurd hn (Nat.lt_irrefl 0)
  | case2 => rfl
  | case3 => exact absurd h (List.cons_ne_nil _ _)
  | case4 n p queue hp ih => exact ih (Nat.succ_pos n) h

/-- Where nothing could be taken, a second try takes nothing and leaves the queue as it is. -/
theorem takeVisible_again (h : (takeVisible now n queue).1 = []) :
    takeVisible now n (takeVisible now n queue).2 = ([], (takeVisible now n queue).2) := by
  rcases Nat.eq_zero_or_pos n with rfl | hn
  · simp [takeVisible]
  · -- a try for at least one message that takes none has emptied the queue
    rw [snd_takeVisible_of_fst_nil hn h]
    cases n with
    | zero => exact absurd hn (Nat.lt_irrefl 0)
    | succ n => simp [takeVisible]

end TakeVisible

/-! ### Looking at a queue -/

section Drain

variable (m : Memory) (now : Timestamp) (channel : Channel) (l : Locator) (n : Nat)

/-- The subscription that a look at a queue finds or makes. -/
def seat (m : Memory) (now : Timestamp) (channel : Channel) (s : SubscriberId) : Subscription :=
  (m.subscription? ⟨channel.id, s⟩).getD
    ⟨(m.logOf channel.id).filter (·.isVisible now), now, m.bells.length⟩

/-- The messages that a look at a queue takes. -/
def taken (m : Memory) (now : Timestamp) (channel : Channel) (s : SubscriberId) (n : Nat) :
    List Posted :=
  (takeVisible now n (m.seat now channel s).queue).1

/-- The subscription after a look at its queue. -/
def seatAfter (m : Memory) (now : Timestamp) (channel : Channel) (s : SubscriberId) (n : Nat) :
    Subscription :=
  { m.seat now channel s with
    queue := (takeVisible now n (m.seat now channel s).queue).2
    lastActivity := now }

/-- The bells after a look at a queue, apart from its count of the polls that are blocked. -/
def bellsAfter (m : Memory) (channel : Channel) (s : SubscriberId) : List Bell :=
  match m.subscription? ⟨channel.id, s⟩ with
  | some _ => m.bells
  | none => m.bells ++ [Bell.fresh]

/-- A look at a queue finds the subscription, or makes one with a bell of its own. -/
theorem subscriptionFor_eq (s : SubscriberId) :
    m.subscriptionFor now (m.channelFor channel) s =
      ({ m with bells := m.bellsAfter channel s }, m.seat now channel s,
        (m.subscription? ⟨channel.id, s⟩).isNone) := by
  unfold subscriptionFor bellsAfter seat
  rw [get?_subscribers_channelFor, log_channelFor]
  cases m.subscription? ⟨channel.id, s⟩ <;> rfl

/-- The engine after a look at a queue, before a poll that found nothing is blocked. -/
def looked (m : Memory) (now : Timestamp) (channel : Channel) (s : SubscriberId) (n : Nat) :
    Memory :=
  { m with bells := m.bellsAfter channel s }.withChannel channel.id
    { m.channelFor channel with
      subscribers :=
        (m.channelFor channel).subscribers.insert s (m.seatAfter now channel s n) }

/-- A look that takes messages gives them. -/
theorem drain_of_taken (h : m.taken now channel l.subscriber n ≠ []) :
    ∃ notices, m.drain now channel l n =
      (m.looked now channel l.subscriber n,
        .messages ((m.taken now channel l.subscriber n).map (·.message)), notices) := by
  unfold taken at h ⊢
  obtain ⟨p, ps, hp⟩ := List.exists_cons_of_ne_nil h
  simp only [drain, subscriptionFor_eq, hp]
  exact ⟨_, rfl⟩

/-- A look that takes no messages blocks the poll at the bell of its subscription. -/
theorem drain_of_nothing (h : m.taken now channel l.subscriber n = []) :
    ∃ notices, m.drain now channel l n =
      ((m.looked now channel l.subscriber n).onBell (m.seat now channel l.subscriber).bell
        Bell.block, .wait (m.seat now channel l.subscriber).bell, notices) := by
  unfold taken at h
  simp only [drain, subscriptionFor_eq, h]
  exact ⟨_, rfl⟩

/-- A look at a queue files the channel with its subscription, and leaves other channels as they
were. -/
theorem get?_channels_looked (s : SubscriberId) (id : ChannelId) :
    (m.looked now channel s n).channels.get? id =
      if channel.id = id then
        some { m.channelFor channel with
          subscribers :=
            (m.channelFor channel).subscribers.insert s (m.seatAfter now channel s n) }
      else m.channels.get? id := by
  unfold looked withChannel
  rw [Table.get?_insert]

/-- A look at a queue leaves every log alone. -/
@[simp]
theorem logOf_looked (s : SubscriberId) (id : ChannelId) :
    (m.looked now channel s n).logOf id = m.logOf id := by
  unfold looked
  rw [logOf_withChannel]
  split
  next heq => rw [log_channelFor, heq]
  next => rfl

/-- A look at a queue changes the subscription that it is about, and no other. -/
theorem subscription?_looked (s : SubscriberId) (l' : Locator) :
    (m.looked now channel s n).subscription? l' =
      if l' = ⟨channel.id, s⟩ then some (m.seatAfter now channel s n)
      else m.subscription? l' := by
  -- the channel is filed anew, with one subscription changed and the others as they were
  obtain ⟨id, s'⟩ := l'
  unfold looked
  rw [subscription?_withChannel]
  by_cases hid : channel.id = id
  · subst hid
    rw [if_pos rfl, Table.get?_insert, get?_subscribers_channelFor]
    by_cases hs : s = s'
    · subst hs
      simp
    · have hne : s' ≠ s := fun heq => hs heq.symm
      simp [hs, hne]
  · have hne : id ≠ channel.id := fun heq => hid heq.symm
    rw [if_neg hid, if_neg fun heq => hne (congrArg Locator.channel heq)]
    rfl

theorem subscription?_looked_self (hid : channel.id = l.channel) :
    (m.looked now channel l.subscriber n).subscription? l =
      some (m.seatAfter now channel l.subscriber n) := by
  rw [subscription?_looked, if_pos (Locator.mk_subscriber hid).symm]

/-- A look at the queue that a first look has just emptied finds nothing and changes no more than
the count of the blocked polls. -/
theorem drain_again {m : Memory} (m' : Memory) {now : Timestamp} {channel : Channel}
    {l : Locator} {n : Nat} (h : m.taken now channel l.subscriber n = [])
    (hc : m'.channels = (m.looked now channel l.subscriber n).channels) :
    m'.drain now channel l n =
      (m'.onBell (m.seat now channel l.subscriber).bell Bell.block,
        .wait (m.seat now channel l.subscriber).bell, []) := by
  -- the first look has filed the subscription, so the second one finds it and makes none
  have hget := m.get?_channels_looked now channel n l.subscriber channel.id
  rw [if_pos rfl, ← hc] at hget
  have hfor := m'.channelFor_of_get? channel hget (channel_channelFor ..)
  have hsub : (m'.channelFor channel).subscribers.get? l.subscriber =
      some (m.seatAfter now channel l.subscriber n) := by
    rw [hfor, Table.get?_insert_self]
  have htake := takeVisible_again h
  have hinsert := Table.insert_of_get? hsub
  have hself := m'.withChannel_of_get? channel.id _ (hfor ▸ hget)
  simp only [drain, subscriptionFor, hsub, seatAfter] at hinsert ⊢
  simp only [htake, hinsert]
  change ((m'.withChannel channel.id (m'.channelFor channel)).onBell _ _, _, _) = _
  rw [hself]
  rfl

end Drain

/-! ### Polling -/

end Memory

/-- The poll that goes on waiting is the given one. -/
def PollProgress.Awaits (o : PollOrder) : PollProgress → Prop
  | answered _ => True
  | waiting p => p.order = o

namespace Bell

/-- The bell after a blocked poll has come to wait at it: a permit costs a second look. -/
def await (b : Bell) (t : Ticket) : Bell :=
  if b.permit then ((b.listen t).1.release.block.listen t).1 else (b.listen t).1

theorem release_block (b : Bell) : b.block.release = b := rfl

end Bell

namespace Memory

section Look

variable (m : Memory) (now : Timestamp) (time : Nat) (o : PollOrder)

/-- The messages that the first look of a poll takes. -/
abbrev firstTaken : List Posted := m.taken now o.channel o.locator.subscriber o.max

/-- The bell of the subscription at which a poll looks. -/
abbrev firstBell : BellId := (m.seat now o.channel o.locator.subscriber).bell

/-- The engine after the first look of a poll, before the poll is blocked. -/
abbrev firstLooked : Memory := m.looked now o.channel o.locator.subscriber o.max

variable {m now time o}

variable (time) in
/-- A poll that finds messages returns them at once. -/
theorem look_of_taken (looks : Nat) (h : m.firstTaken now o ≠ []) :
    (m.look now time o looks).memory = m.firstLooked now o ∧
      (m.look now time o looks).progress =
        .answered ((m.firstTaken now o).map (·.message)) := by
  obtain ⟨notices, heq⟩ := m.drain_of_taken now o.channel o.locator o.max h
  cases looks <;> simp [look, heq]

section Nothing

variable {m' : Memory} (h : m.firstTaken now o = [])
  (hc : m'.channels = (m.firstLooked now o).channels)

include h hc

/-- A poll that waits after its deadline looks once more and returns nothing. -/
theorem settleDown_of_late (hlate : o.deadline ≤ time) :
    m'.settleDown now time o (m.firstBell now o) =
      ⟨m'.leaveBell (m.firstBell now o) o.ticket, .answered [], []⟩ := by
  have hagain := drain_again (m'.leaveBell (m.firstBell now o) o.ticket) h hc
  unfold settleDown lastLook
  rw [if_pos hlate, hagain]
  dsimp only
  rw [onBell_onBell, onBell_of_eq_self _ _ Bell.release_block]

/-- The second look of a poll finds nothing either and makes the poll wait. -/
theorem look_again : m'.look now time o 0 =
    (m'.onBell (m.firstBell now o) fun x => (x.block.listen o.ticket).1).settleDown now time o
      (m.firstBell now o) := by
  rw [look, drain_again _ h hc]
  dsimp only
  rw [onBell_onBell, PollStep.after, List.nil_append]

end Nothing

variable (time) in
/-- A poll that finds nothing comes to wait at the bell of its subscription, and only then turns to
its deadline. -/
theorem look_of_nothing (h : m.firstTaken now o = []) :
    ∃ notices, m.look now time o 1 =
      (((m.firstLooked now o).onBell (m.firstBell now o) fun x =>
        x.block.await o.ticket).settleDown now time o (m.firstBell now o)).after notices := by
  obtain ⟨notices, heq⟩ := m.drain_of_nothing now o.channel o.locator o.max h
  refine ⟨notices, ?_⟩
  rw [look, heq]
  -- the bell at which the permit is looked for already counts the poll as blocked
  generalize hm : (m.firstLooked now o).onBell (m.firstBell now o) Bell.block = m₁
  have hawait : (m.firstLooked now o).onBell (m.firstBell now o)
      (fun x => x.block.await o.ticket) = m₁.onBell (m.firstBell now o) (·.await o.ticket) := by
    rw [← hm, onBell_onBell]
  rw [hawait, ← onBell_const _ _ (·.await o.ticket)]
  dsimp only
  cases hpermit : (m₁.bell (m.firstBell now o)).permit with
  | false =>
    simp only [Bell.await, Bell.listen, hpermit, Bool.false_eq_true, if_false]
  | true =>
    simp only [Bell.await, Bell.listen, hpermit, if_true]
    rw [look_again h (by rw [← hm]; rfl), onBell_onBell, onBell_onBell]
    rfl

/-- A poll that finds nothing and may wait ends up waiting. -/
theorem look_of_early (h : m.firstTaken now o = []) (hearly : time < o.deadline) :
    ∃ notices, m.look now time o 1 =
      ⟨(m.firstLooked now o).onBell (m.firstBell now o) fun x => x.block.await o.ticket,
        .waiting ⟨o, m.firstBell now o⟩, notices⟩ := by
  obtain ⟨notices, heq⟩ := look_of_nothing time h
  rw [heq, settleDown, if_neg (Nat.not_le.mpr hearly)]
  exact ⟨_, rfl⟩

/-- A poll that finds nothing and may not wait returns nothing. -/
theorem look_of_late (h : m.firstTaken now o = []) (hlate : o.deadline ≤ time) :
    ∃ notices, m.look now time o 1 =
      ⟨(m.firstLooked now o).onBell (m.firstBell now o) fun x =>
        ((x.block.await o.ticket).leave o.ticket).release, .answered [], notices⟩ := by
  obtain ⟨notices, heq⟩ := look_of_nothing time h
  rw [heq, settleDown_of_late h (channels_onBell ..) hlate, leaveBell, onBell_onBell,
    onBell_onBell]
  exact ⟨_, rfl⟩

variable (m now o) in
/-- A poll at its deadline returns what one look takes. -/
theorem lastLook_frame : (m.lastLook now o).memory = m.firstLooked now o ∧
    (m.lastLook now o).progress = .answered ((m.firstTaken now o).map (·.message)) := by
  by_cases h : m.firstTaken now o = []
  · obtain ⟨notices, heq⟩ := m.drain_of_nothing now o.channel o.locator o.max h
    rw [lastLook, heq, h]
    -- the poll is blocked and let go again at once, which leaves its bell as it was
    dsimp only
    rw [onBell_onBell]
    exact ⟨onBell_of_eq_self _ _ Bell.release_block, rfl⟩
  · obtain ⟨notices, heq⟩ := m.drain_of_taken now o.channel o.locator o.max h
    rw [lastLook, heq]
    exact ⟨rfl, rfl⟩

variable (m now time o) in
/-- All that can become of a poll that looks at its queue: it returns what it has taken; it found
nothing and comes to wait at the bell of its subscription; or it comes there too late and leaves. -/
theorem look_cases :
    (m.firstTaken now o ≠ [] ∧ (m.look now time o 1).memory = m.firstLooked now o ∧
      (m.look now time o 1).progress = .answered ((m.firstTaken now o).map (·.message))) ∨
    (m.firstTaken now o = [] ∧ time < o.deadline ∧
      (m.look now time o 1).memory =
        (m.firstLooked now o).onBell (m.firstBell now o) (fun x => x.block.await o.ticket) ∧
      (m.look now time o 1).progress = .waiting ⟨o, m.firstBell now o⟩) ∨
    (m.firstTaken now o = [] ∧ o.deadline ≤ time ∧
      (m.look now time o 1).memory =
        (m.firstLooked now o).onBell (m.firstBell now o)
          (fun x => ((x.block.await o.ticket).leave o.ticket).release) ∧
      (m.look now time o 1).progress = .answered []) := by
  -- the time matters to a poll that has found nothing, and to no other
  by_cases h : m.firstTaken now o = []
  · rcases Nat.lt_or_ge time o.deadline with hearly | hlate
    · obtain ⟨notices, heq⟩ := look_of_early h hearly
      rw [heq]
      exact Or.inr (Or.inl ⟨h, hearly, rfl, rfl⟩)
    · obtain ⟨notices, heq⟩ := look_of_late h hlate
      rw [heq]
      exact Or.inr (Or.inr ⟨h, hlate, rfl, rfl⟩)
  · exact Or.inl ⟨h, look_of_taken time 1 h⟩

variable (m now time o) in
/-- Whatever becomes of a poll, the channels are left as its first look has left them. -/
theorem look_frame :
    (m.look now time o 1).memory.channels = (m.firstLooked now o).channels ∧
      (m.look now time o 1).memory.nextSequence = m.nextSequence := by
  rcases m.look_cases now time o with ⟨-, hmemory, -⟩ | ⟨-, -, hmemory, -⟩ | ⟨-, -, hmemory, -⟩ <;>
    rw [hmemory] <;> exact ⟨rfl, rfl⟩

variable (m now time) in
/-- A poll changes the subscription that it is about, and no other. -/
theorem subscription?_look (hid : o.channel.id = o.locator.channel) (l : Locator) :
    (m.look now time o 1).memory.subscription? l =
      if l = o.locator then some (m.seatAfter now o.channel o.locator.subscriber o.max)
      else m.subscription? l := by
  rw [subscription?_congr (m.look_frame now time o).1, subscription?_looked,
    Locator.mk_subscriber hid]

variable (m now) in
/-- A poll that cannot wait returns what its first look takes. -/
theorem progress_look (hlate : o.deadline ≤ time) : (m.look now time o 1).progress =
    .answered ((m.firstTaken now o).map (·.message)) := by
  rcases m.look_cases now time o with ⟨-, -, hprogress⟩ | ⟨-, hearly, -⟩ |
    ⟨hnothing, -, -, hprogress⟩
  · exact hprogress
  · exact absurd hearly (Nat.not_lt.mpr hlate)
  · rw [hprogress, hnothing]
    rfl

/-- A poll that waits after a look is the one that has looked. -/
theorem awaits_look : (m.look now time o 1).progress.Awaits o := by
  rcases m.look_cases now time o with ⟨-, -, hprogress⟩ | ⟨-, -, -, hprogress⟩ |
    ⟨-, -, -, hprogress⟩ <;> rw [hprogress]
  · exact trivial
  · rfl
  · exact trivial

end Look

/-! ### Collecting garbage -/

section Collect

variable (m : Memory) (now : Timestamp) (newest : ChannelId → Option Channel)

/-- The moment before which a pass takes the things of a channel for garbage. -/
def collectBound (id : ChannelId) : Timestamp :=
  match m.channels.get? id with
  | some c => now.minus ((newest id).getD c.channel).expire
  | none => now

/-- A pass asks for the definitions of the channels that the engine knows. -/
theorem collect_congr {newest newest' : ChannelId → Option Channel}
    (h : ∀ id ∈ m.channels.keys, newest id = newest' id) :
    m.collect now newest = m.collect now newest' := by
  have hparts : (m.channels.mapEntries fun id c => m.collectChannel now (newest id) c) =
      m.channels.mapEntries fun id c => m.collectChannel now (newest' id) c :=
    Table.mapEntries_congr fun id c hget => by
      rw [h id (Table.mem_keys_iff.mpr ⟨c, hget⟩)]
  unfold collect
  rw [hparts]

/-- A pass takes nothing for garbage that expires now or later. -/
theorem collectBound_le (id : ChannelId) : m.collectBound now newest id ≤ now := by
  unfold collectBound
  split
  · exact Timestamp.minus_le _ _
  · exact Timestamp.le_refl _

/-- A pass keeps of the channels those with something left, after the garbage in them has gone. -/
theorem get?_channels_collect (id : ChannelId) :
    (m.collect now newest).1.channels.get? id =
      ((m.channels.get? id).map fun c => (m.collectChannel now (newest id) c).1).filter
        fun c => !c.isVacant := by
  simp only [collect, Table.get?_filter, Table.get?_map, Table.get?_mapEntries, Option.map_map]
  rfl

/-- A pass keeps of every log what expires at its bound or later. -/
theorem logOf_collect (id : ChannelId) : (m.collect now newest).1.logOf id =
    (m.logOf id).filter fun p => decide (m.collectBound now newest id ≤ p.expireAt) := by
  unfold logOf collectBound
  rw [get?_channels_collect]
  cases m.channels.get? id with
  | none => rfl
  | some c =>
    cases hv : (m.collectChannel now (newest id) c).1.isVacant with
    | false =>
      simp only [Option.map_some, Option.filter_some, hv]
      rfl
    | true =>
      -- a channel that is removed has nothing left in its log
      have hlog : (m.collectChannel now (newest id) c).1.log = [] := by
        simp only [ChannelState.isVacant, Bool.and_eq_true, List.isEmpty_iff] at hv
        exact hv.2
      simp only [Option.map_some, Option.filter_some, hv]
      exact hlog.symm

/-- A pass keeps the subscriptions that are not idle at its bound, and of their queues what expires
at the bound or later. -/
theorem subscription?_collect (l : Locator) :
    (m.collect now newest).1.subscription? l =
      ((m.subscription? l).filter fun s =>
        !m.isIdle (m.collectBound now newest l.channel) s).map fun s =>
          { s with
            queue := s.queue.filter fun p =>
              decide (m.collectBound now newest l.channel ≤ p.expireAt) } := by
  unfold subscription? collectBound
  rw [get?_channels_collect]
  cases m.channels.get? l.channel with
  | none => rfl
  | some c =>
    -- the subscriptions are filtered first and pruned afterwards
    have hsub : (m.collectChannel now (newest l.channel) c).1.subscribers.get? l.subscriber = _ :=
      (Table.get?_map _ _ _).trans (congrArg _ (Table.get?_filter _ _ _))
    simp only [Option.bind_some]
    rw [← hsub]
    cases hv : (m.collectChannel now (newest l.channel) c).1.isVacant with
    | false =>
      simp only [Option.map_some, Option.filter_some, hv]
      rfl
    | true =>
      simp only [Option.map_some, Option.filter_some, hv]
      -- a channel that is removed has no subscription left that could be missed
      simp only [ChannelState.isVacant, Bool.and_eq_true, Table.isEmpty_iff] at hv
      exact (hv.1 l.subscriber).symm

variable {m now newest} in
/-- A pass makes no subscription, and changes no more than queues. -/
theorem subscription?_collect_some {l : Locator} {s : Subscription}
    (h : (m.collect now newest).1.subscription? l = some s) :
    ∃ s₀, m.subscription? l = some s₀ ∧
      s.queue =
        s₀.queue.filter (fun p => decide (m.collectBound now newest l.channel ≤ p.expireAt)) ∧
      s.lastActivity = s₀.lastActivity ∧ s.bell = s₀.bell := by
  rw [subscription?_collect] at h
  obtain ⟨s₀, hs₀, rfl⟩ := Option.map_eq_some_iff.mp h
  exact ⟨s₀, (Option.filter_eq_some_iff.mp hs₀).1, rfl, rfl, rfl⟩

end Collect

end Memory

end LongPoll
