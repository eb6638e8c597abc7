import LongPoll.Proofs.Engine.Passes
import LongPoll.Proofs.Engine.Ringing
/-!
# An engine and the polls at its bells

`Memory.Belled` says that no two subscriptions share a bell, and `Memory.Seats` tells under which
locator the subscription of a bell is registered.

`Memory.Hosts` says that an engine knows the polls that wait at its bells: each poll is at the bell
of the subscription that is registered under its locator, every bell has counted its polls, and
while a poll waits that nothing has woken, messages are queued only for polls that were woken.

In the middle of a resumption one more message may be queued than polls are woken; this is the
slack of a bell, and the look that follows takes it up (`Hosts.resume`, `Hosts.looked`). Each
operation of the engine keeps the relation (`Hosts.look`, `Hosts.leave`, `Hosts.publish`), and so
does every pass that removes garbage, wherever it is cut short (`Hosts.thin`).
-/

namespace LongPoll

/-- The polls at a bell. -/
def pollsAt (polls : List WaitingPoll) (b : BellId) : List WaitingPoll :=
  polls.filter fun p => p.bell = b

/-- The tickets of the polls at a bell. -/
def ticketsAt (polls : List WaitingPoll) (b : BellId) : List Ticket :=
  (pollsAt polls b).map (·.order.ticket)

/-- The polls without the one that has a ticket. -/
def withoutTicket (polls : List WaitingPoll) (t : Ticket) : List WaitingPoll :=
  polls.filter fun p => p.order.ticket ≠ t

section Tickets

variable {polls : List WaitingPoll} {p : WaitingPoll} {t : Ticket} {b : BellId}

theorem ticketsAt_append (polls polls' : List WaitingPoll) (b : BellId) :
    ticketsAt (polls ++ polls') b = ticketsAt polls b ++ ticketsAt polls' b := by
  rw [ticketsAt, pollsAt, List.filter_append, List.map_append]
  rfl

theorem ticketsAt_singleton_self (p : WaitingPoll) : ticketsAt [p] p.bell = [p.order.ticket] := by
  simp [ticketsAt, pollsAt]

theorem ticketsAt_singleton_of_ne (h : p.bell ≠ b) : ticketsAt [p] b = [] := by
  simp [ticketsAt, pollsAt, h]

theorem mem_ticketsAt (h : p ∈ polls) : p.order.ticket ∈ ticketsAt polls p.bell :=
  List.mem_map_of_mem (List.mem_filter.mpr ⟨h, decide_eq_true rfl⟩)

theorem ticketsAt_sublist (polls : List WaitingPoll) (b : BellId) :
    (ticketsAt polls b).Sublist (polls.map (·.order.ticket)) :=
  List.filter_sublist.map _

/-- Without a poll, its ticket is missing at every bell. -/
theorem ticketsAt_withoutTicket (polls : List WaitingPoll) (t : Ticket) (b : BellId) :
    ticketsAt (withoutTicket polls t) b = (ticketsAt polls b).filter (· ≠ t) := by
  rw [ticketsAt, ticketsAt, pollsAt, pollsAt, withoutTicket, List.filter_map, List.filter_comm]
  rfl

/-- A poll is one, and the others are the polls without its ticket. -/
theorem perm_cons_withoutTicket (hnodup : (polls.map (·.order.ticket)).Nodup) (hp : p ∈ polls) :
    polls.Perm (p :: withoutTicket polls p.order.ticket) := by
  obtain ⟨before, after, rfl⟩ := List.append_of_mem hp
  rw [List.map_append, List.map_cons, List.nodup_middle, List.nodup_cons, ← List.map_append]
    at hnodup
  -- the others have other tickets, so the filter keeps them all
  have hkept : (before ++ after).filter (·.order.ticket ≠ p.order.ticket) = before ++ after :=
    List.filter_eq_self.mpr fun q hq => decide_eq_true fun heq =>
      hnodup.1 (heq ▸ List.mem_map_of_mem hq)
  have hwithout : withoutTicket (before ++ p :: after) p.order.ticket = before ++ after := by
    rw [List.filter_append] at hkept
    simp only [withoutTicket, List.filter_append, List.filter_cons, ne_eq, not_true, decide_false,
      Bool.false_eq_true, if_false]
    exact hkept
  rw [hwithout]
  exact List.perm_middle

/-- A poll stands at one bell only. -/
theorem ticketsAt_withoutTicket_of_ne (hnodup : (polls.map (·.order.ticket)).Nodup) (hp : p ∈ polls)
    (h : b ≠ p.bell) : ticketsAt (withoutTicket polls p.order.ticket) b = ticketsAt polls b := by
  rw [ticketsAt_withoutTicket]
  refine List.filter_eq_self.mpr fun u hu => decide_eq_true fun heq => ?_
  obtain ⟨q, hq, rfl⟩ := List.mem_map.mp hu
  obtain ⟨hq, hbell⟩ := List.mem_filter.mp hq
  rw [List.inj_on_of_nodup_map hnodup hq hp heq] at hbell
  exact h (of_decide_eq_true hbell).symm

end Tickets

/-- The poll that waits, if one does. -/
def PollProgress.polls : PollProgress → List WaitingPoll
  | answered _ => []
  | waiting p => [p]

/-- The poll that waits has the order that it began with. -/
theorem PollProgress.order_of_mem_polls {progress : PollProgress} {o : PollOrder}
    (h : progress.Awaits o) {p : WaitingPoll} (hp : p ∈ progress.polls) : p.order = o := by
  cases progress with
  | answered ms => exact absurd hp List.not_mem_nil
  | waiting q =>
    rw [List.mem_singleton.mp hp]
    exact h

namespace Memory

/-! ### The bells of subscriptions -/

/-- Each subscription has a bell of the engine, and no two subscriptions share one. -/
structure Belled (m : Memory) : Prop where
  /-- A subscription has a bell of the engine. -/
  bell_lt : ∀ {l s}, m.subscription? l = some s → s.bell < m.bells.length
  /-- No two subscriptions share a bell. -/
  bell_inj : ∀ {l l' s s'}, m.subscription? l = some s → m.subscription? l' = some s' →
    s.bell = s'.bell → l = l'

/-- The bell is that of the subscription which is registered under the locator. -/
def Seats (m : Memory) (l : Locator) (b : BellId) : Prop :=
  ∃ s, m.subscription? l = some s ∧ s.bell = b

/-- A bell that there is not yet is as good as new. -/
theorem bell_of_length_le (m : Memory) {b : BellId} (h : m.bells.length ≤ b) :
    m.bell b = Bell.fresh := by
  simp [bell, List.getD_eq_getElem?_getD, List.getElem?_eq_none h]

/-- A look at a queue leaves all bells as they were, also where it makes a new one. -/
@[simp]
theorem bell_looked (m : Memory) (now : Timestamp) (channel : Channel) (s : SubscriberId) (n : Nat)
    (b : BellId) : (m.looked now channel s n).bell b = m.bell b := by
  show (m.bellsAfter channel s).getD b Bell.fresh = m.bells.getD b Bell.fresh
  unfold bellsAfter
  cases m.subscription? ⟨channel.id, s⟩ with
  | some sub => rfl
  | none =>
    rw [List.getD_eq_getElem?_getD, List.getD_eq_getElem?_getD]
    rcases Nat.lt_trichotomy b m.bells.length with hlt | rfl | hgt
    · rw [List.getElem?_append_left hlt]
    · simp
    · rw [List.getElem?_eq_none (Nat.le_of_lt hgt), List.getElem?_eq_none]
      rw [List.length_append, List.length_singleton]
      exact hgt

/-- A look at a queue takes no bell away. -/
theorem length_bells_le_looked (m : Memory) (now : Timestamp) (channel : Channel)
    (s : SubscriberId) (n : Nat) : m.bells.length ≤ (m.looked now channel s n).bells.length := by
  show m.bells.length ≤ (m.bellsAfter channel s).length
  unfold bellsAfter
  cases m.subscription? ⟨channel.id, s⟩ with
  | some sub => exact Nat.le_refl _
  | none => simp

theorem belled_empty : empty.Belled where
  bell_lt h := nomatch h
  bell_inj h := nomatch h

section Publish

variable {m : Memory} {now : Timestamp} {channel : Channel} {message : Message}

/-- The bells of a channel are those of the subscriptions in it. -/
theorem mem_bells_iff (m : Memory) (channel : Channel) (b : BellId) :
    b ∈ (m.channelFor channel).subscribers.values.map Subscription.bell ↔
      ∃ l s, l.channel = channel.id ∧ m.subscription? l = some s ∧ s.bell = b := by
  simp only [List.mem_map, Table.mem_values_iff, get?_subscribers_channelFor]
  constructor
  · rintro ⟨s, ⟨k, hs⟩, hbell⟩
    exact ⟨⟨channel.id, k⟩, s, rfl, hs, hbell⟩
  · rintro ⟨⟨id, k⟩, s, rfl, hs, hbell⟩
    exact ⟨s, ⟨k, hs⟩, hbell⟩

/-- A publish makes no bells. -/
@[simp]
theorem length_bells_publish : (m.publish now channel message).1.bells.length = m.bells.length := by
  cases hshows : (m.channelFor channel).shows now message.id with
  | true =>
    rw [publish_of_shows hshows]
    rfl
  | false =>
    rw [publish_of_not_shows hshows, length_bells_ringAll]
    rfl

/-- A duplicate rings no bell. -/
theorem bell_publish_of_shows (hshows : (m.channelFor channel).shows now message.id = true)
    (b : BellId) : (m.publish now channel message).1.bell b = m.bell b := by
  rw [publish_of_shows hshows]
  rfl

end Publish

namespace Belled

variable {m : Memory} {now : Timestamp}

/-- Subscriptions that have the bells of old ones are as well off as these. -/
theorem of_old {m' : Memory} (h : m.Belled) (hle : m.bells.length ≤ m'.bells.length)
    (hold : ∀ {l s}, m'.subscription? l = some s →
      ∃ s₀, m.subscription? l = some s₀ ∧ s.bell = s₀.bell) : m'.Belled where
  bell_lt hs := by
    obtain ⟨s₀, hs₀, hsame⟩ := hold hs
    rw [hsame]
    exact Nat.lt_of_lt_of_le (h.bell_lt hs₀) hle
  bell_inj hs hs' heq := by
    obtain ⟨s₀, hs₀, hsame⟩ := hold hs
    obtain ⟨s₁, hs₁, hsame'⟩ := hold hs'
    exact h.bell_inj hs₀ hs₁ (hsame.symm.trans (heq.trans hsame'))

/-- A change of a bell gives no subscription another one. -/
theorem onBell (h : m.Belled) (b : BellId) (f : Bell → Bell) : (m.onBell b f).Belled :=
  h.of_old (Nat.le_of_eq (m.length_bells_onBell b f).symm) fun hs => ⟨_, hs, rfl⟩

section Look

variable (h : m.Belled) (channel : Channel) (s : SubscriberId)

include h

/-- No other subscription has the bell at which a look is made. -/
theorem bell_ne_seat {l : Locator} {sub : Subscription} (hl : l ≠ ⟨channel.id, s⟩)
    (hsub : m.subscription? l = some sub) : sub.bell ≠ (m.seat now channel s).bell := by
  unfold seat
  cases hs : m.subscription? ⟨channel.id, s⟩ with
  | some sub' => exact fun heq => hl (h.bell_inj hsub hs heq)
  | none => exact Nat.ne_of_lt (h.bell_lt hsub)

/-- The subscription at which a look was made has a bell of the engine. -/
theorem seat_bell_lt (n : Nat) :
    (m.seat now channel s).bell < (m.looked now channel s n).bells.length := by
  show (m.seat now channel s).bell < (m.bellsAfter channel s).length
  unfold seat bellsAfter
  cases hs : m.subscription? ⟨channel.id, s⟩ with
  | some sub => exact h.bell_lt hs
  | none => simp

/-- A look at a queue gives a new subscription a bell of its own. -/
theorem looked (n : Nat) : (m.looked now channel s n).Belled := by
  have hsub := m.subscription?_looked now channel n s
  refine ⟨?_, ?_⟩
  · intro l sub hs
    rw [hsub] at hs
    split at hs
    next =>
      rw [← Option.some.inj hs]
      exact h.seat_bell_lt channel s n
    next => exact Nat.lt_of_lt_of_le (h.bell_lt hs) (m.length_bells_le_looked ..)
  · intro l l' sub sub' hs hs' heq
    rw [hsub] at hs hs'
    -- a bell of the seat was either there before, with this owner, or is new
    split at hs <;> split at hs'
    next hl hl' => exact hl.trans hl'.symm
    next hl hl' =>
      rw [← Option.some.inj hs] at heq
      exact absurd heq.symm (h.bell_ne_seat channel s hl' hs')
    next hl hl' =>
      rw [← Option.some.inj hs'] at heq
      exact absurd heq (h.bell_ne_seat channel s hl hs)
    next => exact h.bell_inj hs hs' heq

end Look

section Publish

variable {channel : Channel} {message : Message}

/-- The bells of a channel are all different. -/
theorem nodup_bells (h : m.Belled) (channel : Channel) :
    ((m.channelFor channel).subscribers.values.map Subscription.bell).Nodup := by
  refine Table.nodup_map_values fun {k k' s s'} hs hs' heq => ?_
  rw [get?_subscribers_channelFor] at hs hs'
  exact congrArg Locator.subscriber (h.bell_inj hs hs' heq)

/-- The bells of other channels are silent, since no two subscriptions share one. -/
theorem bell_not_mem_of_ne (h : m.Belled) {l : Locator} {s : Subscription}
    (hs : m.subscription? l = some s) (hid : channel.id ≠ l.channel) :
    s.bell ∉ (m.channelFor channel).subscribers.values.map Subscription.bell := by
  intro hmem
  obtain ⟨l', s', hl', hs', heq⟩ := (mem_bells_iff m channel _).mp hmem
  exact hid ((h.bell_inj hs' hs heq) ▸ hl').symm

/-- A publish that is accepted rings the bells of the channel once. -/
theorem bell_publish (h : m.Belled)
    (hshows : (m.channelFor channel).shows now message.id = false) (b : BellId) :
    (m.publish now channel message).1.bell b =
      if b ∈ (m.channelFor channel).subscribers.values.map Subscription.bell then (m.bell b).ring
      else m.bell b := by
  have hin : ∀ b ∈ (m.channelFor channel).subscribers.values.map Subscription.bell,
      b < m.bells.length := by
    intro b hb
    obtain ⟨l, s, -, hs, rfl⟩ := (mem_bells_iff m channel b).mp hb
    exact h.bell_lt hs
  rw [publish_of_not_shows hshows, bell_ringAll (h.nodup_bells channel)]
  · rfl
  · exact hin

/-- A publish gives no subscription another bell. -/
theorem publish (h : m.Belled) (now : Timestamp) (channel : Channel) (message : Message) :
    (m.publish now channel message).1.Belled := by
  refine h.of_old (Nat.le_of_eq length_bells_publish.symm) fun {l s} hs => ?_
  cases hshows : (m.channelFor channel).shows now message.id with
  | true => exact ⟨s, subscription?_publish_of_shows hshows l ▸ hs, rfl⟩
  | false =>
    obtain ⟨s₀, hs₀, -, -, hsame⟩ := subscription?_publish_some hshows hs
    exact ⟨s₀, hs₀, hsame⟩

end Publish

/-- To remove garbage gives no subscription another bell. -/
theorem thin {m' : Memory} (h : m.Belled) (hthins : m.Thins m') : m'.Belled := by
  refine h.of_old (Nat.le_of_eq (by rw [hthins.bells_eq])) fun {l s} hs => ?_
  obtain ⟨s₀, hs₀, -, -, hbell⟩ := hthins.subscription hs
  exact ⟨s₀, hs₀, hbell⟩

end Belled

namespace Seats

variable {m : Memory} {l : Locator} {b : BellId}

/-- A bell at which a subscription is registered is one of the engine. -/
theorem bell_lt (h : m.Seats l b) (hm : m.Belled) : b < m.bells.length := by
  obtain ⟨s, hs, rfl⟩ := h
  exact hm.bell_lt hs

/-- A look at a queue leaves subscriptions at their bells. -/
theorem looked (h : m.Seats l b) (now : Timestamp) (channel : Channel) (s : SubscriberId)
    (n : Nat) : (m.looked now channel s n).Seats l b := by
  obtain ⟨sub, hs, hbell⟩ := h
  rw [Seats, subscription?_looked]
  split
  next hl =>
    refine ⟨_, rfl, ?_⟩
    rw [← hbell]
    show (m.seat now channel s).bell = sub.bell
    rw [seat, ← hl, hs]
    rfl
  next => exact ⟨sub, hs, hbell⟩

/-- A publish leaves subscriptions at their bells. -/
theorem publish (h : m.Seats l b) (now : Timestamp) (channel : Channel) (message : Message) :
    (m.publish now channel message).1.Seats l b := by
  obtain ⟨s, hs, hbell⟩ := h
  cases hshows : (m.channelFor channel).shows now message.id with
  | true =>
    rw [Seats, subscription?_publish_of_shows hshows]
    exact ⟨s, hs, hbell⟩
  | false =>
    rw [Seats, subscription?_publish hshows]
    split
    next => exact ⟨_, congrArg _ hs, hbell⟩
    next => exact ⟨s, hs, hbell⟩

/-- A subscription at whose bell polls are blocked is no garbage. -/
theorem thin {m' : Memory} (h : m.Seats l b) (hblocked : 0 < (m.bell b).blocked)
    (hthins : m.Thins m') : m'.Seats l b := by
  obtain ⟨s, hs, rfl⟩ := h
  obtain ⟨s', hs'⟩ := hthins.stays hs hblocked
  obtain ⟨s₀, hs₀, -, -, hbell⟩ := hthins.subscription hs'
  rw [Option.some.inj (hs.symm.trans hs₀)]
  exact ⟨s', hs', hbell⟩

end Seats

/-! ### The polls at the bells -/

/-- The engine knows the polls at its bells. The slack of a bell is the number of messages that a
poll is about to take that was woken there. -/
structure Hosts (m : Memory) (polls : List WaitingPoll) (slack : BellId → Nat) : Prop
    extends Belled m where
  /-- A poll waits at the bell of the subscription that is registered under its locator. -/
  seated : ∀ p ∈ polls, m.Seats p.order.locator p.bell
  /-- A bell knows the polls at it. -/
  counts : ∀ b, (m.bell b).Counts (ticketsAt polls b)
  /-- Messages are queued only for polls that were woken, as long as others wait. -/
  covers : ∀ {l s}, m.subscription? l = some s →
    (m.bell s.bell).Covers s.queue.length (slack s.bell)

/-- A new engine knows of no polls. -/
theorem hosts_empty (slack : BellId → Nat) : empty.Hosts [] slack where
  toBelled := belled_empty
  seated _ hp := absurd hp List.not_mem_nil
  counts b := by
    rw [bell_of_length_le _ (Nat.zero_le b)]
    exact Bell.counts_fresh
  covers h := nomatch h

namespace Hosts

variable {m : Memory} {polls polls' : List WaitingPoll} {slack slack' : BellId → Nat}
  {now : Timestamp} {time : Nat}

/-- Only one bell changes. -/
theorem onBell (h : m.Hosts polls slack) {b : BellId} {f : Bell → Bell}
    (hb : b < m.bells.length)
    (hseated : ∀ p ∈ polls', m.Seats p.order.locator p.bell)
    (hother : ∀ b', b' ≠ b → ticketsAt polls' b' = ticketsAt polls b' ∧ slack' b' = slack b')
    (hcounts : (f (m.bell b)).Counts (ticketsAt polls' b))
    (hcovers : ∀ {l s}, m.subscription? l = some s → s.bell = b →
      (f (m.bell b)).Covers s.queue.length (slack' b)) :
    (m.onBell b f).Hosts polls' slack' where
  toBelled := h.toBelled.onBell b f
  seated := hseated
  counts b' := by
    -- the bell itself is given, and every other one is as it was
    by_cases heq : b' = b
    · subst heq
      rw [bell_onBell_of_lt _ _ hb]
      exact hcounts
    · rw [bell_onBell_of_ne _ _ (Ne.symm heq), (hother b' heq).1]
      exact h.counts b'
  covers {l s} hs := by
    by_cases heq : s.bell = b
    · rw [heq, bell_onBell_of_lt _ _ hb]
      exact hcovers hs heq
    · rw [bell_onBell_of_ne _ _ (Ne.symm heq), (hother s.bell heq).2]
      exact h.covers hs

/-! ### Polls that go -/

section Going

variable {p : WaitingPoll} (h : m.Hosts polls fun _ => 0)
  (hnodup : (polls.map (·.order.ticket)).Nodup) (hp : p ∈ polls)

include h hp

theorem bell_lt_of_mem : p.bell < m.bells.length := (h.seated p hp).bell_lt h.toBelled

variable (now) in
/-- A poll that waits looks at the queue that its bell belongs to, also after bells have changed. -/
theorem firstBell_of_mem (hid : p.order.channel.id = p.order.locator.channel) {m' : Memory}
    (hm : m'.channels = m.channels) : m'.firstBell now p.order = p.bell := by
  obtain ⟨s, hs, hbell⟩ := h.seated p hp
  rw [firstBell, seat, subscription?_congr hm, Locator.mk_subscriber hid, hs]
  exact hbell

include hnodup

/-- A poll that was woken resumes, and has a message to take. -/
theorem resume (hwoken : (m.bell p.bell).hasWoken p.order.ticket = true) :
    (m.onBell p.bell fun x => (x.resume p.order.ticket).release).Hosts
      (withoutTicket polls p.order.ticket) fun b => if b = p.bell then 1 else 0 := by
  have hcounts := h.counts p.bell
  have hat := (ticketsAt_sublist polls p.bell).nodup hnodup
  refine h.onBell (h.bell_lt_of_mem hp) (fun q hq => h.seated q (List.mem_of_mem_filter hq))
    (fun b hb => ⟨ticketsAt_withoutTicket_of_ne hnodup hp hb, if_neg hb⟩) ?_ fun hs hbell => ?_
  · rw [ticketsAt_withoutTicket]
    exact hcounts.resume hat hwoken
  · rw [if_pos rfl]
    exact Bell.Covers.resume hcounts hat (hbell ▸ h.covers hs) hwoken

/-- A poll leaves its bell. -/
theorem leave : (m.leaveBell p.bell p.order.ticket).Hosts
    (withoutTicket polls p.order.ticket) fun _ => 0 := by
  have hcounts := h.counts p.bell
  have hat := (ticketsAt_sublist polls p.bell).nodup hnodup
  rw [leaveBell, onBell_onBell]
  refine h.onBell (h.bell_lt_of_mem hp) (fun q hq => h.seated q (List.mem_of_mem_filter hq))
    (fun b hb => ⟨ticketsAt_withoutTicket_of_ne hnodup hp hb, rfl⟩) ?_ fun hs hbell => ?_
  · rw [ticketsAt_withoutTicket]
    exact hcounts.leave hat (mem_ticketsAt hp)
  · exact Bell.Covers.leave hcounts hat (hbell ▸ h.covers hs)

end Going

/-! ### Looking at a queue -/

section Look

variable (h : m.Hosts polls slack) (channel : Channel) (s : SubscriberId)

include h

/-- The queue after a look holds no more messages than polls have been woken. -/
theorem covers_seatAfter {n : Nat} (hn : 0 < n)
    (hslack : slack (m.seat now channel s).bell ≤ 1) :
    (m.bell (m.seat now channel s).bell).Covers (m.seatAfter now channel s n).queue.length 0 := by
  have hle := length_takeVisible_le now n (m.seat now channel s).queue
  intro hwaiting
  show (takeVisible now n (m.seat now channel s).queue).2.length ≤ _
  -- a look either takes a message, which makes up for the slack, or empties the queue
  by_cases htaken : (takeVisible now n (m.seat now channel s).queue).1 = []
  · rw [snd_takeVisible_of_fst_nil hn htaken]
    exact Nat.zero_le _
  · have hpos := List.length_pos_iff.mpr htaken
    have hcovers : (m.bell (m.seat now channel s).bell).Covers
        (m.seat now channel s).queue.length (slack (m.seat now channel s).bell) := by
      unfold seat
      cases hs : m.subscription? ⟨channel.id, s⟩ with
      | some sub => exact h.covers hs
      | none =>
        rw [Option.getD_none, bell_of_length_le _ (Nat.le_refl _)]
        exact Bell.covers_fresh _ _
    have hqueued := hcovers hwaiting
    omega

/-- A look takes up the slack at its bell. -/
theorem looked {n : Nat} (hn : 0 < n)
    (hslack : ∀ b, slack b ≤ if b = (m.seat now channel s).bell then 1 else 0) :
    (m.looked now channel s n).Hosts polls fun _ => 0 := by
  refine ⟨h.toBelled.looked channel s n, fun p hp => (h.seated p hp).looked now channel s n,
    ?_, ?_⟩
  · intro b
    rw [bell_looked]
    exact h.counts b
  · intro l sub hs
    rw [bell_looked]
    rw [subscription?_looked] at hs
    split at hs
    next =>
      rw [← Option.some.inj hs]
      have hone := hslack (m.seat now channel s).bell
      rw [if_pos rfl] at hone
      exact h.covers_seatAfter channel s hn hone
    -- another subscription has another bell, which has no slack
    next hl =>
      have hzero := hslack sub.bell
      rw [if_neg (h.bell_ne_seat channel s hl hs)] at hzero
      have hcovers := h.covers hs
      rw [Nat.le_zero.mp hzero] at hcovers
      exact hcovers

end Look

/-- Once a look has found nothing, its bell may change in any way that counts the polls at it. -/
theorem onBell_looked (h : m.Hosts polls slack) {channel : Channel} {s : SubscriberId} {n : Nat}
    (hn : 0 < n) (hslack : ∀ b, slack b ≤ if b = (m.seat now channel s).bell then 1 else 0)
    (hnothing : m.taken now channel s n = []) {f : Bell → Bell}
    (hseated : ∀ p ∈ polls', p ∈ polls ∨
      p.order.locator = ⟨channel.id, s⟩ ∧ p.bell = (m.seat now channel s).bell)
    (hother : ∀ b, b ≠ (m.seat now channel s).bell → ticketsAt polls' b = ticketsAt polls b)
    (hcounts : (f (m.bell (m.seat now channel s).bell)).Counts
      (ticketsAt polls' (m.seat now channel s).bell)) :
    ((m.looked now channel s n).onBell (m.seat now channel s).bell f).Hosts polls'
      fun _ => 0 := by
  have hlooked := h.looked channel s hn hslack
  have hself := m.subscription?_looked_self now channel ⟨channel.id, s⟩ n rfl
  refine hlooked.onBell (h.seat_bell_lt channel s n) (fun p hp => ?_)
    (fun b hb => ⟨hother b hb, rfl⟩) (by rwa [bell_looked]) fun {l sub} hs heq => ?_
  · rcases hseated p hp with hold | ⟨hlocator, hbell⟩
    · exact hlooked.seated p hold
    · exact ⟨m.seatAfter now channel s n, hlocator ▸ hself, hbell.symm⟩
  · obtain rfl := hlooked.bell_inj hs hself heq
    rw [hself] at hs
    -- nothing was found, so the queue at this bell is empty and needs no woken polls
    have hempty : sub.queue = [] := by
      rw [← Option.some.inj hs]
      exact snd_takeVisible_of_fst_nil hn hnothing
    rw [hempty]
    exact fun _ => Nat.zero_le _

/-- A poll looks at its queue and takes messages or comes to wait. -/
theorem look (h : m.Hosts polls slack) {o : PollOrder} (hid : o.channel.id = o.locator.channel)
    (hmax : 0 < o.max) (hnodup : (polls.map (·.order.ticket)).Nodup)
    (hnew : ∀ p ∈ polls, p.order.ticket ≠ o.ticket)
    (hslack : ∀ b, slack b ≤ if b = m.firstBell now o then 1 else 0) :
    (m.look now time o 1).memory.Hosts (polls ++ (m.look now time o 1).progress.polls)
      fun _ => 0 := by
  rcases m.look_cases now time o with ⟨-, hmemory, hprogress⟩ |
    ⟨hnothing, -, hmemory, hprogress⟩ | ⟨hnothing, -, hmemory, hprogress⟩ <;>
    rw [hmemory, hprogress, PollProgress.polls]
  · rw [List.append_nil]
    exact h.looked o.channel o.locator.subscriber hmax hslack
  · refine h.onBell_looked hmax hslack hnothing (fun p hp => ?_) (fun b hb => ?_) ?_
    · rcases List.mem_append.mp hp with hold | hlast
      · exact Or.inl hold
      · rw [List.mem_singleton.mp hlast]
        exact Or.inr ⟨(Locator.mk_subscriber hid).symm, rfl⟩
    · rw [ticketsAt_append,
        ticketsAt_singleton_of_ne (p := ⟨o, m.firstBell now o⟩) (Ne.symm hb), List.append_nil]
    · rw [ticketsAt_append, ticketsAt_singleton_self ⟨o, m.firstBell now o⟩]
      exact (h.counts _).await _
  · -- the poll comes and goes, and the bell is left with the tickets that it had before
    rw [List.append_nil]
    refine h.onBell_looked hmax hslack hnothing (fun p hp => Or.inl hp) (fun b hb => rfl)
      ((h.counts _).leave_await (hnodup.sublist (ticketsAt_sublist ..)) fun hmem => ?_)
    obtain ⟨p, hp, hticket⟩ := List.mem_map.mp hmem
    exact hnew p (List.mem_of_mem_filter hp) hticket

/-! ### Publishing -/

section Publish

variable {channel : Channel} {message : Message}

/-- A duplicate is queued nowhere and rings no bell. -/
theorem publish_duplicate (h : m.Hosts polls slack)
    (hshows : (m.channelFor channel).shows now message.id = true) :
    (m.publish now channel message).1.Hosts polls slack := by
  have hbell := bell_publish_of_shows hshows
  refine ⟨h.toBelled.publish now channel message,
    fun p hp => (h.seated p hp).publish now channel message, ?_, ?_⟩
  · intro b
    rw [hbell]
    exact h.counts b
  · intro l s hs
    rw [hbell]
    exact h.covers (subscription?_publish_of_shows hshows _ ▸ hs)

/-- A publish rings for every subscriber for which it queues the message. -/
theorem publish_accepted (h : m.Hosts polls slack)
    (hshows : (m.channelFor channel).shows now message.id = false) :
    (m.publish now channel message).1.Hosts polls slack := by
  refine ⟨h.toBelled.publish now channel message,
    fun p hp => (h.seated p hp).publish now channel message, ?_, ?_⟩
  · intro b
    rw [h.bell_publish hshows]
    split
    next => exact (h.counts b).ring
    next => exact h.counts b
  · intro l s hs
    -- no subscription is made, so this one had its bell before
    obtain ⟨s₀, hs₀, hqueue, -, hsame⟩ := subscription?_publish_some hshows hs
    have hcovers := h.covers hs₀
    rw [h.bell_publish hshows, hsame, hqueue]
    by_cases hid : channel.id = l.channel
    · -- the queue is one longer, and its bell has rung once more
      rw [if_pos hid, if_pos ((mem_bells_iff m channel _).mpr ⟨l, s₀, hid.symm, hs₀, rfl⟩)]
      refine Bell.Covers.ring fun hwaiting => ?_
      have hqueued := hcovers hwaiting
      rw [List.length_append, List.length_singleton]
      omega
    · rw [if_neg hid, if_neg (h.bell_not_mem_of_ne hs₀ hid), List.append_nil]
      exact hcovers

/-- A publish keeps the polls at their bells known and provided for. -/
theorem publish (h : m.Hosts polls slack) :
    (m.publish now channel message).1.Hosts polls slack := by
  cases hshows : (m.channelFor channel).shows now message.id with
  | true => exact h.publish_duplicate hshows
  | false => exact h.publish_accepted hshows

end Publish

/-! ### Collecting garbage -/

/-- To remove garbage spares the subscriptions at whose bells polls wait. -/
theorem thin {m' : Memory} (h : m.Hosts polls fun _ => 0) (hthins : m.Thins m') :
    m'.Hosts polls fun _ => 0 := by
  refine ⟨h.toBelled.thin hthins, fun p hp => (h.seated p hp).thin ?_ hthins,
    fun b => hthins.bell_eq b ▸ h.counts b, ?_⟩
  · -- the bell has counted the poll, so the subscription is not idle
    rw [(h.counts p.bell).blocked_eq]
    exact List.length_pos_of_mem (mem_ticketsAt hp)
  · intro l s hs hwaiting
    obtain ⟨s₀, hs₀, hqueue, -, hbell⟩ := hthins.subscription hs
    rw [hthins.bell_eq, hbell] at hwaiting ⊢
    have hqueued := h.covers hs₀ hwaiting
    have hlength := hqueue.length_le
    omega

end Hosts

end Memory

end LongPoll
