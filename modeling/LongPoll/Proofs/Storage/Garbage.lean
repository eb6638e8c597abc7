import Mathlib.Data.Set.Card
import LongPoll.Proofs.Engine.Chronicle
import LongPoll.Proofs.Engine.Interleaving
import LongPoll.Proofs.Storage.Collection
/-!
# What a pass removes

A complete pass over an engine removes exactly the garbage and counts exactly what it removes.
`Memory.Cleared` says what that is: which subscriptions, messages, channels and revocations stay,
that nothing else about them changes, and that each count is the number of things of that kind which
are gone. `Memory.cleared_collect` shows it for an engine in good order, and `collect_collect` that
nothing is left for a second pass.

A pass may come at any moment, also while a poll is on its way to its bell. So the engines are those
of crowds (`Crowd.Tended`), in which polls are interrupted anywhere and tokens are revoked.
-/

namespace LongPoll

/-! ### Counting -/

/-- A set that a list shows without repetition has as many elements as the list. -/
theorem encard_of_list {α β : Type} {s : Set α} {f : β → α} (hf : Function.Injective f)
    {l : List β} (hnodup : l.Nodup) (hmem : ∀ a, a ∈ s ↔ ∃ b ∈ l, f b = a) :
    s.encard = l.length := by
  classical
  have hs : s = (↑(l.map f).toFinset : Set α) := by
    ext a
    rw [List.coe_toFinset, Set.mem_ofPred_eq, List.mem_map]
    exact hmem a
  rw [hs, Set.encard_coe_eq_coe_finsetCard, List.toFinset_card_of_nodup (hnodup.map hf),
    List.length_map]

namespace Table

variable {κ ν μ : Type}

/-- Things that the entries of a table hold, each with its key. -/
def items (f : κ → ν → List μ) (t : Table κ ν) : List (κ × μ) :=
  t.entries.flatMap fun e => (f e.1 e.2).map (Prod.mk e.1)

/-- There are as many things as the entries hold in all. -/
theorem length_items (f : κ → ν → List μ) (t : Table κ ν) :
    (t.items f).length = (t.entries.map fun e => (f e.1 e.2).length).sum := by
  simp [items, List.length_flatMap]

/-- No key stands twice, so things repeat only if an entry repeats them. -/
theorem nodup_items {f : κ → ν → List μ} {t : Table κ ν}
    (h : ∀ e ∈ t.entries, (f e.1 e.2).Nodup) : (t.items f).Nodup := by
  refine List.nodup_flatMap.mpr ⟨fun e he => (h e he).map (Prod.mk_right_injective e.1), ?_⟩
  refine (List.pairwise_map.mp t.nodup_keys).imp fun {e e'} hne x hx hx' => ?_
  obtain ⟨_, -, rfl⟩ := List.mem_map.mp hx
  obtain ⟨_, -, heq⟩ := List.mem_map.mp hx'
  exact hne (congrArg Prod.fst heq).symm

/-- What two numbers for each value differ by, the totals differ by in all. -/
theorem total_sub_total_map {f g : ν → Nat} {h : ν → ν} (hg : ∀ v, f v = f (h v) + g v)
    (t : Table κ ν) : t.total f - (t.map h).total f = (t.entries.map fun e => g e.2).sum := by
  have htotal : t.total f = (t.map h).total f + (t.entries.map fun e => g e.2).sum := by
    simp only [total, map, mapEntries]
    induction t.entries with
    | nil => rfl
    | cons e rest ih =>
      simp only [List.map_cons, List.foldr_cons, List.sum_cons] at ih ⊢
      rw [ih, hg e.2]
      omega
  omega

variable [DecidableEq κ]

/-- A thing stands with its key exactly if the entry of this key holds it. -/
theorem mem_items_iff {f : κ → ν → List μ} {t : Table κ ν} {k : κ} {x : μ} :
    (k, x) ∈ t.items f ↔ ∃ v, t.get? k = some v ∧ x ∈ f k v := by
  simp only [items, List.mem_flatMap, List.mem_map, Prod.exists, mem_entries_iff, Prod.mk.injEq]
  constructor
  · rintro ⟨key, v, hget, x', hx, rfl, rfl⟩
    exact ⟨v, hget, hx⟩
  · rintro ⟨v, hget, hx⟩
    exact ⟨k, v, hget, x, hx, rfl, rfl⟩

/-- The keys that a filter takes out of a table. -/
def gone (p : κ → ν → Bool) (t : Table κ ν) : List κ :=
  t.keys.filter fun k => ((t.filter p).get? k).isNone

/-- A key goes exactly if it was there and the filter has left nothing under it. -/
theorem mem_gone_iff {p : κ → ν → Bool} {t : Table κ ν} {k : κ} :
    k ∈ t.gone p ↔ t.contains k = true ∧ (t.filter p).contains k = false := by
  rw [gone, List.mem_filter, mem_keys_iff, ← Option.isSome_iff_exists, contains, contains,
    ← Option.not_isSome, Bool.not_eq_true']

theorem nodup_gone (p : κ → ν → Bool) (t : Table κ ν) : (t.gone p).Nodup :=
  t.nodup_keys.sublist List.filter_sublist

/-- The keys that go are as many as the entries that a filter takes out. -/
theorem length_gone (p : κ → ν → Bool) (t : Table κ ν) :
    (t.gone p).length = t.size - (t.filter p).size := by
  have hgone : t.gone p = (t.entries.filter fun e => !p e.1 e.2).map Prod.fst := by
    rw [gone, keys, List.filter_map]
    refine congrArg _ (List.filter_congr fun e he => ?_)
    rw [Function.comp, get?_filter, mem_entries_iff.mp he]
    cases hp : p e.1 e.2 <;> simp [hp]
  have hlength := t.entries.length_eq_length_filter_add fun e => p e.1 e.2
  rw [hgone, List.length_map, size, size, filter]
  dsimp only
  omega

/-- The set of the keys that go is as large as the table gets smaller. -/
theorem encard_gone (p : κ → ν → Bool) (t : Table κ ν) :
    {k | t.contains k = true ∧ (t.filter p).contains k = false}.encard =
      (t.size - (t.filter p).size : Nat) := by
  rw [← length_gone]
  refine encard_of_list Function.injective_id (nodup_gone p t) fun k => ?_
  simp only [Set.mem_ofPred_eq, mem_gone_iff, id, exists_eq_right]

end Table

/-- What the parts of a pass have removed together. -/
theorem CollectStats.foldr_add (parts : List CollectStats) :
    (parts.foldr add zero).subscribers = (parts.map (·.subscribers)).sum ∧
      (parts.foldr add zero).queued = (parts.map (·.queued)).sum ∧
      (parts.foldr add zero).logged = (parts.map (·.logged)).sum := by
  induction parts with
  | nil => exact ⟨rfl, rfl, rfl⟩
  | cons s parts ih =>
    obtain ⟨hsubscribers, hqueued, hlogged⟩ := ih
    simp only [List.foldr_cons, List.map_cons, List.sum_cons, ← hsubscribers, ← hqueued, ← hlogged]
    exact ⟨rfl, rfl, rfl⟩

/-- To go back leads to the first moment if there is none that early. -/
theorem Timestamp.nanos_minus (t : Timestamp) (d : Duration) :
    (t.minus d).nanos = Max.max minNanos (t.nanos - d.nanos) := by
  have hhigh := t.nanos_le
  rw [minus, nanos_clamp]
  omega

/-! ### One engine -/

namespace Memory

/-- What a complete pass makes of the engine `m`, and what it counts, if the clock shows `now` and
channels have the newest definitions. The consumers with a poll that is blocked are those that
`blocked` tells. -/
structure Cleared (m m' : Memory) (stats : CollectStats) (now : Timestamp)
    (newest : ChannelId → Option Channel) (blocked : Locator → Prop) : Prop where
  /-- The bound of a channel is as long ago as it keeps things by its newest definition, or by the
  last known one, and no earlier than the first moment. -/
  bound : ∀ {id c}, m.channels.get? id = some c → (m.collectBound now newest id).nanos =
    Max.max Timestamp.minNanos (now.nanos - ((newest id).getD c.channel).expire.nanos)
  /-- Those subscriptions stay that were active at the bound or later or have a blocked poll. Of
  their queues stays what expires at the bound or later, and all else about them is as it was. -/
  subscription_iff : ∀ {l s'}, m'.subscription? l = some s' ↔
    ∃ s, m.subscription? l = some s ∧
      (m.collectBound now newest l.channel ≤ s.lastActivity ∨ blocked l) ∧
      s' = { s with
        queue := s.queue.filter fun p =>
          decide (m.collectBound now newest l.channel ≤ p.expireAt) }
  /-- Of a log stays what expires at the bound or later. -/
  logOf_eq : ∀ id, m'.logOf id =
    (m.logOf id).filter fun p => decide (m.collectBound now newest id ≤ p.expireAt)
  /-- The index finds exactly the messages that stay in the log. -/
  index_iff : ∀ {id c'}, m'.channels.get? id = some c' → ∀ {name place},
    c'.index.get? name = some place ↔ ∃ p ∈ c'.log, p.message.id = name ∧ p.sequence = place
  /-- Those channels stay that have a message or a subscriber left. -/
  contains_iff : ∀ id, m'.channels.contains id = true ↔
    m'.logOf id ≠ [] ∨ ∃ s, (m'.subscription? ⟨id, s⟩).isSome = true
  /-- A channel that stays goes by its newest definition from now on, if there is one. -/
  channel_eq : ∀ {id c'}, m'.channels.get? id = some c' →
    ∃ c, m.channels.get? id = some c ∧ c'.channel = (newest id).getD c.channel
  /-- Those revocations stay whose tokens expire now or later. -/
  revoked_iff : ∀ {jti exp}, m'.revoked.get? jti = some exp ↔
    m.revoked.get? jti = some exp ∧ now ≤ exp
  /-- No bell is touched. -/
  bells_eq : m'.bells = m.bells
  /-- The next publish has the place that it would have had. -/
  nextSequence_eq : m'.nextSequence = m.nextSequence
  /-- The subscriptions that are gone are counted. -/
  subscribers_eq : {l | (m.subscription? l).isSome = true ∧ m'.subscription? l = none}.encard =
    stats.subscribers
  /-- The messages are counted that are gone from queues which are still there. -/
  queued_eq : {x : Locator × Posted | ∃ s s', m.subscription? x.1 = some s ∧
    m'.subscription? x.1 = some s' ∧ x.2 ∈ s.queue ∧ x.2 ∉ s'.queue}.encard = stats.queued
  /-- The messages that are gone from logs are counted. -/
  logged_eq : {x : ChannelId × Posted | x.2 ∈ m.logOf x.1 ∧ x.2 ∉ m'.logOf x.1}.encard =
    stats.logged
  /-- The channels that are gone are counted. -/
  channels_eq : {id | m.channels.contains id = true ∧ m'.channels.contains id = false}.encard =
    stats.channels
  /-- The revocations that are gone are counted. -/
  revocations_eq : {jti | m.revoked.contains jti = true ∧ m'.revoked.contains jti = false}.encard =
    stats.revocations

section Collect

variable (m : Memory) (now : Timestamp) (newest : ChannelId → Option Channel)

/-- The bound of a channel that is there goes by its newest or last known definition. -/
theorem collectBound_of_get? {m : Memory} {id : ChannelId} {c : ChannelState}
    (h : m.channels.get? id = some c) :
    m.collectBound now newest id = now.minus ((newest id).getD c.channel).expire := by
  rw [collectBound, h]

/-- A subscription is found with the subscribers of its channel. -/
theorem subscription?_of_get? {m : Memory} {id : ChannelId} {c : ChannelState}
    (h : m.channels.get? id = some c) (s : SubscriberId) :
    m.subscription? ⟨id, s⟩ = c.subscribers.get? s := by
  rw [subscription?, h, Option.bind_some]

/-- A channel that a pass has left has a message or a subscriber. -/
theorem contains_collect_iff (id : ChannelId) :
    (m.collect now newest).1.channels.contains id = true ↔
      (m.collect now newest).1.logOf id ≠ [] ∨
        ∃ s, ((m.collect now newest).1.subscription? ⟨id, s⟩).isSome = true := by
  have hget := m.get?_channels_collect now newest id
  rw [Table.contains]
  cases hc : (m.collect now newest).1.channels.get? id with
  | none => simp [logOf, subscription?, hc]
  | some c =>
    rw [hc] at hget
    have hkept := (Option.filter_eq_some_iff.mp hget.symm).2
    simp only [logOf_of_get? hc, subscription?_of_get? hc, Option.isSome_some, true_iff]
    rw [Bool.not_eq_true', ChannelState.isVacant, Bool.and_eq_false_iff] at hkept
    -- hlog | a channel that is not vacant has a subscriber or a message
    rcases hkept with hsome | hlog
    · refine Or.inr (Classical.not_forall_not.mp fun hnone => ?_)
      have hempty : c.subscribers.isEmpty = true :=
        Table.isEmpty_iff.mpr fun s => Option.not_isSome_iff_eq_none.mp (hnone s)
      rw [hsome] at hempty
      exact Bool.false_ne_true hempty
    · exact Or.inl fun heq => by simp [heq] at hlog

/-- Whether a pass spares a subscription. -/
def spares (id : ChannelId) (s : Subscription) : Bool :=
  !m.isIdle (m.collectBound now newest id) s

/-- The messages that a pass removes from a queue or a log. -/
def stale (id : ChannelId) (ps : List Posted) : List Posted :=
  ps.filter fun p => decide (p.expireAt < m.collectBound now newest id)

/-- What stays is what is not stale. -/
theorem length_eq_add_length_stale (id : ChannelId) (ps : List Posted) : ps.length =
    (ps.filter fun p => decide (m.collectBound now newest id ≤ p.expireAt)).length +
      (m.stale now newest id ps).length := by
  rw [ps.length_eq_length_filter_add fun p => decide (m.collectBound now newest id ≤ p.expireAt),
    stale]
  simp only [← Timestamp.not_lt, decide_not, Bool.not_not]

/-- A message is stale exactly if it does not stay. -/
theorem mem_stale_iff {id : ChannelId} {ps : List Posted} {p : Posted} :
    p ∈ m.stale now newest id ps ↔ p ∈ ps ∧
      p ∉ ps.filter fun p => decide (m.collectBound now newest id ≤ p.expireAt) := by
  rw [stale, List.mem_filter, List.mem_filter, decide_eq_true_eq, decide_eq_true_eq,
    ← Timestamp.not_lt]
  constructor
  · exact fun ⟨hp, hlt⟩ => ⟨hp, fun hkept => hkept.2 hlt⟩
  · exact fun ⟨hp, hgone⟩ => ⟨hp, Classical.not_not.mp fun hlt => hgone ⟨hp, hlt⟩⟩

/-- What a pass removes is counted channel by channel. -/
theorem counts_collect :
    (m.collect now newest).2.subscribers = (m.channels.items fun id c =>
        c.subscribers.gone fun _ => m.spares now newest id).length ∧
      (m.collect now newest).2.queued = (m.channels.items fun id c =>
        (c.subscribers.filter fun _ => m.spares now newest id).items fun _ s =>
          m.stale now newest id s.queue).length ∧
      (m.collect now newest).2.logged =
        (m.channels.items fun id c => m.stale now newest id c.log).length := by
  -- the bound of a channel is the one that its own part of the pass goes by
  have hbound : ∀ e ∈ m.channels.entries, now.minus ((newest e.1).getD e.2.channel).expire =
      m.collectBound now newest e.1 := fun e he =>
    (collectBound_of_get? now newest (Table.mem_entries_iff.mp he)).symm
  -- the counts are sums over channels, and so are the lengths
  obtain ⟨hsubscribers, hqueued, hlogged⟩ := CollectStats.foldr_add
    ((m.channels.mapEntries fun id c => m.collectChannel now (newest id) c).values.map Prod.snd)
  simp only [Table.length_items]
  refine ⟨hsubscribers.trans ?_, hqueued.trans ?_, hlogged.trans ?_⟩ <;>
    simp only [Table.values, Table.mapEntries, List.map_map] <;>
    refine congrArg List.sum (List.map_congr_left fun e he => ?_) <;>
    simp only [Function.comp, collectChannel, hbound e he]
  · rw [Table.length_gone]
    rfl
  · exact Table.total_sub_total_map (f := fun s : Subscription => s.queue.length)
      (g := fun s => (m.stale now newest e.1 s.queue).length)
      (fun s => m.length_eq_add_length_stale now newest e.1 s.queue) _
  · have hlength := m.length_eq_add_length_stale now newest e.1 e.2.log
    omega

/-- A pass keeps the subscriptions that it spares. -/
theorem isSome_subscription?_collect (l : Locator) :
    ((m.collect now newest).1.subscription? l).isSome =
      ((m.subscription? l).filter (m.spares now newest l.channel)).isSome := by
  rw [subscription?_collect, Option.isSome_map]
  rfl

/-- A pass takes out of a queue that it leaves what is stale. -/
theorem exists_removed_iff {l : Locator} {p : Posted} :
    (∃ s s', m.subscription? l = some s ∧ (m.collect now newest).1.subscription? l = some s' ∧
      p ∈ s.queue ∧ p ∉ s'.queue) ↔
    ∃ s, m.subscription? l = some s ∧ m.spares now newest l.channel s = true ∧
      p ∈ m.stale now newest l.channel s.queue := by
  simp only [subscription?_collect, Option.map_eq_some_iff, Option.filter_eq_some_iff,
    mem_stale_iff]
  constructor
  · rintro ⟨s, _, hs, ⟨s₀, ⟨hs₀, hspared⟩, rfl⟩, hp, hgone⟩
    obtain rfl := Option.some.inj (hs.symm.trans hs₀)
    exact ⟨s, hs, hspared, hp, hgone⟩
  · rintro ⟨s, hs, hspared, hp, hgone⟩
    exact ⟨s, _, hs, ⟨s, ⟨hs, hspared⟩, rfl⟩, hp, hgone⟩

/-- The count of subscribers is the number of subscriptions that are gone. -/
theorem encard_subscribers_collect :
    {l | (m.subscription? l).isSome = true ∧
      (m.collect now newest).1.subscription? l = none}.encard =
        (m.collect now newest).2.subscribers := by
  rw [(m.counts_collect now newest).1]
  refine encard_of_list (f := fun x => (⟨x.1, x.2⟩ : Locator)) (fun x y h => ?_)
    (Table.nodup_items fun e _ => Table.nodup_gone _ _) fun l => ?_
  · exact Prod.ext (congrArg Locator.channel h) (congrArg Locator.subscriber h)
  · rw [Set.mem_ofPred_eq, ← Option.not_isSome_iff_eq_none, isSome_subscription?_collect]
    constructor
    · rintro ⟨hsome, hgone⟩
      obtain ⟨s, hs⟩ := Option.isSome_iff_exists.mp hsome
      -- a subscription that is gone is one of its channel's that is not spared
      obtain ⟨c, hc, hget⟩ := Option.bind_eq_some_iff.mp hs
      refine ⟨(l.channel, l.subscriber), Table.mem_items_iff.mpr ⟨c, hc, ?_⟩, rfl⟩
      rw [hs] at hgone
      rw [Table.mem_gone_iff, Table.contains, Table.contains, Table.get?_filter, hget]
      exact ⟨rfl, Bool.eq_false_iff.mpr hgone⟩
    · rintro ⟨⟨id, s⟩, hmem, rfl⟩
      -- conversely, what the channel lists as gone is gone from the engine
      obtain ⟨c, hc, hgone⟩ := Table.mem_items_iff.mp hmem
      rw [Table.mem_gone_iff, Table.contains, Table.contains, Table.get?_filter] at hgone
      rw [subscription?_of_get? hc]
      exact hgone.imp_right Bool.eq_false_iff.mp

/-- The count of queued messages is right if no queue has a message twice. -/
theorem encard_queued_collect (hqueues : ∀ l s, m.subscription? l = some s → InOrder s.queue) :
    {x : Locator × Posted | ∃ s s', m.subscription? x.1 = some s ∧
      (m.collect now newest).1.subscription? x.1 = some s' ∧ x.2 ∈ s.queue ∧
        x.2 ∉ s'.queue}.encard = (m.collect now newest).2.queued := by
  -- the count is the length of a list, which has to show the set without repetition
  rw [(m.counts_collect now newest).2.1]
  refine encard_of_list (f := fun x => ((⟨x.1, x.2.1⟩ : Locator), x.2.2)) (fun x y h => ?_)
    (Table.nodup_items fun e he => Table.nodup_items fun e' he' => ?_) fun x => ?_
  · obtain ⟨hlocator, hposted⟩ := Prod.mk.inj h
    exact Prod.ext (congrArg Locator.channel hlocator)
      (Prod.ext (congrArg Locator.subscriber hlocator) hposted)
  · refine (hqueues ⟨e.1, e'.1⟩ e'.2 ?_).nodup.sublist List.filter_sublist
    rw [subscription?_of_get? (Table.mem_entries_iff.mp he)]
    exact Table.mem_entries_iff.mp (List.mem_of_mem_filter he')
  · rw [Set.mem_ofPred_eq, exists_removed_iff]
    constructor
    · rintro ⟨s, hs, hspared, hp⟩
      obtain ⟨c, hc, hget⟩ := Option.bind_eq_some_iff.mp hs
      refine ⟨(x.1.channel, x.1.subscriber, x.2), Table.mem_items_iff.mpr ⟨c, hc, ?_⟩, rfl⟩
      rw [Table.mem_items_iff]
      refine ⟨s, ?_, hp⟩
      rw [Table.get?_filter, hget, Option.filter_some, if_pos hspared]
    · rintro ⟨⟨id, s, p⟩, hmem, rfl⟩
      obtain ⟨c, hc, hitem⟩ := Table.mem_items_iff.mp hmem
      obtain ⟨sub, hget, hp⟩ := Table.mem_items_iff.mp hitem
      rw [Table.get?_filter, Option.filter_eq_some_iff] at hget
      refine ⟨sub, ?_, hget.2, hp⟩
      rw [subscription?_of_get? hc]
      exact hget.1

/-- The count of logged messages is right if the logs are in order. -/
theorem encard_logged_collect (hindexed : m.Indexed) :
    {x : ChannelId × Posted | x.2 ∈ m.logOf x.1 ∧
      x.2 ∉ (m.collect now newest).1.logOf x.1}.encard = (m.collect now newest).2.logged := by
  rw [(m.counts_collect now newest).2.2]
  refine encard_of_list (f := id) Function.injective_id (Table.nodup_items fun e he => ?_)
    fun x => ?_
  -- a log in order has no message twice
  · have hlog := hindexed.inOrder_logOf e.1
    rw [logOf_of_get? (Table.mem_entries_iff.mp he)] at hlog
    exact hlog.nodup.sublist List.filter_sublist
  · rw [Set.mem_ofPred_eq, logOf_collect, ← mem_stale_iff]
    constructor
    · intro hp
      -- a log with a message belongs to a channel that is there
      cases hc : m.channels.get? x.1 with
      | none =>
        rw [logOf, hc] at hp
        exact absurd hp List.not_mem_nil
      | some c =>
        rw [logOf_of_get? hc] at hp
        exact ⟨x, Table.mem_items_iff.mpr ⟨c, hc, hp⟩, rfl⟩
    · rintro ⟨x, hmem, rfl⟩
      obtain ⟨c, hc, hp⟩ := Table.mem_items_iff.mp hmem
      rw [id, logOf_of_get? hc]
      exact hp

/-- The count of channels is the number of channels that are gone. -/
theorem encard_channels_collect :
    {id | m.channels.contains id = true ∧
      (m.collect now newest).1.channels.contains id = false}.encard =
        (m.collect now newest).2.channels := by
  have hgone := Table.encard_gone (fun _ c => !c.isVacant)
    ((m.channels.mapEntries fun id c => m.collectChannel now (newest id) c).map Prod.fst)
  have hsize : ((m.channels.mapEntries fun id c => m.collectChannel now (newest id) c).map
      Prod.fst).size = (m.channels.mapEntries fun id c =>
        m.collectChannel now (newest id) c).size := List.length_map ..
  simp only [hsize, Table.contains, Table.get?_map, Table.get?_mapEntries, Option.isSome_map]
    at hgone
  exact hgone

/-- The count of revocations is the number of revocations that are gone. -/
theorem encard_revocations_collect :
    {jti | m.revoked.contains jti = true ∧
      (m.collect now newest).1.revoked.contains jti = false}.encard =
        (m.collect now newest).2.revocations :=
  Table.encard_gone _ m.revoked

end Collect

/-- A complete pass over an engine in good order removes exactly the garbage and counts it, if its
bells have counted the polls that are blocked. -/
theorem cleared_collect {m : Memory} (now : Timestamp) (newest : ChannelId → Option Channel)
    (hindexed : m.Indexed) (hqueues : ∀ l s, m.subscription? l = some s → InOrder s.queue)
    {blocked : Locator → Prop}
    (hblocked : ∀ {l s}, m.subscription? l = some s → (blocked l ↔ 0 < (m.bell s.bell).blocked)) :
    m.Cleared (m.collect now newest).1 (m.collect now newest).2 now newest blocked where
  bound h := by rw [collectBound_of_get? now newest h, Timestamp.nanos_minus]
  subscription_iff {l s'} := by
    rw [subscription?_collect, Option.map_eq_some_iff]
    -- a subscription is idle if it is old and nobody is blocked at its bell
    simp only [Option.filter_eq_some_iff, isIdle, Bool.not_eq_true', Bool.and_eq_false_iff,
      decide_eq_false_iff_not, Timestamp.not_lt, beq_eq_false_iff_ne, ← Nat.pos_iff_ne_zero]
    constructor
    · rintro ⟨s, ⟨hs, hspared⟩, rfl⟩
      exact ⟨s, hs, hspared.imp_right (hblocked hs).mpr, rfl⟩
    · rintro ⟨s, hs, hspared, rfl⟩
      exact ⟨s, ⟨hs, hspared.imp_right (hblocked hs).mp⟩, rfl⟩
  logOf_eq := m.logOf_collect now newest
  index_iff h := (hindexed.collect now newest _ _ h).index_iff _ _
  contains_iff := m.contains_collect_iff now newest
  channel_eq h := by
    rw [get?_channels_collect] at h
    obtain ⟨c, hc, rfl⟩ := Option.map_eq_some_iff.mp (Option.filter_eq_some_iff.mp h).1
    exact ⟨c, hc, rfl⟩
  revoked_iff := by
    intro jti exp
    rw [collect, Table.get?_filter, Option.filter_eq_some_iff, decide_eq_true_eq]
  bells_eq := rfl
  nextSequence_eq := rfl
  subscribers_eq := m.encard_subscribers_collect now newest
  queued_eq := m.encard_queued_collect now newest hqueues
  logged_eq := m.encard_logged_collect now newest hindexed
  channels_eq := m.encard_channels_collect now newest
  revocations_eq := m.encard_revocations_collect now newest

/-! ### A second pass -/

section Again

variable (m : Memory) (now : Timestamp)

/-- A pass finds nothing to remove in a channel that a pass at the same moment has left. -/
theorem collectChannel_collectChannel {m' : Memory} (hbells : m'.bells = m.bells)
    (newest : Option Channel) (c : ChannelState) :
    m'.collectChannel now newest (m.collectChannel now newest c).1 =
      ((m.collectChannel now newest c).1, .zero) := by
  -- the definition that the pass has left is the newest one
  have hchannel : newest.getD (newest.getD c.channel) = newest.getD c.channel := by
    cases newest <;> rfl
  -- both passes go by the same bound
  generalize hsince : now.minus (newest.getD c.channel).expire = since
  generalize htrimmed : ((c.subscribers.filter fun _ s => !m.isIdle since s).map fun s =>
    { s with queue := s.queue.filter fun p => decide (since ≤ p.expireAt) }) = trimmed
  -- who was spared is spared again, for no bell was touched
  have hspared : (trimmed.filter fun _ s => !m'.isIdle since s) = trimmed := by
    refine Table.filter_eq_self fun id s hs => ?_
    rw [← htrimmed, Table.get?_map, Table.get?_filter] at hs
    obtain ⟨s₀, hs₀, rfl⟩ := Option.map_eq_some_iff.mp hs
    have hidle := (Option.filter_eq_some_iff.mp hs₀).2
    simpa only [isIdle, bell, hbells] using hidle
  have hqueues : (trimmed.map fun s =>
      { s with queue := s.queue.filter fun p => decide (since ≤ p.expireAt) }) = trimmed := by
    refine Table.mapEntries_eq_self fun id s hs => ?_
    rw [← htrimmed, Table.get?_map] at hs
    obtain ⟨s₀, -, rfl⟩ := Option.map_eq_some_iff.mp hs
    simp only [List.filter_filter, Bool.and_self]
  -- what is left in the log is not older than the bound
  have hgone : ((c.log.filter fun p => decide (since ≤ p.expireAt)).filter fun p =>
      decide (p.expireAt < since)) = [] := by
    refine List.filter_eq_nil_iff.mpr fun p hp hlt => ?_
    have hle := of_decide_eq_true (List.mem_filter.mp hp).2
    exact Timestamp.not_lt.mpr hle (of_decide_eq_true hlt)
  simp only [collectChannel, hchannel, hsince, htrimmed, hspared, hqueues, hgone, List.foldl_nil,
    List.filter_filter, Bool.and_self, Nat.sub_self]
  rfl

/-- A second pass at the same moment by the same definitions removes nothing and changes
nothing. -/
theorem collect_collect (newest : ChannelId → Option Channel) :
    (m.collect now newest).1.collect now newest = ((m.collect now newest).1, .zero) := by
  have hkept := m.get?_channels_collect now newest
  generalize hm' : (m.collect now newest).1 = m' at hkept ⊢
  have hbells : m'.bells = m.bells := hm' ▸ rfl
  have hrevoked : (m'.revoked.filter fun _ exp => decide (now ≤ exp)) = m'.revoked := by
    refine Table.filter_eq_self fun jti exp hget => ?_
    rw [← hm', collect, Table.get?_filter] at hget
    exact (Option.filter_eq_some_iff.mp hget).2
  -- each channel that is left comes from one of before, so nothing is left to do in it
  have hparts : (m'.channels.mapEntries fun id c => m'.collectChannel now (newest id) c) =
      m'.channels.mapEntries fun _ c => (c, .zero) := by
    refine Table.mapEntries_congr fun id c hget => ?_
    rw [hkept] at hget
    obtain ⟨c₀, -, rfl⟩ := Option.map_eq_some_iff.mp (Option.filter_eq_some_iff.mp hget).1
    exact m.collectChannel_collectChannel now hbells (newest id) c₀
  have hfst : (m'.channels.mapEntries fun _ c => (c, CollectStats.zero)).map Prod.fst =
      m'.channels := by
    simp only [Table.map, Table.mapEntries, List.map_map, Function.comp_def, Prod.mk.eta,
      List.map_id']
  have hoccupied : (m'.channels.filter fun _ c => !c.isVacant) = m'.channels := by
    refine Table.filter_eq_self fun id c hget => ?_
    rw [hkept] at hget
    exact (Option.filter_eq_some_iff.mp hget).2
  have hzero : ((m'.channels.mapEntries fun _ c => (c, CollectStats.zero)).values.map
      Prod.snd).foldr CollectStats.add .zero = .zero := by
    simp only [Table.values, Table.mapEntries, List.map_map]
    induction m'.channels.entries with
    | nil => rfl
    | cons e rest ih => rw [List.map_cons, List.foldr_cons, ih]; rfl
  have hsize : (m'.channels.mapEntries fun _ c => (c, CollectStats.zero)).size =
      m'.channels.size := List.length_map ..
  simp only [collect, hparts, hfst, hoccupied, hzero, hsize, hrevoked, Nat.sub_self]
  rfl

end Again

end Memory

/-! ### Engines that are in use -/

/-- To publish is for the engine what it is in the chronicle. -/
theorem Chronicle.memory_publish (c : Chronicle) (now : Timestamp) (channel : Channel)
    (message : Message) :
    (c.publish now channel message).memory = (c.memory.publish now channel message).1 := by
  unfold publish
  split <;> next heq => rw [heq]

namespace Crowd

/-- The crowds that come about when an engine starts empty and tokens are revoked at it, too. -/
inductive Tended : Crowd → Prop
  | start (now : Timestamp) (time : Nat) (resolver : Resolver) (ticket : Ticket) :
    Tended (opening now time resolver ticket)
  /-- A poll takes a step, a message is published, garbage is collected, or something outside
  changes. -/
  | step {s s' : Crowd} (hs : Tended s) (hstep : s.Step s') : Tended s'
  /-- A token is revoked. -/
  | revoke {s : Crowd} (hs : Tended s) (exp : Timestamp) (jti : Jti) :
    Tended { s with memory := s.memory.revoke exp jti }

/-- A crowd in which nobody revokes a token is tended, too. -/
theorem tended_of_reachable {s : Crowd} (h : s.Reachable) : s.Tended := by
  induction h with
  | start now time resolver ticket => exact .start now time resolver ticket
  | step hs hstep ih => exact ih.step hstep

/-- A consumer has a poll that is blocked: it is counted at a bell, whether it listens there yet or
not. -/
def Blocks (s : Crowd) (l : Locator) : Prop :=
  ∃ p ∈ s.polls, p.order.locator = l ∧ p.stance.bell?.isSome = true

/-- The bell of a subscription has counted the polls of its consumer that are blocked. -/
theorem Sound.blocks_iff {s : Crowd} (h : s.Sound) {l : Locator} {sub : Subscription}
    (hsub : s.memory.subscription? l = some sub) :
    s.Blocks l ↔ 0 < (s.memory.bell sub.bell).blocked := by
  constructor
  · rintro ⟨p, hp, rfl, hblocked⟩
    obtain ⟨b, hb⟩ := Option.isSome_iff_exists.mp hblocked
    obtain ⟨sub', hsub', rfl⟩ := h.attends.seated p hp b hb
    obtain rfl := Option.some.inj (hsub.symm.trans hsub')
    exact h.attends.blocked_pos hp hb
  · intro hpos
    have hcounted : ∃ p ∈ s.polls, p.stance.bell? = some sub.bell := by
      rw [(h.attends.tallies sub.bell).blocked_eq] at hpos
      -- a poll that is counted listens at the bell or is on its way there
      rcases Nat.eq_zero_or_pos (comers s.polls sub.bell) with hnone | hcoming
      · rw [hnone, Nat.add_zero, ticketsAt, List.length_map, pollsAt,
          List.length_pos_iff_exists_mem] at hpos
        obtain ⟨w, hw⟩ := hpos
        obtain ⟨hlistens, hbell⟩ := List.mem_filter.mp hw
        obtain ⟨⟨o, stance⟩, hp, hlistening⟩ := List.mem_filterMap.mp hlistens
        cases stance with
        | listening b =>
          obtain rfl := Option.some.inj hlistening
          exact ⟨_, hp, congrArg some (of_decide_eq_true hbell)⟩
        | _ => cases hlistening
      · obtain ⟨p, hp, hstance⟩ := List.countP_pos_iff.mp hcoming
        refine ⟨p, hp, ?_⟩
        rw [of_decide_eq_true hstance]
        rfl
    obtain ⟨p, hp, hb⟩ := hcounted
    obtain ⟨sub', hsub', heq⟩ := h.attends.seated p hp sub.bell hb
    -- no other subscription has this bell
    exact ⟨p, hp, h.attends.bell_inj hsub' hsub heq, Option.isSome_iff_exists.mpr ⟨_, hb⟩⟩

/-- A look makes of the engine what draining the queue makes of it. -/
theorem memory_look (s : Crowd) (o : PollOrder) (rest : List RunningPoll) :
    (s.look o rest).memory = (s.memory.drain s.now o.channel o.locator o.max).1 := by
  unfold look
  split <;> next heq => rw [heq]

namespace Tended

variable {s : Crowd}

/-- Revoking tokens does not make a crowd unsound. -/
theorem sound (h : s.Tended) : s.Sound := by
  induction h with
  | start now time resolver ticket => exact sound_of_reachable (.start now time resolver ticket)
  | step hs hstep ih => exact ih.step hstep
  | revoke hs exp jti ih =>
    exact ⟨⟨⟨ih.attends.bell_lt, ih.attends.bell_inj⟩, ih.attends.seated, ih.attends.tallies,
      ih.attends.meets⟩, ih.orderly⟩

/-- Each step of an engine is one of what is done to it. -/
theorem faithful_step {s' : Crowd} (hs : s.Sound) (hstep : Step s s') {c : Chronicle}
    (hc : c.Faithful) (hmemory : c.memory = s.memory) :
    ∃ c' : Chronicle, c'.Faithful ∧ c'.memory = s'.memory := by
  -- bells are no part of what a chronicle is about
  have hbell : ∀ b f, ∃ c' : Chronicle, c'.Faithful ∧ c'.memory = s.memory.onBell b f :=
    fun b f => ⟨_, hc.congr (m := c.memory.onBell b f) rfl rfl, by rw [← hmemory]⟩
  -- a publish and a look are done in the chronicle, and all else leaves its logs and queues alone
  cases hstep with
  | publish message =>
    unfold Crowd.publish
    split
    next => exact ⟨c, hc, hmemory⟩
    next channel hfind =>
      -- the message is published there, too
      have hpublish := hc.perform (.publish s.now s.resolver message)
      refine ⟨_, hpublish, ?_⟩
      simp only [Chronicle.perform, hfind]
      rw [← hmemory]
      exact c.memory_publish s.now channel message
  | @look o rest hp =>
    have hid := (hs.orderly_cons hp).channel_id o List.mem_cons_self
    have hdrain : (c.drain s.now o.channel o.locator o.max).Faithful := hc.drain hid o.max
    refine ⟨_, hdrain, ?_⟩
    rw [memory_look, ← hmemory]
    rfl
  | @lastLook o rest hp =>
    have hid := (hs.orderly_cons hp).channel_id o List.mem_cons_self
    have hdrain : (c.drain s.now o.channel o.locator o.max).Faithful := hc.drain hid o.max
    refine ⟨_, hdrain.congr (m := (s.memory.lastLook s.now o).memory) ?_ ?_, rfl⟩ <;>
      rw [(s.memory.lastLook_frame s.now o).1, ← hmemory]
    · exact (c.memory.drain_frame s.now o.channel o.locator o.max).1.symm
    · exact (c.memory.drain_frame s.now o.channel o.locator o.max).2.1.symm
  | listen hp =>
    unfold Crowd.listen
    split <;> exact hbell _ _
  | resume hp hwoken => exact hbell _ _
  | expire hp hlate =>
    exact ⟨_, hc.congr (m := s.memory.leaveBell _ _) (hmemory ▸ rfl) (hmemory ▸ rfl), rfl⟩
  | drop hp =>
    exact ⟨_, hc.congr (m := s.memory.leaveBell _ _) (hmemory ▸ rfl) (hmemory ▸ rfl), rfl⟩
  | collect pace => exact ⟨_, hc.thin (hmemory ▸ s.memory.thins_collectWithin _ _ pace), rfl⟩
  | start locator max deadline =>
    unfold Crowd.start
    split <;> exact ⟨c, hc, hmemory⟩
  | _ => exact ⟨c, hc, hmemory⟩

/-- What an engine in use holds is what has been done to it. -/
theorem faithful (h : s.Tended) : ∃ c : Chronicle, c.Faithful ∧ c.memory = s.memory := by
  induction h with
  | start now time resolver ticket => exact ⟨.start, Chronicle.faithful_start, rfl⟩
  | revoke hs exp jti ih =>
    obtain ⟨c, hc, hmemory⟩ := ih
    exact ⟨_, hc.congr (m := c.memory.revoke exp jti) rfl rfl, by rw [← hmemory]⟩
  | step hs hstep ih =>
    obtain ⟨c, hc, hmemory⟩ := ih
    exact faithful_step hs.sound hstep hc hmemory

/-- A pass over an engine in use removes exactly the garbage, whatever the clock shows then. -/
theorem cleared_collect (h : s.Tended) (now : Timestamp) (newest : ChannelId → Option Channel) :
    s.memory.Cleared (s.memory.collect now newest).1 (s.memory.collect now newest).2 now newest
      s.Blocks := by
  obtain ⟨c, hc, hmemory⟩ := h.faithful
  refine Memory.cleared_collect now newest (hmemory ▸ hc.indexed) (fun l sub hsub => ?_)
    h.sound.blocks_iff
  obtain ⟨ps, -, -, horder⟩ := hc.handed l
  rw [Memory.queueOf_of_subscription? (hmemory ▸ hsub)] at horder
  exact horder.sublist (List.sublist_append_right _ _)

end Tended

end Crowd

/-! ### Passes in the world of storages -/

namespace World

section Answers

variable (w : World) (ids : List ChannelId)

/-- Channels are looked up in order. -/
theorem findChannels_cons (id : ChannelId) :
    (w.findChannels (id :: ids)).1 = ((w.findChannel [] id).1.findChannels ids).1 := by
  rw [findChannels]
  dsimp only
  split <;> rfl

/-- The answer for the first channel comes first, and is left out if there is none. -/
theorem answers_cons_self (id : ChannelId) : w.answers (id :: ids) id =
    (w.findChannel [] id).2.toOption.or ((w.findChannel [] id).1.answers ids id) := by
  rw [answers, findChannels]
  dsimp only
  split
  next channel heq => rw [heq, Table.lookUp?, if_pos rfl]; rfl
  next e heq => rw [heq]; rfl

/-- The answer for another channel comes from the rest of the lookups. -/
theorem answers_cons_of_ne {id id' : ChannelId} (h : id ≠ id') : w.answers (id :: ids) id' =
    (w.findChannel [] id).1.answers ids id' := by
  rw [answers, findChannels]
  dsimp only
  split
  next => rw [Table.lookUp?, if_neg h, answers]
  next => rfl

/-- There is no answer for a channel that is not looked up. -/
theorem answers_of_not_mem {id : ChannelId} (h : id ∉ ids) : w.answers ids id = none := by
  induction ids generalizing w with
  | nil => rfl
  | cons id' ids ih =>
    obtain ⟨hne, hrest⟩ := not_or.mp (List.mem_cons.not.mp h)
    rw [answers_cons_of_ne _ _ (Ne.symm hne), ih _ hrest]

/-- The answer for a channel is what the directory says when its turn has come. -/
theorem answers_of_nodup {before after : List ChannelId} {id : ChannelId}
    (h : (before ++ id :: after).Nodup) : w.answers (before ++ id :: after) id =
      ((w.findChannels before).1.directory.find w.clock id).answer.toOption := by
  -- the channels before this one have their turns first
  induction before generalizing w with
  | nil =>
    obtain ⟨events, heq⟩ := w.findChannel_eq [] id
    rw [List.nil_append, answers_cons_self, heq,
      answers_of_not_mem _ _ (List.nodup_cons.mp h).1, Option.or_none]
    rfl
  | cons id' before ih =>
    obtain ⟨hfresh, hrest⟩ := List.nodup_cons.mp h
    have hne : id' ≠ id := fun heq => hfresh (heq ▸ List.mem_append_right _ List.mem_cons_self)
    rw [List.cons_append, answers_cons_of_ne _ _ hne, ih _ hrest, findChannels_cons,
      (w.confined_findChannel [] [] id').clock_eq]

end Answers

/-- A pass that is complete has looked up the channels of the engine. -/
theorem collect_eq_done {w w' : World} {slot : Nat} {b : MemoryBackend} {timeout : Duration}
    {pace : Pace} {stats : CollectStats} (hb : w.memory? slot = some b)
    (h : w.collect slot timeout pace = (w', .done stats)) :
    w'.memory? slot = some { b with
      memory := (b.memory.collect w.clock (w.answers (pace.route b.memory))).1 } ∧
    stats = (b.memory.collect w.clock (w.answers (pace.route b.memory))).2 := by
  cases hrefusal : Memory.collectRefusal? pace timeout with
  | some refusal =>
    rw [collect_of_refused hb hrefusal] at h
    obtain rfl : refusal = .done stats := congrArg Prod.snd h
    -- a pass that is refused has removed nothing that could be counted
    rcases Memory.collectRefusal?_cases hrefusal with heq | ⟨text, heq⟩ <;> cases heq
  | none =>
    obtain ⟨ids, heq⟩ := collect_of_begun hb hrefusal
    rw [heq] at h
    obtain ⟨rfl, hstats⟩ := Prod.mk.inj h
    have hslot : (w.findChannels ids).1.memory? slot = some b := by
      rw [memory?, backend?, backends_findChannels]
      exact hb
    have hcomplete := b.memory.collectWithin_of_done _ _ _ hstats
    rw [hcomplete] at hstats ⊢
    exact ⟨memory?_of_backend? (backend?_setMemory_self hslot _),
      (CollectResult.done.inj hstats).symm⟩

end World

/-- Every complete pass over an engine in use, at any moment, in any order and whatever the directory
answers, removes exactly the garbage and counts it exactly. Channels go by the answers of the
directory, each of which is asked for when the channel's turn has come. When nothing has happened to
the engine, a second pass at the same moment that gets the same answers removes nothing and changes
nothing. -/
theorem complete_pass_removes_garbage {s : Crowd} (h : s.Tended) {w w' : World} {slot : Nat}
    {b : MemoryBackend} {timeout : Duration} {pace : Pace} {stats : CollectStats}
    (hb : w.memory? slot = some b) (hs : b.memory = s.memory)
    (hdone : w.collect slot timeout pace = (w', .done stats)) :
    ∃ newest m', w'.memory? slot = some { b with memory := m' } ∧
      (∀ before id after, pace.route s.memory = before ++ id :: after →
        newest id = ((w.findChannels before).1.directory.find w.clock id).answer.toOption) ∧
      s.memory.Cleared m' stats w.clock newest s.Blocks ∧
      ∀ {w₂ w₂' : World} {slot₂ : Nat} {b₂ : MemoryBackend} {timeout₂ : Duration} {pace₂ : Pace}
          {stats₂ : CollectStats}, w₂.clock = w.clock →
        w₂.memory? slot₂ = some b₂ → b₂.memory = m' →
        (∀ id ∈ m'.channels.keys, w₂.answers (pace₂.route m') id = newest id) →
        w₂.collect slot₂ timeout₂ pace₂ = (w₂', .done stats₂) →
        stats₂ = .zero ∧ w₂'.memory? slot₂ = some b₂ := by
  obtain ⟨hslot, rfl⟩ := World.collect_eq_done hb hdone
  rw [hs] at hslot ⊢
  -- what the directory says decides what is newest
  refine ⟨_, _, hslot, fun before id after hroute => ?_, h.cleared_collect w.clock _, ?_⟩
  -- the order of the pass names every channel once
  · have hnodup := (pace.perm_route s.memory).nodup_iff.mpr s.memory.channels.nodup_keys
    rw [hroute] at hnodup
    rw [hroute, w.answers_of_nodup hnodup]
  · intro w₂ w₂' slot₂ b₂ timeout₂ pace₂ stats₂ hclock hb₂ hm₂ hsame hdone₂
    obtain ⟨hslot₂, rfl⟩ := World.collect_eq_done hb₂ hdone₂
    -- a second pass goes by the same answers at the same moment
    have hagain := s.memory.collect_collect w.clock (w.answers (pace.route s.memory))
    rw [hm₂, hclock, Memory.collect_congr _ _ hsame, hagain] at hslot₂ ⊢
    refine ⟨rfl, hslot₂.trans ?_⟩
    rw [← hm₂]

namespace Sample

/-- Another channel. -/
def attic : ChannelId := ⟨"attic", by decide +kernel⟩

/-- A consumer of the other channel. -/
def visitor : Locator := ⟨attic, ⟨"visitor", by decide +kernel⟩⟩

/-- A message for the other channel. -/
def note : Message := ⟨attic, ⟨"note", by decide +kernel⟩, ⟨#[104, 101, 121]⟩⟩

/-- A poll has been on its way to its bell for a minute. One message was published for its consumer
at the beginning of it and one at the end. Another consumer has taken a message and left. -/
def lingering : Crowd :=
  let s := Crowd.opening (.clamp 0) 0 (.uniform (.seconds 10)) 0
  let s := ((s.start reader 1 100).turn 0).publish greeting
  let s := ((s.publish note).start visitor 1 100).turn 1
  { s with now := (Timestamp.clamp 0).plus (.seconds 60) }.publish parting

/-- Two tokens are revoked, one of which has expired. -/
def deserted : Crowd :=
  let s := lingering
  let s := { s with memory := s.memory.revoke (.clamp 0) token }
  { s with memory := s.memory.revoke ((Timestamp.clamp 0).plus (.seconds 90)) ⟨"other", by
    decide +kernel⟩ }

/-- The sample crowd comes about in tended use. -/
theorem tended_deserted : deserted.Tended := by
  have hopening := Crowd.Reachable.start (.clamp 0) 0 (.uniform (.seconds 10)) 0
  have hcoming := Crowd.reachable_turn (hopening.step (.start reader 1 100)) 0
  have hpublished := (hcoming.step (.publish greeting)).step (.publish note)
  have hvisited := Crowd.reachable_turn (hpublished.step (.start visitor 1 100)) 1
  have hlater := (hvisited.step (.setClock ((Timestamp.clamp 0).plus (.seconds 60)))).step
    (.publish parting)
  exact ((Crowd.tended_of_reachable hlater).revoke _ _).revoke _ _

/-- The engine in a world where channels keep things for ten seconds. -/
def desertedWorld : World :=
  { World.start ((Timestamp.clamp 0).plus (.seconds 60)) ⟨.uniform (.seconds 10), false, 0, none⟩
      ⟨"off", []⟩ with
    backends :=
      [.memory ⟨⟨false, false, .seconds 1, .seconds 1⟩, deserted.memory, none⟩] }

end Sample

/-- A consumer, a queued message, two logged ones, a channel and a revocation are removed. The
consumer with a blocked poll stays, and so does the message that has not expired. -/
theorem complete_pass_removes_garbage_deserted :
    ∃ w' m', Sample.desertedWorld.collect 0 (.seconds 1) = (w', .done ⟨1, 1, 2, 1, 1⟩) ∧
      w'.memory? 0 = some ⟨⟨false, false, .seconds 1, .seconds 1⟩, m', none⟩ ∧
      (∃ newest, Sample.deserted.memory.Cleared m' ⟨1, 1, 2, 1, 1⟩ Sample.desertedWorld.clock newest
        Sample.deserted.Blocks) ∧
      (m'.subscription? Sample.reader).map (·.queue.map (·.message)) = some [Sample.parting] := by
  -- what the pass counts is computed
  have hdone : Sample.desertedWorld.collect 0 (.seconds 1) =
      ((Sample.desertedWorld.collect 0 (.seconds 1)).1, .done ⟨1, 1, 2, 1, 1⟩) := Prod.ext rfl rfl
  obtain ⟨newest, m', hslot, -, hcleared, -⟩ :=
    complete_pass_removes_garbage Sample.tended_deserted rfl rfl hdone
  refine ⟨_, m', hdone, hslot, ⟨newest, hcleared⟩, ?_⟩
  obtain rfl : _ = m' := congrArg MemoryBackend.memory (Option.some.inj hslot)
  decide +kernel

end LongPoll
