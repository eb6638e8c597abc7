import Mathlib.Data.List.Perm.Basic
import LongPoll.Proofs.Engine.Log
/-!
# Passes that are cut short

The time for a pass may be over anywhere in it. Two things can be said wherever that is.

* A pass that is not cut short is a complete one, whatever the order in which it goes through the
  engine (`Memory.collectWithin_cases`). One that finds time left whenever it looks at the clock is
  not cut short (`Memory.collectWithin_of_all`).
* What a pass leaves is what there was without some of the garbage (`Memory.thins_collectWithin`):
  `Memory.Thins` says that logs and queues only lose messages, that an index goes with its log, and
  that no subscription disappears at whose bell a poll is blocked.
-/

namespace LongPoll

/-- A pass comes to every channel once, if it is not cut short. -/
theorem Pace.perm_route (pace : Pace) (m : Memory) : (pace.route m).Perm m.channels.keys :=
  (pace.channels.perm m.channels.entries).map Prod.fst

/-! ### Passes that come to their end -/

namespace CollectStats

/-- It does not matter which of two parts is added first. -/
theorem add_left_comm (a b c : CollectStats) : a.add (b.add c) = b.add (a.add c) := by
  simp only [add, mk.injEq]
  omega

/-- What the parts of a pass have removed together does not depend on the order of the parts. -/
theorem foldr_add_of_perm {parts parts' : List CollectStats} (h : parts.Perm parts') :
    parts.foldr add zero = parts'.foldr add zero :=
  have : LeftCommutative add := ⟨add_left_comm⟩
  h.foldr_eq zero

end CollectStats

namespace Memory

section InTime

variable {m : Memory} {pace : Pace} {order : Arrangement (SubscriberId × Subscription)}
  {now since : Timestamp} {newest : ChannelId → Option Channel} {left left' : Looks} {n : Nat}

/-- If as many looks find time left as there are subscribers, all of them are come to. -/
theorem mem_reached {t : Table SubscriberId Subscription} (h : left.spend? n = some left')
    (hn : t.size ≤ n) {id : SubscriberId} {s : Subscription} (hs : t.get? id = some s) :
    id ∈ (left.reach (order.arrange t.entries)).map Prod.fst := by
  have hlength : (order.arrange t.entries).length ≤ n := by
    rw [(order.perm t.entries).length_eq]
    exact hn
  rw [Looks.reach_of_spend? h hlength]
  exact List.mem_map_of_mem (f := Prod.fst)
    ((order.perm t.entries).mem_iff.mpr (Table.mem_entries_iff.mpr hs))

/-- Where all subscribers are come to, all that are idle are dropped. -/
theorem evictWithin_of_spend? {t : Table SubscriberId Subscription}
    (h : left.spend? (t.size + 1) = some left') :
    m.evictWithin order since left t = t.filter fun _ s => !m.isIdle since s := by
  unfold evictWithin
  refine Table.filter_congr fun id s hs => ?_
  rw [decide_eq_true (mem_reached h (Nat.le_succ _) hs), Bool.and_true]

/-- Where all subscribers are come to, all their queues lose what has expired. -/
theorem trimWithin_of_spend? {t : Table SubscriberId Subscription}
    (h : left.spend? t.size = some left') :
    trimWithin order since left t = t.map fun s =>
      { s with queue := s.queue.filter fun p => decide (since ≤ p.expireAt) } := by
  unfold trimWithin
  exact Table.mapEntries_congr fun id s hs => if_pos (mem_reached h (Nat.le_refl _) hs)

/-- A part of a pass that is not cut short does what a complete pass does to the channel. -/
theorem collectChannelWithin_eq {newest : Option Channel} {c : ChannelState} {stats : CollectStats}
    (h : (m.collectChannelWithin order now newest c left).2 = some (stats, left')) :
    ((m.collectChannelWithin order now newest c left).1, stats) =
      m.collectChannel now newest c := by
  unfold collectChannelWithin at h ⊢
  dsimp only at h ⊢
  -- a part that is not cut short has found time left after each of its three stages
  cases hevict : left.spend? (c.subscribers.size + 1) with
  | none =>
    rw [hevict] at h
    cases h
  | some left₁ =>
    rw [hevict] at h
    dsimp only at h ⊢
    rw [evictWithin_of_spend? hevict] at h ⊢
    split at h
    next => cases h
    next left₂ htrim =>
      dsimp only
      obtain ⟨left₃, hprune, heq⟩ := Option.map_eq_some_iff.mp h
      have hlate : c.log.length ≤ c.log.length + 1 := Nat.le_succ _
      obtain ⟨rfl, -⟩ := Prod.mk.inj heq
      simp only [ChannelState.pruneWithin, trimWithin_of_spend? htrim,
        Looks.reach_of_spend? hprune hlate, Looks.rest_of_spend? hprune hlate, List.append_nil]
      rfl

/-- A channel is come through if all looks find time left. -/
theorem exists_collectChannelWithin_all (m : Memory)
    (order : Arrangement (SubscriberId × Subscription)) (now : Timestamp)
    (newest : Option Channel) (c : ChannelState) :
    ∃ stats, (m.collectChannelWithin order now newest c .all).2 = some (stats, .all) :=
  ⟨_, rfl⟩

/-- Channels that a pass goes through without being cut short are as a complete pass leaves them. -/
theorem collectEach_eq {entries : List (ChannelId × ChannelState)} {stats : CollectStats}
    (h : (m.collectEach pace now newest entries left).2 = some (stats, left')) :
    (m.collectEach pace now newest entries left).1 =
        entries.map (fun e => (e.1, (m.collectChannel now (newest e.1) e.2).1)) ∧
      stats = (entries.map fun e => (m.collectChannel now (newest e.1) e.2).2).foldr
        CollectStats.add .zero := by
  induction entries generalizing left left' stats with
  | nil =>
    obtain ⟨rfl, -⟩ := Prod.mk.inj (Option.some.inj h)
    exact ⟨rfl, rfl⟩
  | cons e entries ih =>
    obtain ⟨id, c⟩ := e
    rw [collectEach] at h ⊢
    split at h
    next => cases h
    next left₁ hlook =>
      dsimp only
      split at h
      next => cases h
      next c' stats₁ left₂ hchannel =>
        obtain ⟨⟨stats₂, left₃⟩, hrest, heq⟩ := Option.map_eq_some_iff.mp h
        obtain ⟨rfl, -⟩ := Prod.mk.inj heq
        -- the first channel and the others were both gone through to their ends
        obtain ⟨hparts, rfl⟩ := ih hrest
        have hpart := collectChannelWithin_eq (congrArg Prod.snd hchannel)
        rw [hchannel] at hpart
        rw [List.map_cons, List.map_cons, List.foldr_cons, ← hpart]
        exact ⟨congrArg _ hparts, rfl⟩

/-- If all looks find time left, so are all channels. -/
theorem exists_collectEach_all (m : Memory) (pace : Pace) (now : Timestamp)
    (newest : ChannelId → Option Channel) (entries : List (ChannelId × ChannelState)) :
    ∃ stats, (m.collectEach pace now newest entries .all).2 = some (stats, .all) := by
  induction entries with
  | nil => exact ⟨_, rfl⟩
  | cons e entries ih =>
    obtain ⟨stats, hrest⟩ := ih
    obtain ⟨stats₁, hchannel⟩ := m.exists_collectChannelWithin_all
      (pace.subscribers e.1) now (newest e.1) e.2
    cases hpart : m.collectChannelWithin (pace.subscribers e.1) now (newest e.1) e.2 .all with
    | mk c progress =>
      rw [hpart] at hchannel
      obtain rfl : progress = some (stats₁, .all) := hchannel
      simp only [collectEach, Looks.spend?, hpart, hrest]
      exact ⟨_, rfl⟩

end InTime

/-! ### All that can become of a pass -/

section Outcome

variable (m : Memory) (pace : Pace) (now : Timestamp) (newest : ChannelId → Option Channel)

/-- The parts of a pass that is not cut short are found under the names of their channels. -/
theorem mapEntries_parts :
    (m.channels.mapEntries fun id c =>
      (Table.lookUp? id ((pace.channels.arrange m.channels.entries).map fun e =>
        (e.1, (m.collectChannel now (newest e.1) e.2).1))).getD c) =
      m.channels.mapEntries fun id c => (m.collectChannel now (newest id) c).1 := by
  have hperm := pace.channels.perm m.channels.entries
  refine Table.mapEntries_congr fun id c hc => ?_
  have hmem := hperm.mem_iff.mpr (Table.mem_entries_iff.mpr hc)
  -- a permutation of the channels has the same names, each of them once
  have hlook : Table.lookUp? id ((pace.channels.arrange m.channels.entries).map fun e =>
      (e.1, (m.collectChannel now (newest e.1) e.2).1)) =
        some (m.collectChannel now (newest id) c).1 := by
    refine (Table.lookUp?_eq_some_iff ?_).mpr (List.mem_map.mpr ⟨(id, c), hmem, rfl⟩)
    rw [List.map_map]
    exact (pace.perm_route m).nodup_iff.mpr m.channels.nodup_keys
  rw [hlook, Option.getD_some]

/-- What the parts of a pass have removed does not depend on the order of the channels. -/
theorem foldr_add_parts :
    ((pace.channels.arrange m.channels.entries).map fun e =>
      (m.collectChannel now (newest e.1) e.2).2).foldr CollectStats.add .zero =
    ((m.channels.mapEntries fun id c => m.collectChannel now (newest id) c).values.map
      Prod.snd).foldr CollectStats.add .zero := by
  rw [CollectStats.foldr_add_of_perm ((pace.channels.perm m.channels.entries).map _),
    Table.values, Table.mapEntries, List.map_map, List.map_map]
  rfl

/-- A pass is complete and has come to all channels, or the time was over before its end. Then it
has left the revocations alone. -/
theorem collectWithin_cases :
    m.collectWithin pace now newest =
        ⟨(m.collect now newest).1, .done (m.collect now newest).2, m.channels.size⟩ ∨
      (m.collectWithin pace now newest).result = .late ∧
        (m.collectWithin pace now newest).memory.revoked = m.revoked := by
  unfold collectWithin
  dsimp only
  split
  next => exact Or.inr ⟨rfl, rfl⟩
  next stats left hprogress =>
    split
    next => exact Or.inr ⟨rfl, rfl⟩
    next =>
      left
      -- no look has failed, so the parts are those of the pass without a limit
      obtain ⟨hparts, rfl⟩ := collectEach_eq hprogress
      rw [hparts, mapEntries_parts, foldr_add_parts, List.length_map,
        (pace.channels.perm m.channels.entries).length_eq]
      have hfst : ((m.channels.mapEntries fun id c => m.collectChannel now (newest id) c).map
          Prod.fst) = m.channels.mapEntries fun id c => (m.collectChannel now (newest id) c).1 := by
        simp only [Table.map, Table.mapEntries, List.map_map, Function.comp_def]
      have hsize : (m.channels.mapEntries fun id c => m.collectChannel now (newest id) c).size =
          (m.channels.mapEntries fun id c => (m.collectChannel now (newest id) c).1).size := by
        rw [Table.size, Table.size, Table.mapEntries, Table.mapEntries, List.length_map,
          List.length_map]
      simp only [collect, hfst, hsize]
      rfl

/-- A pass that finds time left whenever it looks at the clock is complete. -/
theorem collectWithin_of_all {pace : Pace} (h : pace.looks = .all) :
    m.collectWithin pace now newest =
      ⟨(m.collect now newest).1, .done (m.collect now newest).2, m.channels.size⟩ := by
  rcases m.collectWithin_cases pace now newest with hdone | ⟨hlate, -⟩
  · exact hdone
  · obtain ⟨stats, hprogress⟩ := m.exists_collectEach_all pace now newest
      (pace.channels.arrange m.channels.entries)
    unfold collectWithin at hlate
    simp only [h, hprogress, Looks.spend?] at hlate
    cases hlate

/-- A pass that does not even begin is refused by the clock or has given up. -/
theorem collectRefusal?_cases {pace : Pace} {timeout : Duration} {refusal : CollectResult}
    (h : collectRefusal? pace timeout = some refusal) :
    refusal = .overflow ∨ ∃ text, refusal = .failed (.cancelled text) := by
  unfold collectRefusal? at h
  split at h
  next => exact Or.inl (Option.some.inj h).symm
  next =>
    split at h
    next => exact Or.inr ⟨_, (Option.some.inj h).symm⟩
    next =>
      split at h
      next => exact Or.inr ⟨_, (Option.some.inj h).symm⟩
      next => cases h

/-- A pass that ends well is complete. -/
theorem collectWithin_of_done {stats : CollectStats}
    (h : (m.collectWithin pace now newest).result = .done stats) :
    m.collectWithin pace now newest =
      ⟨(m.collect now newest).1, .done (m.collect now newest).2, m.channels.size⟩ := by
  rcases m.collectWithin_cases pace now newest with hdone | ⟨hlate, -⟩
  · exact hdone
  · rw [hlate] at h
    cases h

end Outcome

end Memory

/-! ### What a pass leaves -/

/-- A subscription on whose bell a poll is blocked is not idle. -/
theorem Memory.isIdle_of_blocked {m : Memory} {s : Subscription}
    (h : 0 < (m.bell s.bell).blocked) (since : Timestamp) : m.isIdle since s = false := by
  have hne : ((m.bell s.bell).blocked == 0) = false := beq_eq_false_iff_ne.mpr (Nat.ne_of_gt h)
  rw [isIdle, hne, Bool.and_false]

/-- The channel `c'` is what is left of the channel `c` of an engine when some of its garbage is
gone. -/
structure ChannelState.Thins (m : Memory) (c c' : ChannelState) : Prop where
  /-- The log has lost messages at most. -/
  log_sublist : c'.log.Sublist c.log
  /-- The index goes with the log. -/
  indexed : ∀ {bound}, c.Indexed bound → c'.Indexed bound
  /-- A subscription that is left was there before, and its queue has lost messages at most. -/
  subscriber : ∀ {id s'}, c'.subscribers.get? id = some s' → ∃ s, c.subscribers.get? id = some s ∧
    s'.queue.Sublist s.queue ∧ s'.lastActivity = s.lastActivity ∧ s'.bell = s.bell
  /-- A subscription stays if a poll is blocked on its bell. -/
  stays : ∀ {id s}, c.subscribers.get? id = some s → 0 < (m.bell s.bell).blocked →
    ∃ s', c'.subscribers.get? id = some s'

namespace ChannelState.Thins

variable {m : Memory} {c c' c'' : ChannelState} {order : Arrangement (SubscriberId × Subscription)}

/-- Where nothing is removed, everything is left. -/
theorem refl (m : Memory) (c : ChannelState) : c.Thins m c where
  log_sublist := .refl _
  indexed h := h
  subscriber h := ⟨_, h, .refl _, rfl, rfl⟩
  stays h _ := ⟨_, h⟩

/-- What is left of what was left is left of what there was. -/
theorem trans (h : c.Thins m c') (h' : c'.Thins m c'') : c.Thins m c'' where
  log_sublist := h'.log_sublist.trans h.log_sublist
  indexed hc := h'.indexed (h.indexed hc)
  subscriber hs := by
    obtain ⟨s', hs', hqueue', hactivity', hbell'⟩ := h'.subscriber hs
    obtain ⟨s, hs, hqueue, hactivity, hbell⟩ := h.subscriber hs'
    exact ⟨s, hs, hqueue'.trans hqueue, hactivity'.trans hactivity, hbell'.trans hbell⟩
  stays hs hblocked := by
    obtain ⟨s', hs'⟩ := h.stays hs hblocked
    -- the subscription is at the bell at which it was
    obtain ⟨s₀, hs₀, -, -, hbell⟩ := h.subscriber hs'
    rw [Option.some.inj (hs.symm.trans hs₀), ← hbell] at hblocked
    exact h'.stays hs' hblocked

/-- To take note of a new definition removes nothing. -/
theorem define (m : Memory) (c : ChannelState) (channel : Channel) :
    c.Thins m { c with channel := channel } where
  log_sublist := .refl _
  indexed h := h.congr rfl rfl
  subscriber h := ⟨_, h, .refl _, rfl, rfl⟩
  stays h _ := ⟨_, h⟩

/-- To drop idle subscriptions spares those at whose bells polls are blocked. -/
theorem evictWithin (m : Memory) (order : Arrangement (SubscriberId × Subscription))
    (since : Timestamp) (left : Looks) (c : ChannelState) :
    c.Thins m { c with subscribers := m.evictWithin order since left c.subscribers } where
  log_sublist := .refl _
  indexed h := h.congr rfl rfl
  subscriber h := by
    rw [Memory.evictWithin, Table.get?_filter] at h
    exact ⟨_, (Option.filter_eq_some_iff.mp h).1, .refl _, rfl, rfl⟩
  stays {id s} hs hblocked := by
    refine ⟨s, ?_⟩
    rw [Memory.evictWithin, Table.get?_filter, hs, Option.filter_some,
      Memory.isIdle_of_blocked hblocked]
    rfl

/-- To drop expired messages from queues drops no subscription. -/
theorem trimWithin (m : Memory) (order : Arrangement (SubscriberId × Subscription))
    (since : Timestamp) (left : Looks) (c : ChannelState) :
    c.Thins m { c with subscribers := Memory.trimWithin order since left c.subscribers } where
  log_sublist := .refl _
  indexed h := h.congr rfl rfl
  subscriber h := by
    rw [Memory.trimWithin, Table.get?_mapEntries] at h
    obtain ⟨s, hs, rfl⟩ := Option.map_eq_some_iff.mp h
    refine ⟨s, hs, ?_⟩
    split
    · exact ⟨List.filter_sublist, rfl, rfl⟩
    · exact ⟨.refl _, rfl, rfl⟩
  stays hs _ := by
    rw [Memory.trimWithin, Table.get?_mapEntries, hs]
    exact ⟨_, rfl⟩

/-- To drop expired messages from the log is no matter of subscriptions. -/
theorem pruneWithin (m : Memory) (c : ChannelState) (since : Timestamp) (left : Looks) :
    c.Thins m (c.pruneWithin since left) where
  log_sublist := c.log_pruneWithin_sublist since left
  indexed h := h.pruneWithin since left
  subscriber h := ⟨_, h, .refl _, rfl, rfl⟩
  stays h _ := ⟨_, h⟩

end ChannelState.Thins

namespace Memory

variable {m m' : Memory}

/-- Wherever a pass is cut short in a channel, it leaves what there was without some garbage. -/
theorem thins_collectChannelWithin (m : Memory)
    (order : Arrangement (SubscriberId × Subscription)) (now : Timestamp)
    (newest : Option Channel) (c : ChannelState) (left : Looks) :
    c.Thins m (m.collectChannelWithin order now newest c left).1 := by
  unfold collectChannelWithin
  dsimp only
  generalize now.minus (newest.getD c.channel).expire = since
  have hevict := (ChannelState.Thins.define m c (newest.getD c.channel)).trans
    (.evictWithin m order since left _)
  split
  next => exact hevict
  next left₁ _ =>
    have htrim := hevict.trans (.trimWithin m order since left₁ _)
    split
    next => exact htrim
    next left₂ _ => exact htrim.trans (.pruneWithin m _ since left₂)

/-- So it does with every channel that it has come to. -/
theorem thins_collectEach {pace : Pace} {now : Timestamp} {newest : ChannelId → Option Channel}
    {entries : List (ChannelId × ChannelState)} {left : Looks} {id : ChannelId} {c' : ChannelState}
    (h : (id, c') ∈ (m.collectEach pace now newest entries left).1) :
    ∃ c, (id, c) ∈ entries ∧ c.Thins m c' := by
  induction entries generalizing left with
  | nil => cases h
  | cons e entries ih =>
    obtain ⟨name, c⟩ := e
    rw [collectEach] at h
    split at h
    next => cases h
    next left₁ _ =>
      -- the pass has come to this channel; whether it goes on depends on the looks that are left
      have hthins := m.thins_collectChannelWithin (pace.subscribers name) now (newest name) c left₁
      split at h
      next heq =>
        obtain ⟨rfl, rfl⟩ := Prod.mk.inj (List.mem_singleton.mp h)
        rw [heq] at hthins
        exact ⟨c, List.mem_cons_self, hthins⟩
      next heq =>
        rcases List.mem_cons.mp h with hfirst | hlater
        · obtain ⟨rfl, rfl⟩ := Prod.mk.inj hfirst
          rw [heq] at hthins
          exact ⟨c, List.mem_cons_self, hthins⟩
        · obtain ⟨c, hc, hthins⟩ := ih hlater
          exact ⟨c, List.mem_cons_of_mem _ hc, hthins⟩

/-- The engine `m'` is what is left of the engine `m` when some garbage is gone. -/
structure Thins (m m' : Memory) : Prop where
  /-- A channel that is left was there before. -/
  channel : ∀ {id c'}, m'.channels.get? id = some c' →
    ∃ c, m.channels.get? id = some c ∧ c.Thins m c'
  /-- A subscription stays if a poll is blocked on its bell. -/
  stays : ∀ {l s}, m.subscription? l = some s → 0 < (m.bell s.bell).blocked →
    ∃ s', m'.subscription? l = some s'
  /-- No bell is touched. -/
  bells_eq : m'.bells = m.bells
  /-- The next publish has the place that it would have had. -/
  nextSequence_eq : m'.nextSequence = m.nextSequence

namespace Thins

/-- Where nothing is removed, the engine is as it was. -/
theorem refl (m : Memory) : m.Thins m where
  channel h := ⟨_, h, .refl m _⟩
  stays h _ := ⟨_, h⟩
  bells_eq := rfl
  nextSequence_eq := rfl

/-- An engine of which every channel has lost some garbage at most. -/
theorem of_mapEntries {f : ChannelId → ChannelState → ChannelState}
    (h : ∀ id c, m.channels.get? id = some c → c.Thins m (f id c)) :
    m.Thins { m with channels := m.channels.mapEntries f } where
  channel {id c'} hc' := by
    rw [Table.get?_mapEntries] at hc'
    obtain ⟨c, hc, rfl⟩ := Option.map_eq_some_iff.mp hc'
    exact ⟨c, hc, h id c hc⟩
  stays {l s} hs hblocked := by
    obtain ⟨c, hc, hget⟩ := Option.bind_eq_some_iff.mp hs
    obtain ⟨s', hs'⟩ := (h l.channel c hc).stays hget hblocked
    refine ⟨s', ?_⟩
    rw [subscription?, Table.get?_mapEntries, hc]
    exact hs'
  bells_eq := rfl
  nextSequence_eq := rfl

/-- To drop channels that are vacant, or revocations, is no loss to anybody. -/
theorem dropVacant (h : m.Thins m') (revoked : Table Jti Timestamp) :
    m.Thins { m' with
      channels := m'.channels.filter fun _ c => !c.isVacant
      revoked := revoked } where
  channel hc' := by
    rw [Table.get?_filter] at hc'
    exact h.channel (Option.filter_eq_some_iff.mp hc').1
  stays {l s} hs hblocked := by
    obtain ⟨s', hs'⟩ := h.stays hs hblocked
    obtain ⟨c', hc', hget⟩ := Option.bind_eq_some_iff.mp hs'
    -- a channel with a subscription is not vacant
    have hnonempty : c'.subscribers.isEmpty = false := by
      refine Bool.eq_false_iff.mpr fun hempty => ?_
      rw [Table.isEmpty_iff.mp hempty] at hget
      cases hget
    refine ⟨s', ?_⟩
    rw [subscription?, Table.get?_filter, hc', Option.filter_some, ChannelState.isVacant,
      hnonempty]
    exact hget
  bells_eq := h.bells_eq
  nextSequence_eq := h.nextSequence_eq

theorem bell_eq (h : m.Thins m') (b : BellId) : m'.bell b = m.bell b := by
  rw [bell, bell, h.bells_eq]

/-- Every index goes with its log. -/
theorem indexed (h : m.Thins m') (hm : m.Indexed) : m'.Indexed := by
  intro id c' hc'
  obtain ⟨c, hc, hthins⟩ := h.channel hc'
  rw [h.nextSequence_eq]
  exact hthins.indexed (hm id c hc)

/-- A log has lost messages at most. -/
theorem logOf_sublist (h : m.Thins m') (id : ChannelId) : (m'.logOf id).Sublist (m.logOf id) := by
  cases hc' : m'.channels.get? id with
  | none =>
    rw [logOf, hc']
    exact List.nil_sublist _
  | some c' =>
    obtain ⟨c, hc, hthins⟩ := h.channel hc'
    rw [logOf_of_get? hc', logOf_of_get? hc]
    exact hthins.log_sublist

/-- A subscription that is left was there before, and its queue has lost messages at most. -/
theorem subscription (h : m.Thins m') {l : Locator} {s' : Subscription}
    (hs' : m'.subscription? l = some s') : ∃ s, m.subscription? l = some s ∧
      s'.queue.Sublist s.queue ∧ s'.lastActivity = s.lastActivity ∧ s'.bell = s.bell := by
  obtain ⟨c', hc', hget'⟩ := Option.bind_eq_some_iff.mp hs'
  obtain ⟨c, hc, hthins⟩ := h.channel hc'
  obtain ⟨s, hget, hsame⟩ := hthins.subscriber hget'
  refine ⟨s, ?_, hsame⟩
  rw [subscription?, hc]
  exact hget

end Thins

section Thins

variable (m : Memory) (now : Timestamp) (newest : ChannelId → Option Channel)

/-- Wherever a pass is cut short, it leaves what there was without some garbage. -/
theorem thins_collectWithin (pace : Pace) :
    m.Thins (m.collectWithin pace now newest).memory := by
  unfold collectWithin
  dsimp only
  generalize hparts : (m.collectEach pace now newest
    (pace.channels.arrange m.channels.entries) pace.looks).1 = parts
  have hcut : m.Thins { m with
      channels := m.channels.mapEntries fun id c => (Table.lookUp? id parts).getD c } := by
    refine Thins.of_mapEntries fun id c hc => ?_
    cases hlook : Table.lookUp? id parts with
    | none => exact .refl m c
    | some c' =>
      have hmem := Table.mem_of_lookUp? hlook
      rw [← hparts] at hmem
      obtain ⟨c₀, hc₀, hthins⟩ := thins_collectEach hmem
      -- the pass has come to the channel itself
      have hget := Table.mem_entries_iff.mp ((pace.channels.perm _).mem_iff.mp hc₀)
      obtain rfl := Option.some.inj (hc.symm.trans hget)
      exact hthins
  split
  next => exact hcut
  next =>
    split
    next => exact hcut.dropVacant m.revoked
    next => exact hcut.dropVacant _

/-- A complete pass leaves what there was without some garbage. -/
theorem thins_collect : m.Thins (m.collect now newest).1 := by
  have hthins := m.thins_collectWithin now newest .unhurried
  rwa [m.collectWithin_of_all now newest rfl] at hthins

end Thins

/-- A complete pass keeps every index with its log. -/
theorem Indexed.collect (h : m.Indexed) (now : Timestamp) (newest : ChannelId → Option Channel) :
    (m.collect now newest).1.Indexed := (m.thins_collect now newest).indexed h

end Memory

end LongPoll
