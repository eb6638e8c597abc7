import Mathlib.Data.List.Nodup
import LongPoll.Proofs.Engine.View
/-!
# Logs and their indexes

A channel keeps a log of messages in the order of publishing and an index from message names to
places in that order. `ChannelState.Indexed` says that the two agree; `Memory.Indexed` says so of
every channel of an engine, and every operation keeps it (`Memory.Indexed.publish`,
`Memory.Indexed.look`; for passes `Memory.Thins.indexed`).

For channels of this kind the test for duplicates looks at the whole log (`shows_iff`), and a post
takes out of the log what stands there under the same name (`log_post`).
-/

namespace LongPoll

/-- The messages stand in the order of publishing. -/
def InOrder (ps : List Posted) : Prop := ps.Pairwise fun p q => p.sequence < q.sequence

namespace InOrder

variable {ps qs : List Posted}

theorem sublist (h : InOrder ps) (hsub : qs.Sublist ps) : InOrder qs := List.Pairwise.sublist hsub h

/-- A message that is published after all others goes to the end. -/
theorem append {p : Posted} (h : InOrder ps) (hlast : ∀ q ∈ ps, q.sequence < p.sequence) :
    InOrder (ps ++ [p]) := by
  refine List.pairwise_append.mpr ⟨h, List.pairwise_singleton _ _, fun q hq r hr => ?_⟩
  rw [List.mem_singleton.mp hr]
  exact hlast q hq

/-- The place in the order of publishing tells messages apart. -/
theorem eq_of_sequence_eq (h : InOrder ps) {p q : Posted} (hp : p ∈ ps) (hq : q ∈ ps)
    (heq : p.sequence = q.sequence) : p = q := by
  have hnodup : (ps.map Posted.sequence).Nodup := List.pairwise_map.mpr (h.imp Nat.ne_of_lt)
  exact List.inj_on_of_nodup_map hnodup hp hq heq

/-- No message stands twice where places in the order of publishing grow. -/
theorem nodup (h : InOrder ps) : ps.Nodup :=
  h.imp fun hlt heq => absurd (heq ▸ hlt) (Nat.lt_irrefl _)

end InOrder

namespace ChannelState

/-- The log stands in the order of publishing, before the place `bound`, and the index finds
exactly the places of the logged messages. -/
structure Indexed (c : ChannelState) (bound : Nat) : Prop where
  /-- The log stands in the order of publishing. -/
  inOrder : InOrder c.log
  /-- Every logged message was published before the place `bound`. -/
  bounded : ∀ p ∈ c.log, p.sequence < bound
  /-- A name has a place exactly if a message of that name is logged there. -/
  index_iff : ∀ id sequence, c.index.get? id = some sequence ↔
    ∃ p ∈ c.log, p.message.id = id ∧ p.sequence = sequence

/-- A new channel has nothing in its log and its index. -/
theorem indexed_start (channel : Channel) (bound : Nat) : (start channel).Indexed bound where
  inOrder := List.Pairwise.nil
  bounded := by simp [start]
  index_iff := by simp [start]

namespace Indexed

variable {c c' : ChannelState} {bound bound' : Nat} {p q : Posted}

theorem mono (h : c.Indexed bound) (hle : bound ≤ bound') : c.Indexed bound' where
  inOrder := h.inOrder
  bounded p hp := Nat.lt_of_lt_of_le (h.bounded p hp) hle
  index_iff := h.index_iff

/-- Neither the definition of a channel nor its subscribers matter. -/
theorem congr (h : c.Indexed bound) (hlog : c'.log = c.log) (hindex : c'.index = c.index) :
    c'.Indexed bound where
  inOrder := hlog ▸ h.inOrder
  bounded := hlog ▸ h.bounded
  index_iff := hlog ▸ hindex ▸ h.index_iff

/-- Two logged messages of one name are the same. -/
theorem eq_of_id_eq (h : c.Indexed bound) (hp : p ∈ c.log) (hq : q ∈ c.log)
    (heq : p.message.id = q.message.id) : p = q := by
  have hget : c.index.get? p.message.id = some p.sequence := (h.index_iff _ _).mpr ⟨p, hp, rfl, rfl⟩
  rw [(h.index_iff _ _).mpr ⟨q, hq, heq.symm, rfl⟩] at hget
  exact h.inOrder.eq_of_sequence_eq hp hq (Option.some.inj hget).symm

/-- The place of a logged message leads to it. -/
theorem logged?_sequence (h : c.Indexed bound) (hp : p ∈ c.log) :
    c.logged? p.sequence = some p := by
  cases hfind : c.logged? p.sequence with
  | none =>
    have hnone := List.find?_eq_none.mp hfind p hp
    simp at hnone
  | some q =>
    have hseq : q.sequence = p.sequence := by simpa using List.find?_some hfind
    -- the search stops at the first message of that place, and there is only one
    rw [h.inOrder.eq_of_sequence_eq (List.mem_of_find?_eq_some hfind) hp hseq]

/-- The index finds exactly the places at which the log holds a message of the name. -/
theorem get?_index_iff (h : c.Indexed bound) {name : MessageId} {place : Nat} :
    c.index.get? name = some place ↔ ∃ p, c.logged? place = some p ∧ p.message.id = name := by
  rw [h.index_iff]
  constructor
  · rintro ⟨p, hp, hid, rfl⟩
    exact ⟨p, h.logged?_sequence hp, hid⟩
  -- a message that is found at the place is a logged one with that place
  · rintro ⟨p, hp, hid⟩
    refine ⟨p, List.mem_of_find?_eq_some hp, hid, ?_⟩
    simpa using List.find?_some hp

/-- The test for duplicates finds every logged message that is visible. -/
theorem shows_iff (h : c.Indexed bound) {now : Timestamp} {id : MessageId} :
    c.shows now id = true ↔ ∃ p ∈ c.log, p.message.id = id ∧ p.isVisible now = true := by
  unfold shows
  constructor
  · intro hshows
    split at hshows
    next sequence hget =>
      obtain ⟨p, hp, hid, rfl⟩ := (h.index_iff _ _).mp hget
      rw [h.logged?_sequence hp] at hshows
      exact ⟨p, hp, hid, hshows⟩
    next => exact absurd hshows Bool.false_ne_true
  · rintro ⟨p, hp, rfl, hvisible⟩
    rw [(h.index_iff _ _).mpr ⟨p, hp, rfl, rfl⟩]
    simpa [h.logged?_sequence hp] using hvisible

/-- A post takes out of the log what stands there under its name, and goes to the end. -/
theorem log_post (h : c.Indexed bound) :
    (c.post p).log = (c.log.filter fun q => q.message.id ≠ p.message.id) ++ [p] := by
  cases hget : c.index.get? p.message.id with
  | none =>
    have hlog : (c.post p).log = c.log ++ [p] := by
      simp only [ChannelState.post, hget]
    rw [hlog, List.filter_eq_self.mpr fun q hq => ?_]
    -- a name that the index does not know is nowhere in the log
    have hnone : c.index.get? q.message.id ≠ none := by
      rw [(h.index_iff _ _).mpr ⟨q, hq, rfl, rfl⟩]
      exact Option.some_ne_none _
    simp only [ne_eq, decide_eq_true_eq]
    intro heq
    exact hnone (heq ▸ hget)
  | some sequence =>
    obtain ⟨r, hr, hid, rfl⟩ := (h.index_iff _ _).mp hget
    have hlog : (c.post p).log = (c.log.filter fun q => q.sequence ≠ r.sequence) ++ [p] := by
      simp only [ChannelState.post, hget]
    rw [hlog, List.filter_congr fun q hq => ?_]
    -- the post removes a place, which is to remove the one message that has the name
    have hiff : q.sequence = r.sequence ↔ q.message.id = p.message.id := by
      constructor
      · intro heq
        rw [h.inOrder.eq_of_sequence_eq hq hr heq, hid]
      · intro heq
        rw [h.eq_of_id_eq hq hr (heq.trans hid.symm)]
    simp only [ne_eq, hiff]

/-- After a post, the log holds the message and those of other names. -/
theorem mem_log_post (h : c.Indexed bound) :
    q ∈ (c.post p).log ↔ (q ∈ c.log ∧ q.message.id ≠ p.message.id) ∨ q = p := by
  simp [h.log_post]

/-- A post at the place `bound` keeps log and index together. -/
theorem post (h : c.Indexed bound) (hp : p.sequence = bound) :
    (c.post p).Indexed (bound + 1) where
  inOrder := by
    rw [h.log_post]
    refine (h.inOrder.sublist List.filter_sublist).append fun q hq => ?_
    rw [hp]
    exact h.bounded q (List.mem_of_mem_filter hq)
  bounded q hq := by
    rcases h.mem_log_post.mp hq with ⟨hmem, -⟩ | rfl
    · exact Nat.lt_succ_of_lt (h.bounded q hmem)
    · omega
  -- the old place of the name is overwritten in the index and filtered out of the log
  index_iff id sequence := by
    have hindex : (c.post p).index = c.index.insert p.message.id p.sequence := rfl
    rw [hindex, Table.get?_insert]
    by_cases hid : p.message.id = id
    · -- the name of the post has its new place, and whatever had the name has left the log
      subst hid
      rw [if_pos rfl, Option.some.injEq]
      constructor
      · rintro rfl
        exact ⟨p, h.mem_log_post.mpr (Or.inr rfl), rfl, rfl⟩
      · rintro ⟨q, hq, heq, rfl⟩
        rcases h.mem_log_post.mp hq with ⟨-, hne⟩ | rfl
        · exact absurd heq hne
        · rfl
    · -- other names keep their places
      rw [if_neg hid, h.index_iff]
      constructor
      · rintro ⟨q, hq, rfl, rfl⟩
        exact ⟨q, h.mem_log_post.mpr (Or.inl ⟨hq, fun heq => hid heq.symm⟩), rfl, rfl⟩
      · rintro ⟨q, hq, rfl, rfl⟩
        rcases h.mem_log_post.mp hq with ⟨hmem, -⟩ | rfl
        · exact ⟨q, hmem, rfl, rfl⟩
        · exact absurd rfl hid

end Indexed

/-- Dropping messages from an index removes exactly their names. -/
theorem get?_foldl_erase (gone : List Posted) (index : Table MessageId Nat) (id : MessageId) :
    (gone.foldl (fun index p => index.erase p.message.id) index).get? id =
      if ∃ p ∈ gone, p.message.id = id then none else index.get? id := by
  induction gone generalizing index with
  | nil => simp
  | cons p gone ih =>
    rw [List.foldl_cons, ih, Table.get?_erase]
    by_cases hrest : ∃ q ∈ gone, q.message.id = id
    · rw [if_pos hrest, if_pos (by simpa using Or.inr hrest)]
    · rw [if_neg hrest]
      by_cases hid : p.message.id = id <;> simp [hid, hrest]

/-- A log that is pruned loses messages at most. -/
theorem log_pruneWithin_sublist (c : ChannelState) (since : Timestamp) (left : Looks) :
    (c.pruneWithin since left).log.Sublist c.log := by
  have hsub : (c.pruneWithin since left).log.Sublist (left.reach c.log ++ left.rest c.log) :=
    List.filter_sublist.append (List.Sublist.refl _)
  rwa [left.reach_append_rest] at hsub

/-- A pass drops messages from the log and from the index alike, however far it comes. -/
theorem Indexed.pruneWithin {c : ChannelState} {bound : Nat} (h : c.Indexed bound)
    (since : Timestamp) (left : Looks) : (c.pruneWithin since left).Indexed bound := by
  have hlog := left.reach_append_rest c.log
  have hsub := c.log_pruneWithin_sublist since left
  refine ⟨h.inOrder.sublist hsub, fun p hp => h.bounded p (hsub.subset hp), fun id sequence => ?_⟩
  have hindex : (c.pruneWithin since left).index.get? id = _ := get?_foldl_erase _ c.index id
  rw [hindex]
  split
  next hgone =>
    obtain ⟨p, hp, rfl⟩ := hgone
    obtain ⟨hreached, hexpired⟩ := List.mem_filter.mp hp
    refine ⟨fun hnone => absurd hnone (by simp), ?_⟩
    rintro ⟨q, hq, hid, -⟩
    -- the log holds one message of the name, and it cannot both stay and go
    have hp' : p ∈ c.log := hlog ▸ List.mem_append_left _ hreached
    rw [h.eq_of_id_eq (hsub.subset hq) hp' hid] at hq
    rcases List.mem_append.mp hq with hkept | hrest
    · have hle := of_decide_eq_true (List.mem_filter.mp hkept).2
      exact absurd (of_decide_eq_true hexpired) (Timestamp.not_lt.mpr hle)
    · have hnodup := h.inOrder.nodup
      rw [← hlog] at hnodup
      exact absurd rfl ((List.nodup_append.mp hnodup).2.2 p hreached p hrest)
  next hkept =>
    rw [h.index_iff]
    constructor
    · -- a message that is named still cannot have gone, or its name would have gone with it
      rintro ⟨p, hp, rfl, rfl⟩
      refine ⟨p, ?_, rfl, rfl⟩
      rw [← hlog] at hp
      refine List.mem_append.mpr ((List.mem_append.mp hp).imp_left fun hreached => ?_)
      refine List.mem_filter.mpr ⟨hreached, ?_⟩
      rw [decide_eq_true_eq, ← Timestamp.not_lt]
      exact fun hlt => hkept ⟨p, List.mem_filter.mpr ⟨hreached, by simpa using hlt⟩, rfl⟩
    · rintro ⟨p, hp, rfl, rfl⟩
      exact ⟨p, hsub.subset hp, rfl, rfl⟩

end ChannelState

namespace Memory

/-- Every channel of the engine keeps its log and its index together, and nothing is logged yet
under the place of the next publish. -/
def Indexed (m : Memory) : Prop :=
  ∀ id c, m.channels.get? id = some c → c.Indexed m.nextSequence

theorem indexed_empty : empty.Indexed := fun _ _ h => nomatch h

namespace Indexed

variable {m : Memory} (h : m.Indexed)

include h

/-- A channel keeps log and index together when it goes by a new definition. -/
theorem channelFor (channel : Channel) : (m.channelFor channel).Indexed m.nextSequence := by
  unfold Memory.channelFor
  cases hget : m.channels.get? channel.id with
  | none =>
    -- a channel that the engine did not know starts with an empty log
    exact ChannelState.indexed_start _ _
  | some c => exact (h _ _ hget).congr rfl rfl

/-- A publish keeps log and index together. -/
theorem publish (now : Timestamp) (channel : Channel) (message : Message) :
    (m.publish now channel message).1.Indexed := by
  intro id c hget
  rw [nextSequence_publish]
  cases hshows : (m.channelFor channel).shows now message.id with
  -- a duplicate takes a place, so that all others are before one more
  | true =>
    rw [get?_channels_publish_of_shows hshows] at hget
    split at hget
    · obtain rfl := Option.some.inj hget
      exact (h.channelFor channel).mono (Nat.le_succ _)
    · exact (h id c hget).mono (Nat.le_succ _)
  | false =>
    rw [get?_channels_publish_of_not_shows hshows] at hget
    split at hget
    · obtain rfl := Option.some.inj hget
      exact (h.channelFor channel).post rfl
    · exact (h id c hget).mono (Nat.le_succ _)

/-- A look at a queue, whatever becomes of it, changes neither a log nor an index. -/
theorem of_looked {m' : Memory} {now : Timestamp} {channel : Channel} {s : SubscriberId} {n : Nat}
    (hchannels : m'.channels = (m.looked now channel s n).channels)
    (hnext : m'.nextSequence = m.nextSequence) : m'.Indexed := by
  intro id c hget
  rw [hchannels, get?_channels_looked] at hget
  rw [hnext]
  split at hget
  · obtain rfl := Option.some.inj hget
    exact (h.channelFor channel).congr rfl rfl
  · exact h id c hget

/-- A poll that looks at its queue is no matter of logs. -/
theorem look (now : Timestamp) (time : Nat) (o : PollOrder) :
    (m.look now time o 1).memory.Indexed :=
  h.of_looked (m.look_frame now time o).1 (m.look_frame now time o).2

/-- The log of a channel stands in the order of publishing. -/
theorem inOrder_logOf (id : ChannelId) : InOrder (m.logOf id) := by
  cases hget : m.channels.get? id with
  | none =>
    rw [logOf, hget]
    exact List.Pairwise.nil
  | some c =>
    rw [logOf_of_get? hget]
    exact (h id c hget).inOrder

/-- The test for duplicates finds every message of the channel's log that is visible. -/
theorem shows_iff {now : Timestamp} {channel : Channel} {id : MessageId} :
    (m.channelFor channel).shows now id = true ↔
      ∃ p ∈ m.logOf channel.id, p.message.id = id ∧ p.isVisible now = true := by
  rw [(h.channelFor channel).shows_iff, log_channelFor]

/-- Two messages of one name in the log of a channel are the same. -/
theorem eq_of_id_eq {id : ChannelId} {p q : Posted} (hp : p ∈ m.logOf id) (hq : q ∈ m.logOf id)
    (heq : p.message.id = q.message.id) : p = q := by
  unfold logOf at hp hq
  cases hget : m.channels.get? id with
  | none =>
    rw [hget] at hp
    exact absurd hp List.not_mem_nil
  | some c =>
    rw [hget] at hp hq
    exact (h id c hget).eq_of_id_eq hp hq heq

/-- A post takes out of the log what stands there under its name, and goes to the end. -/
theorem log_post {channel : Channel} {p : Posted} :
    ((m.channelFor channel).post p).log =
      ((m.logOf channel.id).filter fun q => q.message.id ≠ p.message.id) ++ [p] := by
  rw [(h.channelFor channel).log_post, log_channelFor]

end Indexed

end Memory

end LongPoll
