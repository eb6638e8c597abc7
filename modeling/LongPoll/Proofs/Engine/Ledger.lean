import LongPoll.Proofs.Engine.Passes
import LongPoll.Proofs.Engine.Visit
/-!
# The ledger of deliveries

A ledger is what someone knows who has watched every visit to an engine and has forgotten nothing:
which publishes were accepted, and which of them polls have returned to whom.

* A publish is accepted unless an accepted publish of the same channel and name is still visible,
  and then expires when the expiry of its channel has passed.
* What is due to a subscriber is what is visible on its channel and what no poll of the subscriber
  has returned.

`Ledger.Records` ties a ledger to the logs of an engine: a log holds every accepted publish that is
visible, whatever looking channels up has answered. Every operation of the engine keeps it, if the
ledger enters what was published and what was returned (`Records.publish`, `Records.look`,
`Records.collect`).
-/

namespace LongPoll

namespace Posted

/-- What is visible has been visible before. -/
theorem isVisible_of_later {p : Posted} {now later : Timestamp} (h : now ≤ later)
    (hvisible : p.isVisible later = true) : p.isVisible now = true := by
  rw [isVisible, decide_eq_true_eq] at hvisible ⊢
  exact Timestamp.lt_of_le_of_lt h hvisible

/-- What is visible later is part of what is visible now. -/
theorem filter_isVisible_later {now later : Timestamp} (h : now ≤ later) (ps : List Posted) :
    (ps.filter (·.isVisible now)).filter (·.isVisible later) = ps.filter (·.isVisible later) := by
  rw [List.filter_filter]
  refine List.filter_congr fun p _ => ?_
  cases hlater : p.isVisible later with
  | false => rfl
  | true => rw [isVisible_of_later h hlater]; rfl

/-- Nothing that is visible falls to a bound in the past. -/
theorem filter_isVisible_of_bound {now bound : Timestamp} (h : bound ≤ now) (ps : List Posted) :
    (ps.filter fun p => decide (bound ≤ p.expireAt)).filter (·.isVisible now) =
      ps.filter (·.isVisible now) := by
  rw [List.filter_filter]
  refine List.filter_congr fun p _ => ?_
  cases hvisible : p.isVisible now with
  | false => rfl
  | true =>
    rw [isVisible, decide_eq_true_eq] at hvisible
    have hkept : bound ≤ p.expireAt :=
      Timestamp.le_trans h (Timestamp.not_lt.mp fun hlt => Int.lt_asymm hlt hvisible)
    simp [hkept]

end Posted

/-- All publishes that were accepted, and all that polls have returned. -/
structure Ledger where
  /-- The accepted publishes, in order. -/
  accepted : List Posted
  /-- The places of the publishes that polls have returned, with the subscribers. -/
  returned : List (Locator × Nat)
  /-- How many publishes have reached a channel, whether they were accepted or not. -/
  publishes : Nat

namespace Ledger

/-- The ledger before the first visit. -/
def empty : Ledger := ⟨[], [], 0⟩

/-- The accepted publishes of a channel that are visible. -/
def live (ledger : Ledger) (now : Timestamp) (id : ChannelId) : List Posted :=
  ledger.accepted.filter fun p => p.message.channel = id ∧ p.isVisible now

/-- Whether an accepted publish of the same channel and name is still visible. -/
def shows (ledger : Ledger) (now : Timestamp) (message : Message) : Bool :=
  (ledger.live now message.channel).any fun p => p.message.id = message.id

/-- Enter a publish to a channel with the given expiry. -/
def publish (ledger : Ledger) (now : Timestamp) (expire : Duration) (message : Message) : Ledger :=
  if ledger.shows now message then { ledger with publishes := ledger.publishes + 1 }
  else
    { ledger with
      accepted := ledger.accepted ++ [⟨ledger.publishes, message, now.plus expire⟩]
      publishes := ledger.publishes + 1 }

/-- Whether a poll of the subscriber has returned the publish. -/
def hasReturned (ledger : Ledger) (l : Locator) (p : Posted) : Prop :=
  (l, p.sequence) ∈ ledger.returned

instance (ledger : Ledger) (l : Locator) (p : Posted) : Decidable (ledger.hasReturned l p) :=
  inferInstanceAs (Decidable ((l, p.sequence) ∈ ledger.returned))

/-- The visible publishes of its channel that no poll of a subscriber has returned. -/
def due (ledger : Ledger) (now : Timestamp) (l : Locator) : List Posted :=
  (ledger.live now l.channel).filter fun p => ¬ledger.hasReturned l p

/-- Enter that a poll of the subscriber has returned publishes. -/
def handOut (ledger : Ledger) (l : Locator) (ps : List Posted) : Ledger :=
  { ledger with returned := ledger.returned ++ ps.map fun p => (l, p.sequence) }

section Basics

variable {ledger : Ledger} {now later : Timestamp} {l : Locator} {p : Posted} {id : ChannelId}

/-- What is live on a channel was accepted there and is visible. -/
theorem mem_live_iff : p ∈ ledger.live now id ↔
    p ∈ ledger.accepted ∧ p.message.channel = id ∧ p.isVisible now = true := by
  simp [live]

/-- What is due to a subscriber is live on its channel and was not returned to it. -/
theorem mem_due_iff : p ∈ ledger.due now l ↔
    p ∈ ledger.live now l.channel ∧ ¬ledger.hasReturned l p := by
  simp [due]

theorem live_sublist : (ledger.live now id).Sublist ledger.accepted := List.filter_sublist

theorem due_sublist : (ledger.due now l).Sublist ledger.accepted :=
  List.filter_sublist.trans live_sublist

/-- What is live later is what is still visible of what is live now. -/
theorem filter_live_later (h : now ≤ later) :
    (ledger.live now id).filter (·.isVisible later) = ledger.live later id := by
  unfold live
  rw [List.filter_filter]
  refine List.filter_congr fun p _ => ?_
  cases hlater : p.isVisible later with
  | false => simp
  | true => simp [Posted.isVisible_of_later h hlater]

/-- What is due later, if nothing is returned meanwhile, is what is still visible of what is due
now. -/
theorem filter_due_later (h : now ≤ later) :
    (ledger.due now l).filter (·.isVisible later) = ledger.due later l := by
  unfold due
  rw [List.filter_comm, filter_live_later h]

/-- What has been returned after something is handed out was returned before or is part of it. -/
theorem hasReturned_handOut {l' : Locator} {ps : List Posted} :
    (ledger.handOut l ps).hasReturned l' p ↔
      ledger.hasReturned l' p ∨ l' = l ∧ ∃ q ∈ ps, q.sequence = p.sequence := by
  simp only [hasReturned, handOut, List.mem_append, List.mem_map, Prod.mk.injEq]
  constructor
  · rintro (h | ⟨q, hq, rfl, heq⟩)
    · exact Or.inl h
    · exact Or.inr ⟨rfl, q, hq, heq⟩
  · rintro (h | ⟨rfl, q, hq, heq⟩)
    · exact Or.inl h
    · exact Or.inr ⟨q, hq, rfl, heq⟩

/-- What is returned to one subscriber stays due to the others. -/
theorem due_handOut_of_ne {l' : Locator} (h : l' ≠ l) (ps : List Posted) :
    (ledger.handOut l ps).due now l' = ledger.due now l' := by
  refine List.filter_congr fun p _ => ?_
  simp [hasReturned_handOut, h]

end Basics

section Publish

variable {ledger : Ledger} {now : Timestamp} {expire : Duration} {message : Message}

/-- The publish as the ledger enters it. -/
def entry (ledger : Ledger) (now : Timestamp) (expire : Duration) (message : Message) : Posted :=
  ⟨ledger.publishes, message, now.plus expire⟩

/-- A duplicate is counted and nothing else. -/
theorem publish_of_shows (h : ledger.shows now message = true) :
    ledger.publish now expire message = { ledger with publishes := ledger.publishes + 1 } := by
  rw [publish, if_pos h]

/-- A publish that is no duplicate is entered at the end. -/
theorem publish_of_not_shows (h : ledger.shows now message = false) :
    ledger.publish now expire message =
      { ledger with
        accepted := ledger.accepted ++ [ledger.entry now expire message]
        publishes := ledger.publishes + 1 } := by
  rw [publish, h, if_neg Bool.false_ne_true]
  rfl

variable (now expire message) in
/-- A new entry has a place that nothing before it has. -/
theorem not_hasReturned_entry (h : ∀ e ∈ ledger.returned, e.2 < ledger.publishes) (l : Locator) :
    ¬ledger.hasReturned l (ledger.entry now expire message) := fun hmem =>
  Nat.lt_irrefl _ (h _ hmem)

variable (expire) in
/-- A publish that is accepted is due to the subscribers of its channel. -/
theorem due_publish_of_not_shows (h : ledger.shows now message = false)
    (hreturned : ∀ e ∈ ledger.returned, e.2 < ledger.publishes) (l : Locator) :
    (ledger.publish now expire message).due now l =
      ledger.due now l ++
        if message.channel = l.channel then
          [ledger.entry now expire message].filter (·.isVisible now)
        else [] := by
  -- the entry is new, so no poll can have returned it
  have hfresh := not_hasReturned_entry now expire message hreturned l
  rw [publish_of_not_shows h]
  unfold due live
  rw [List.filter_append, List.filter_append]
  congr 1
  rw [List.filter_filter]
  by_cases hid : message.channel = l.channel
  · rw [if_pos hid]
    refine List.filter_congr fun p hp => ?_
    rw [List.mem_singleton.mp hp]
    have hchannel : (ledger.entry now expire message).message.channel = l.channel := hid
    have hnew : ¬(l, (ledger.entry now expire message).sequence) ∈ ledger.returned := hfresh
    simp [hasReturned, hchannel, hnew]
  · rw [if_neg hid]
    refine List.filter_eq_nil_iff.mpr fun p hp => ?_
    rw [List.mem_singleton.mp hp]
    have hchannel : ¬(ledger.entry now expire message).message.channel = l.channel := hid
    simp [hchannel]

end Publish

/-- The ledger has entered what the logs of an engine show at a moment. -/
structure Records (ledger : Ledger) (m : Memory) (now : Timestamp) : Prop where
  /-- Engine and ledger have counted the same publishes. -/
  publishes_eq : ledger.publishes = m.nextSequence
  /-- Every log and its index agree. -/
  indexed : m.Indexed
  /-- The accepted publishes stand in the order of publishing. -/
  inOrder : InOrder ledger.accepted
  /-- The accepted publishes have places in the order of all publishes so far. -/
  bounded : ∀ p ∈ ledger.accepted, p.sequence < ledger.publishes
  /-- Nothing was returned before it was published. -/
  returned_lt : ∀ e ∈ ledger.returned, e.2 < ledger.publishes
  /-- Of each channel, the log and the ledger show the same publishes. -/
  logged : ∀ id, (m.logOf id).filter (·.isVisible now) = ledger.live now id

/-- The empty ledger records a new engine. -/
theorem records_empty (now : Timestamp) : empty.Records .empty now where
  publishes_eq := rfl
  indexed := Memory.indexed_empty
  inOrder := List.Pairwise.nil
  bounded := by simp [empty]
  returned_lt := by simp [empty]
  logged _ := rfl

namespace Records

variable {ledger : Ledger} {m : Memory} {now later : Timestamp}

/-- Time passes. -/
theorem mono (h : ledger.Records m now) (hle : now ≤ later) : ledger.Records m later where
  publishes_eq := h.publishes_eq
  indexed := h.indexed
  inOrder := h.inOrder
  bounded := h.bounded
  returned_lt := h.returned_lt
  logged id := by
    rw [← Posted.filter_isVisible_later hle, h.logged, filter_live_later hle]

/-- Among the visible publishes of a channel, the name tells one from another. -/
theorem eq_of_id_eq (h : ledger.Records m now) {id : ChannelId} {p q : Posted}
    (hp : p ∈ ledger.live now id) (hq : q ∈ ledger.live now id)
    (heq : p.message.id = q.message.id) : p = q := by
  rw [← h.logged, List.mem_filter] at hp hq
  exact h.indexed.eq_of_id_eq hp.1 hq.1 heq

section Publish

variable {channel : Channel} {message : Message} (h : ledger.Records m now)

include h

/-- The test for duplicates answers by the ledger. -/
theorem shows_eq (hid : channel.id = message.channel) :
    (m.channelFor channel).shows now message.id = ledger.shows now message := by
  rw [Bool.eq_iff_iff, h.indexed.shows_iff, shows, List.any_eq_true, ← hid]
  constructor
  · rintro ⟨p, hp, heq, hvisible⟩
    have hmem : p ∈ ledger.live now channel.id := by
      rw [← h.logged]
      exact List.mem_filter.mpr ⟨hp, hvisible⟩
    exact ⟨p, hmem, decide_eq_true heq⟩
  · rintro ⟨p, hp, heq⟩
    rw [← h.logged, List.mem_filter] at hp
    exact ⟨p, hp.1, of_decide_eq_true heq, hp.2⟩

/-- Engine and ledger enter a publish alike. -/
theorem entry_eq : ledger.entry now channel.expire message = m.posted now channel message := by
  rw [entry, h.publishes_eq]
  rfl

/-- The engine notes a publish as a duplicate exactly if the ledger does not accept it. -/
theorem notice_publish (hid : channel.id = message.channel) :
    (m.publish now channel message).2 =
      if ledger.shows now message then .duplicate message.channel message.id
      else .published message.channel message.id (m.channelFor channel).subscribers.size := by
  have hfor : { m with nextSequence := m.nextSequence + 1 }.channelFor channel =
      m.channelFor channel := Memory.channelFor_congr rfl channel
  rw [← h.shows_eq hid, Memory.publish]
  dsimp only
  rw [hfor]
  cases (m.channelFor channel).shows now message.id with
  | true => rfl
  | false =>
    rw [if_neg Bool.false_ne_true, if_neg Bool.false_ne_true, ChannelState.size_subscribers_post]

/-- A message that is accepted takes nothing out of the log that is visible. -/
theorem filter_logOf_publish (hshows : (m.channelFor channel).shows now message.id = false) :
    ((m.publish now channel message).1.logOf channel.id).filter (·.isVisible now) =
      ledger.live now channel.id ++
        [m.posted now channel message].filter (·.isVisible now) := by
  -- what a post takes out of the log has its name and is visible no more, or it were a duplicate
  rw [Memory.logOf_publish hshows, if_pos rfl, h.indexed.log_post, List.filter_append, ← h.logged,
    List.filter_comm]
  congr 1
  refine List.filter_eq_self.mpr fun q hq => ?_
  rw [List.mem_filter] at hq
  simp only [ne_eq, decide_not, Bool.not_eq_true', decide_eq_false_iff_not]
  intro heq
  have htrue := h.indexed.shows_iff.mpr ⟨q, hq.1, heq, hq.2⟩
  rw [show (m.posted now channel message).message.id = message.id from rfl, hshows] at htrue
  exact Bool.false_ne_true htrue

/-- A publish is recorded. -/
theorem publish (hid : channel.id = message.channel) :
    (ledger.publish now channel.expire message).Records
      (m.publish now channel message).1 now := by
  have hnext := h.publishes_eq
  have hindexed := h.indexed.publish now channel message
  have hreturned : ∀ e ∈ ledger.returned, e.2 < ledger.publishes + 1 := fun e he =>
    Nat.lt_succ_of_lt (h.returned_lt e he)
  cases hshows : ledger.shows now message with
  | true =>
    -- both see a duplicate, which counts as a publish and is entered nowhere
    have hengine := (h.shows_eq hid).trans hshows
    rw [publish_of_shows hshows]
    refine ⟨?_, hindexed, h.inOrder, ?_, hreturned, ?_⟩
    · rw [Memory.nextSequence_publish, hnext]
    · exact fun p hp => Nat.lt_succ_of_lt (h.bounded p hp)
    · intro id
      rw [Memory.logOf_publish_of_shows hengine]
      exact h.logged id
  | false =>
    have hengine := (h.shows_eq hid).trans hshows
    rw [publish_of_not_shows hshows]
    refine ⟨?_, hindexed, h.inOrder.append h.bounded, ?_, hreturned, ?_⟩
    · rw [Memory.nextSequence_publish, hnext]
    · intro p hp
      rcases List.mem_append.mp hp with hold | hnew
      · exact Nat.lt_succ_of_lt (h.bounded p hold)
      · rw [List.mem_singleton.mp hnew]
        exact Nat.lt_succ_self _
    · intro id
      -- the log of the channel and the ledger both get the entry at their ends
      unfold live
      rw [List.filter_append]
      by_cases heq : channel.id = id
      · subst heq
        rw [h.filter_logOf_publish hengine]
        simp [live, Memory.posted, entry, hid, hnext, List.filter_cons]
      · have hne : ¬message.channel = id := fun hc => heq (hid.trans hc)
        rw [Memory.logOf_publish hengine, if_neg heq, h.logged id]
        simp [live, entry, hne]

end Publish

/-- A look at a queue may hand out accepted publishes to anybody. -/
theorem look (h : ledger.Records m now) (time : Nat) (o : PollOrder) (l : Locator)
    {ps : List Posted} (hps : ∀ p ∈ ps, p ∈ ledger.accepted) :
    (ledger.handOut l ps).Records (m.look now time o 1).memory now := by
  obtain ⟨hchannels, hnext⟩ := m.look_frame now time o
  refine ⟨?_, h.indexed.look _ _ _, h.inOrder, h.bounded, ?_, ?_⟩
  · rw [hnext]
    exact h.publishes_eq
  · intro e he
    rcases List.mem_append.mp he with hold | hnew
    · exact h.returned_lt e hold
    · obtain ⟨p, hp, rfl⟩ := List.mem_map.mp hnew
      exact h.bounded p (hps p hp)
  · intro id
    rw [Memory.logOf_congr hchannels, Memory.logOf_looked]
    exact h.logged id

/-- A pass takes nothing out of a log that is visible, whatever it takes for the definitions of the
channels. -/
theorem collect (h : ledger.Records m now) (newest : ChannelId → Option Channel) :
    ledger.Records (m.collect now newest).1 now where
  publishes_eq := h.publishes_eq
  indexed := h.indexed.collect _ _
  inOrder := h.inOrder
  bounded := h.bounded
  returned_lt := h.returned_lt
  logged id := by
    -- the bound of the pass lies in the past, whichever expiry it was computed from
    rw [Memory.logOf_collect, Posted.filter_isVisible_of_bound (m.collectBound_le ..)]
    exact h.logged id

end Records

end Ledger

end LongPoll
