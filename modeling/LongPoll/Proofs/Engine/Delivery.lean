import LongPoll.Proofs.Engine.Ledger
/-!
# Delivery

While channels keep their expiries and the wall clock does not go back, an engine answers every
publish and every poll as the ledger of deliveries does, which has no subscriptions to evict and no
garbage to collect.

A poll of the ledger returns, in the order of publishing, the first publishes that are due to the
subscriber; a pass does nothing to the ledger. `Ledger.Tracks` is the relation of ledger and engine
behind this:

* the queue of a subscription shows what is due to its subscriber (`queued`);
* what was returned to a subscriber expires within the expiry of the channel after the last look of
  the subscriber at its queue (`recent`);
* hence a subscription that is idle for longer than that may go: nothing that was returned to its
  subscriber is visible (`gone`), and a new one starts with what is due.
-/

namespace LongPoll

/-- Channels are found with these expiries, and the others are not found. -/
def Resolver.Grants (r : Resolver) (expiry : ChannelId → Option Duration) : Prop :=
  ∀ id, (r.find id).toOption.map (·.expire) = expiry id

/-- A channel that is found has the expiry that was granted for its name. -/
theorem Resolver.Grants.expiry_eq {r : Resolver} {expiry : ChannelId → Option Duration}
    (h : r.Grants expiry) {id : ChannelId} {channel : Channel} (hfind : r.find id = .ok channel) :
    expiry channel.id = some channel.expire := by
  rw [r.id_of_find hfind, ← h id, hfind]
  rfl

/-- What stands first in the order of publishing can be told from the rest by its places. -/
theorem InOrder.filter_not_take {ps : List Posted} (h : InOrder ps) (n : Nat) :
    (ps.filter fun p => ¬∃ q ∈ ps.take n, q.sequence = p.sequence) = ps.drop n := by
  -- no place of the first `n` occurs among the rest
  have hcross : ∀ q ∈ ps.take n, ∀ p ∈ ps.drop n, q.sequence < p.sequence := by
    rw [InOrder, ← List.take_append_drop n ps, List.pairwise_append] at h
    exact h.2.2
  conv_lhs => rw [← List.take_append_drop n ps]
  rw [List.filter_append, List.take_append_drop]
  have hfirst : (ps.take n).filter
      (fun p => decide (¬∃ q ∈ ps.take n, q.sequence = p.sequence)) = [] := by
    refine List.filter_eq_nil_iff.mpr fun p hp => ?_
    simpa using ⟨p, hp, rfl⟩
  have hrest : (ps.drop n).filter
      (fun p => decide (¬∃ q ∈ ps.take n, q.sequence = p.sequence)) = ps.drop n := by
    refine List.filter_eq_self.mpr fun p hp => ?_
    simp only [decide_eq_true_eq]
    rintro ⟨q, hq, heq⟩
    exact Nat.ne_of_lt (hcross q hq p hp) heq
  rw [hfirst, hrest, List.nil_append]

namespace Ledger

/-- Serve a visit from the ledger alone. -/
def serve (ledger : Ledger) (v : Visit) : Ledger × Option StorageAnswer :=
  match v.errand with
  | .publish message =>
    match v.resolver.find message.channel with
    | .error e => (ledger, some (.error e))
    | .ok channel => (ledger.publish v.now channel.expire message, some (.ok .done))
  | .poll locator max =>
    match v.resolver.find locator.channel with
    | .error e => (ledger, some (.error e))
    | .ok _ =>
      let handed := (ledger.due v.now locator).take (Nat.max 1 max)
      (ledger.handOut locator handed, some (.ok (.messages (handed.map (·.message)))))
  | .collect _ => (ledger, none)

section HandOut

variable {ledger : Ledger} {now : Timestamp} {l : Locator}

/-- After the first of what is due has been returned, the rest is due. -/
theorem due_handOut_take (h : InOrder ledger.accepted) (n : Nat) :
    (ledger.handOut l ((ledger.due now l).take n)).due now l = (ledger.due now l).drop n := by
  rw [← (h.sublist due_sublist).filter_not_take n]
  generalize (ledger.due now l).take n = ps
  unfold due
  rw [List.filter_filter]
  refine List.filter_congr fun p _ => ?_
  rw [Bool.eq_iff_iff]
  simp only [hasReturned_handOut, Bool.and_eq_true, decide_eq_true_eq, true_and]
  exact ⟨fun hnot => ⟨fun hp => hnot (Or.inr hp), fun hp => hnot (Or.inl hp)⟩,
    fun ⟨hnew, hold⟩ hor => hor.elim hold hnew⟩

end HandOut

/-- The engine stands as the ledger says, if channels keep these expiries. -/
structure Tracks (ledger : Ledger) (m : Memory) (expiry : ChannelId → Option Duration)
    (now : Timestamp) : Prop extends ledger.Records m now where
  /-- The last known definition of a channel grants its expiry. -/
  granted : ∀ id c, m.channels.get? id = some c → expiry id = some c.channel.expire
  /-- An accepted publish expires within the expiry of its channel. -/
  expires : ∀ p ∈ ledger.accepted, ∀ d, expiry p.message.channel = some d →
    p.expireAt ≤ now.plus d
  /-- The queue of a subscription shows what is due to the subscriber. -/
  queued : ∀ l s, m.subscription? l = some s →
    s.queue.filter (·.isVisible now) = ledger.due now l
  /-- What was returned to a subscriber expires soon after its last look at the queue. -/
  recent : ∀ l s, m.subscription? l = some s → ∀ d, expiry l.channel = some d →
    ∀ p ∈ ledger.accepted, p.message.channel = l.channel → ledger.hasReturned l p →
      p.expireAt ≤ s.lastActivity.plus d
  /-- To who has no subscription, nothing visible was returned. -/
  gone : ∀ l, m.subscription? l = none → ∀ p ∈ ledger.live now l.channel,
    ¬ledger.hasReturned l p

/-- A new engine stands as the empty ledger says. -/
theorem tracks_empty (expiry : ChannelId → Option Duration) (now : Timestamp) :
    empty.Tracks .empty expiry now where
  toRecords := records_empty now
  granted _ _ h := nomatch h
  expires := by simp [empty]
  queued _ _ h := nomatch h
  recent _ _ h := nomatch h
  gone _ _ := by simp [empty, live]

namespace Tracks

variable {ledger : Ledger} {m : Memory} {expiry : ChannelId → Option Duration}
  {now later : Timestamp} {channel : Channel} {message : Message}

/-- Time passes. -/
theorem mono (h : ledger.Tracks m expiry now) (hle : now ≤ later) :
    ledger.Tracks m expiry later where
  toRecords := h.toRecords.mono hle
  granted := h.granted
  expires p hp d hd := Timestamp.le_trans (h.expires p hp d hd) (Timestamp.plus_le_plus hle d)
  queued l s hs := by
    -- what expires meanwhile is neither visible in the queue nor due any more
    rw [← Posted.filter_isVisible_later hle, h.queued l s hs, filter_due_later hle]
  recent := h.recent
  gone l hl p hp := by
    rw [← filter_live_later hle] at hp
    exact h.gone l hl p (List.mem_of_mem_filter hp)

/-- What a look at a queue finds is what is due. -/
theorem filter_seat (h : ledger.Tracks m expiry now) (channel : Channel) (s : SubscriberId) :
    (m.seat now channel s).queue.filter (·.isVisible now) =
      ledger.due now ⟨channel.id, s⟩ := by
  unfold Memory.seat
  cases hs : m.subscription? ⟨channel.id, s⟩ with
  | some sub => exact h.queued _ sub hs
  | none =>
    -- a new subscription starts from the log, and none of that was returned before
    have hdue : ledger.due now ⟨channel.id, s⟩ = ledger.live now channel.id :=
      List.filter_eq_self.mpr fun p hp => decide_eq_true (h.gone _ hs p hp)
    rw [Option.getD_none, List.filter_filter, hdue, ← h.logged]
    simp only [Bool.and_self]

/-- What a poll takes is the first of what is due. -/
theorem taken_eq (h : ledger.Tracks m expiry now) (channel : Channel) (s : SubscriberId)
    (n : Nat) : m.taken now channel s n = (ledger.due now ⟨channel.id, s⟩).take n := by
  rw [Memory.taken, Memory.fst_takeVisible, h.filter_seat]

/-- A publish brings the definition of its channel, which grants the expiry as it was. -/
theorem granted_publish (h : ledger.Tracks m expiry now)
    (hexpiry : expiry channel.id = some channel.expire) {id : ChannelId} {c : ChannelState}
    (hget : (m.publish now channel message).1.channels.get? id = some c) :
    expiry id = some c.channel.expire := by
  obtain ⟨rfl, hc⟩ | hold := Memory.get?_channels_publish_cases hget
  · rw [hc, hexpiry]
  · exact h.granted id c hold

section Publish

variable (h : ledger.Tracks m expiry now) (hid : channel.id = message.channel)
  (hexpiry : expiry channel.id = some channel.expire)

include h hid hexpiry

/-- A duplicate changes no queue. -/
theorem publish_duplicate (hshows : ledger.shows now message = true) :
    (ledger.publish now channel.expire message).Tracks (m.publish now channel message).1 expiry
      now := by
  have hrecords := h.toRecords.publish hid
  have hsub := Memory.subscription?_publish_of_shows ((h.shows_eq hid).trans hshows)
  rw [publish_of_shows hshows] at hrecords ⊢
  refine ⟨hrecords, fun id c => h.granted_publish hexpiry, h.expires, ?_, ?_, ?_⟩
  · exact fun l s hs => h.queued l s (hsub l ▸ hs)
  · exact fun l s hs => h.recent l s (hsub l ▸ hs)
  · exact fun l hl => h.gone l (hsub l ▸ hl)

/-- A publish that is accepted is due to the subscribers of its channel and stands last in their
queues. -/
theorem publish_accepted (hshows : ledger.shows now message = false) :
    (ledger.publish now channel.expire message).Tracks (m.publish now channel message).1 expiry
      now := by
  have hrecords := h.toRecords.publish hid
  have hengine := (h.shows_eq hid).trans hshows
  have hdue := due_publish_of_not_shows channel.expire hshows h.returned_lt
  have hnew := not_hasReturned_entry now channel.expire message h.returned_lt
  rw [publish_of_not_shows hshows] at hrecords hdue ⊢
  refine ⟨hrecords, fun id c => h.granted_publish hexpiry, ?_, ?_, ?_, ?_⟩
  · intro p hp d hd
    rcases List.mem_append.mp hp with hold | hlast
    · exact h.expires p hold d hd
    · rw [List.mem_singleton.mp hlast] at hd ⊢
      have hsame : expiry message.channel = some d := hd
      rw [← hid, hexpiry] at hsame
      obtain rfl := Option.some.inj hsame
      exact Timestamp.le_refl _
  · intro l s hs
    -- queue and dues get the same new entry, or both get none
    obtain ⟨s₀, hs₀, hqueue, -⟩ := Memory.subscription?_publish_some hengine hs
    rw [hqueue, List.filter_append, h.queued l s₀ hs₀, hdue, h.entry_eq, hid]
    split <;> rfl
  · intro l s hs d hd p hp hc hr
    obtain ⟨s₀, hs₀, -, hactivity, -⟩ := Memory.subscription?_publish_some hengine hs
    rw [hactivity]
    rcases List.mem_append.mp hp with hold | hlast
    · exact h.recent l s₀ hs₀ d hd p hold hc hr
    -- nobody has been given the new message
    · exact absurd (List.mem_singleton.mp hlast ▸ hr) (hnew l)
  · intro l hl p hp
    rw [Memory.subscription?_publish_eq_none_iff] at hl
    obtain ⟨hp, hc, hvisible⟩ := mem_live_iff.mp hp
    rcases List.mem_append.mp hp with hold | hlast
    · exact h.gone l hl p (mem_live_iff.mpr ⟨hold, hc, hvisible⟩)
    · rw [List.mem_singleton.mp hlast]
      exact hnew l

/-- A publish keeps the engine as the ledger says. -/
theorem publish :
    (ledger.publish now channel.expire message).Tracks (m.publish now channel message).1 expiry
      now := by
  cases hshows : ledger.shows now message with
  | true => exact h.publish_duplicate hid hexpiry hshows
  | false => exact h.publish_accepted hid hexpiry hshows

end Publish

/-- A look at a queue hands out the first of what is due. -/
theorem look (h : ledger.Tracks m expiry now) (time : Nat) {o : PollOrder}
    (hid : o.channel.id = o.locator.channel)
    (hexpiry : expiry o.channel.id = some o.channel.expire) :
    (ledger.handOut o.locator ((ledger.due now o.locator).take o.max)).Tracks
      (m.look now time o 1).memory expiry now := by
  obtain ⟨hchannels, -⟩ := m.look_frame now time o
  have hsub := m.subscription?_look now time hid
  refine ⟨h.toRecords.look time o o.locator ?_, ?_, h.expires, ?_, ?_, ?_⟩
  · intro p hp
    exact due_sublist.subset (List.mem_of_mem_take hp)
  · intro id c hget
    rw [hchannels, Memory.get?_channels_looked] at hget
    split at hget
    next heq =>
      rw [← Option.some.inj hget, ← heq, hexpiry, Memory.channel_channelFor]
    next => exact h.granted id c hget
  · intro l s hs
    rw [hsub] at hs
    split at hs
    next heq =>
      subst heq
      -- what stays in the queue is what stays due once the first of it is handed out
      rw [← Option.some.inj hs, due_handOut_take h.inOrder]
      rw [Memory.seatAfter, Memory.filter_snd_takeVisible, h.filter_seat,
        Locator.mk_subscriber hid]
    next hne =>
      rw [due_handOut_of_ne hne]
      exact h.queued l s hs
  · intro l s hs d hd p hp hc hr
    rw [hsub] at hs
    split at hs
    next heq =>
      -- whatever was returned was accepted by now, and now is the last look
      rw [← Option.some.inj hs]
      exact h.expires p hp d (hc ▸ hd)
    next hne =>
      refine h.recent l s hs d hd p hp hc ?_
      exact (hasReturned_handOut.mp hr).resolve_right fun hnew => hne hnew.1
  · intro l hl p hp
    rw [hsub] at hl
    split at hl
    next => exact absurd hl (Option.some_ne_none _)
    next hne =>
      intro hr
      refine h.gone l hl p hp ?_
      exact (hasReturned_handOut.mp hr).resolve_right fun hnew => hne hnew.1

/-- The bound of a pass for the things of a subscriber goes by the expiry of the channel. -/
theorem collectBound_eq (h : ledger.Tracks m expiry now) {newest : ChannelId → Option Channel}
    (hnewest : ∀ id, (newest id).map (·.expire) = expiry id) {l : Locator} {s : Subscription}
    (hs : m.subscription? l = some s) :
    ∃ d, expiry l.channel = some d ∧ m.collectBound now newest l.channel = now.minus d := by
  obtain ⟨c, hget, -⟩ := Option.bind_eq_some_iff.mp hs
  have hexpiry := h.granted _ c hget
  refine ⟨c.channel.expire, hexpiry, ?_⟩
  have hdefinition := hnewest l.channel
  rw [hexpiry] at hdefinition
  obtain ⟨channel, hchannel, heq⟩ := Option.map_eq_some_iff.mp hdefinition
  simp only [Memory.collectBound, hget, hchannel, Option.getD_some, heq]

/-- Nothing that was returned to an idle subscriber is visible. -/
theorem not_hasReturned_of_isIdle (h : ledger.Tracks m expiry now)
    {newest : ChannelId → Option Channel} (hnewest : ∀ id, (newest id).map (·.expire) = expiry id)
    {l : Locator} {s : Subscription} (hs : m.subscription? l = some s)
    (hidle : m.isIdle (m.collectBound now newest l.channel) s = true) {p : Posted}
    (hp : p ∈ ledger.live now l.channel) : ¬ledger.hasReturned l p := by
  intro hreturned
  obtain ⟨d, hd, hbound⟩ := h.collectBound_eq hnewest hs
  rw [hbound, Memory.isIdle, Bool.and_eq_true, decide_eq_true_eq] at hidle
  obtain ⟨hp, hc, hvisible⟩ := mem_live_iff.mp hp
  -- the last look is more than `d` ago, and what was returned by then lasted for `d` at most
  have hgone := Timestamp.lt_of_le_of_lt (h.recent l s hs d hd p hp hc hreturned)
    (Timestamp.plus_lt_of_lt_minus hidle.1)
  rw [Posted.isVisible, decide_eq_true_eq] at hvisible
  exact Int.lt_asymm hgone hvisible

/-- A pass takes nothing away that the ledger knows. -/
theorem collect (h : ledger.Tracks m expiry now) {newest : ChannelId → Option Channel}
    (hnewest : ∀ id, (newest id).map (·.expire) = expiry id) :
    ledger.Tracks (m.collect now newest).1 expiry now := by
  refine ⟨h.toRecords.collect newest, ?_, h.expires, ?_, ?_, ?_⟩
  · intro id c hget
    rw [Memory.get?_channels_collect] at hget
    obtain ⟨hsome, -⟩ := Option.filter_eq_some_iff.mp hget
    obtain ⟨c₀, hget₀, rfl⟩ := Option.map_eq_some_iff.mp hsome
    have hexpiry := h.granted id c₀ hget₀
    have hdefinition := hnewest id
    rw [hexpiry] at hdefinition ⊢
    obtain ⟨channel, hchannel, heq⟩ := Option.map_eq_some_iff.mp hdefinition
    rw [← heq, hchannel]
    rfl
  -- what goes from a queue is not visible, and what a subscriber has looked at does not change
  · intro l s hs
    obtain ⟨s₀, hs₀, hqueue, -⟩ := Memory.subscription?_collect_some hs
    rw [hqueue, Posted.filter_isVisible_of_bound (m.collectBound_le ..)]
    exact h.queued l s₀ hs₀
  · intro l s hs d hd p hp hc hr
    obtain ⟨s₀, hs₀, -, hactivity, -⟩ := Memory.subscription?_collect_some hs
    rw [hactivity]
    exact h.recent l s₀ hs₀ d hd p hp hc hr
  · intro l hl p hp
    cases hs : m.subscription? l with
    | none => exact h.gone l hs p hp
    | some s =>
      rw [Memory.subscription?_collect, hs, Option.map_eq_none_iff, Option.filter_some] at hl
      have hidle : m.isIdle (m.collectBound now newest l.channel) s = true := by
        by_contra hbusy
        simp [hbusy] at hl
      exact h.not_hasReturned_of_isIdle hnewest hs hidle hp

/-- One visit: engine and ledger give the same answer and stay together. -/
theorem serve {v : Visit} (h : ledger.Tracks m expiry v.now) (hgrants : v.resolver.Grants expiry) :
    (m.serve v).2 = (ledger.serve v).2 ∧
      (ledger.serve v).1.Tracks (m.serve v).1 expiry v.now := by
  unfold Ledger.serve
  cases herrand : v.errand with
  | publish message =>
    rw [Memory.serve, herrand]
    dsimp only
    cases hfind : v.resolver.find message.channel with
    | error e => exact ⟨rfl, h⟩
    | ok channel =>
      exact ⟨rfl, h.publish (v.resolver.id_of_find hfind) (hgrants.expiry_eq hfind)⟩
  | poll locator max =>
    dsimp only
    cases hfind : v.resolver.find locator.channel with
    | error e =>
      rw [Memory.serve, herrand]
      simp only [hfind]
      exact ⟨trivial, h⟩
    | ok channel =>
      have hid := v.resolver.id_of_find hfind
      have hstep := h.look v.time (o := v.order channel locator max) hid
        (hgrants.expiry_eq hfind)
      -- what the engine takes off the queue is what the ledger has due
      rw [Memory.serve_poll herrand hfind, h.taken_eq, hid]
      exact ⟨rfl, hstep⟩
  | collect timeout =>
    rw [Memory.serve, herrand]
    dsimp only
    cases Memory.collectRefusal? .unhurried timeout with
    | some refusal => exact ⟨rfl, h⟩
    | none => exact ⟨rfl, h.collect hgrants⟩

/-- A run: engine and ledger give the same answers. -/
theorem answersTo_eq (visits : List Visit) (h : ledger.Tracks m expiry now)
    (hnow : ∀ v ∈ visits, now ≤ v.now) (hclock : visits.Pairwise fun v w => v.now ≤ w.now)
    (hgrants : ∀ v ∈ visits, v.resolver.Grants expiry) :
    answersTo Memory.serve m visits = answersTo Ledger.serve ledger visits := by
  induction visits generalizing m ledger now with
  | nil => rfl
  | cons v visits ih =>
    obtain ⟨hfirst, hrest⟩ := List.pairwise_cons.mp hclock
    obtain ⟨hanswer, htracks⟩ := (h.mono (hnow v List.mem_cons_self)).serve
      (hgrants v List.mem_cons_self)
    rw [answersTo, answersTo, hanswer]
    congr 1
    exact ih htracks hfirst hrest fun w hw => hgrants w (List.mem_cons_of_mem v hw)

end Tracks

end Ledger

/-- While channels keep their expiries and the clock does not go back, the answers of an engine to
publishes and polls are those of the ledger, to which a pass does nothing. -/
theorem answers_eq_ledger (expiry : ChannelId → Option Duration) (visits : List Visit)
    (hclock : visits.Pairwise fun v w => v.now ≤ w.now)
    (hgrants : ∀ v ∈ visits, v.resolver.Grants expiry) :
    answersTo Memory.serve .empty visits = answersTo Ledger.serve .empty visits := by
  cases visits with
  | nil => rfl
  | cons v visits =>
    refine (Ledger.tracks_empty expiry v.now).answersTo_eq _ (fun w hw => ?_) hclock hgrants
    rcases List.mem_cons.mp hw with rfl | hrest
    · exact Timestamp.le_refl _
    · exact List.rel_of_pairwise_cons hclock hrest

namespace Sample

/-- A message is published, returned, published again too early and once more after it has expired
and its subscriber has been evicted. -/
def rerun : List Visit :=
  [visitAt 0 10 (.publish greeting), visitAt 1 10 (.poll reader 1),
    visitAt 2 10 (.publish greeting), visitAt 3 10 (.poll reader 1),
    visitAt 30 10 (.collect (.seconds 1)), visitAt 31 10 (.publish greeting),
    visitAt 32 10 (.poll reader 0), visitAt 33 10 (.poll reader 5)]

/-- All visits find the channel with the same expiry. -/
theorem rerun_grants : ∀ v ∈ rerun, v.resolver.Grants fun _ => some (.seconds 10) := by
  intro v hv
  simp only [rerun, List.mem_cons, List.not_mem_nil, or_false] at hv
  rcases hv with rfl | rfl | rfl | rfl | rfl | rfl | rfl | rfl <;> exact fun _ => rfl

end Sample

/-- A message is returned once, and again to a subscriber only when it was published again after it
had expired. -/
theorem answers_eq_ledger_rerun :
    answersTo Memory.serve .empty Sample.rerun = answersTo Ledger.serve .empty Sample.rerun ∧
      (answersTo Memory.serve .empty Sample.rerun).map Sample.received =
        [[], [Sample.greeting], [], [], [], [], [Sample.greeting], []] :=
  ⟨answers_eq_ledger _ Sample.rerun (by decide +kernel) Sample.rerun_grants, by decide +kernel⟩

end LongPoll
