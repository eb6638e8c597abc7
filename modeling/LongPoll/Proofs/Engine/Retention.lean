import Mathlib.Data.List.Induction
import LongPoll.Proofs.Engine.Ledger
/-!
# Retention

What looking channels up answers may change at any moment: an expiry may grow or shrink, and a
look-up may begin or cease to fail. A pass then goes by another expiry than the one that a message
was published with. As long as the clock does not go back, no message is lost by this.

Here the ledger only watches (`Ledger.observe`): it enters a publish when the engine says that it is
done, and reads off the answer of a poll which publishes it has returned. `Ledger.Covers` is what
every operation keeps: each queue holds what is due to its subscriber, and nothing twice. A
subscription that goes leaves nothing to show, since the log holds every accepted publish that is
visible (`Ledger.Records`).
-/

namespace LongPoll

namespace Ledger

/-- The visible publishes of a channel that an answer names. -/
def named (ledger : Ledger) (now : Timestamp) (id : ChannelId) (ms : List Message) : List Posted :=
  (ledger.live now id).filter fun p => p.message ∈ ms

/-- Enter what was asked of an engine and what it has answered. -/
def observe (ledger : Ledger) (v : Visit) (answer : Option StorageAnswer) : Ledger :=
  match v.errand, answer with
  | .publish message, some (.ok .done) =>
    match v.resolver.find message.channel with
    | .ok channel => ledger.publish v.now channel.expire message
    | .error _ => ledger
  | .poll locator _, some (.ok (.messages ms)) =>
    ledger.handOut locator (ledger.named v.now locator.channel ms)
  | _, _ => ledger

end Ledger

namespace Memory

/-- Serve a visit under the eyes of a ledger. -/
def watch (s : Memory × Ledger) (v : Visit) : Memory × Ledger :=
  ((s.1.serve v).1, s.2.observe v (s.1.serve v).2)

/-- Engine and ledger after several visits. -/
def watched (visits : List Visit) : Memory × Ledger := visits.foldl watch (.empty, .empty)

end Memory

namespace Ledger

/-- Every queue holds what is due to its subscriber, and accepted publishes only. -/
structure Covers (ledger : Ledger) (m : Memory) (now : Timestamp) : Prop
    extends ledger.Records m now where
  /-- What is due to a subscriber stands in the queue. -/
  kept : ∀ l s, m.subscription? l = some s → ∀ p ∈ ledger.due now l, p ∈ s.queue
  /-- A queue holds accepted publishes of its channel, each at most once. -/
  queue_sublist : ∀ l s, m.subscription? l = some s →
    s.queue.Sublist (ledger.accepted.filter fun p => p.message.channel = l.channel)

theorem covers_empty (now : Timestamp) : empty.Covers .empty now where
  toRecords := records_empty now
  kept _ _ h := nomatch h
  queue_sublist _ _ h := nomatch h

namespace Covers

variable {ledger : Ledger} {m : Memory} {now later : Timestamp} {channel : Channel}
  {message : Message}

/-- Time passes. -/
theorem mono (h : ledger.Covers m now) (hle : now ≤ later) : ledger.Covers m later where
  toRecords := h.toRecords.mono hle
  kept l s hs p hp := by
    rw [← filter_due_later hle] at hp
    exact h.kept l s hs p (List.mem_of_mem_filter hp)
  queue_sublist := h.queue_sublist

/-- The queue at which a poll looks holds what is due, whether its subscriber is new or not. -/
theorem mem_seat (h : ledger.Covers m now) {s : SubscriberId} {p : Posted}
    (hp : p ∈ ledger.due now ⟨channel.id, s⟩) : p ∈ (m.seat now channel s).queue := by
  unfold Memory.seat
  cases hs : m.subscription? ⟨channel.id, s⟩ with
  | some sub => exact h.kept _ sub hs p hp
  | none =>
    rw [Option.getD_none, h.logged]
    exact (mem_due_iff.mp hp).1

/-- The queue at which a poll looks holds accepted publishes of its channel, each at most once. -/
theorem seat_sublist (h : ledger.Covers m now) (channel : Channel) (s : SubscriberId) :
    (m.seat now channel s).queue.Sublist
      (ledger.accepted.filter fun p => p.message.channel = channel.id) := by
  unfold Memory.seat
  cases hs : m.subscription? ⟨channel.id, s⟩ with
  | some sub => exact h.queue_sublist _ sub hs
  | none =>
    have hlive : ledger.live now channel.id =
        (ledger.accepted.filter fun p => p.message.channel = channel.id).filter
          (·.isVisible now) := by
      rw [List.filter_filter, live]
      refine List.filter_congr fun p _ => ?_
      rw [Bool.and_comm, Bool.decide_and, Bool.decide_eq_true]
    rw [Option.getD_none, h.logged, hlive]
    exact List.filter_sublist

/-- A poll takes visible publishes of its channel. -/
theorem mem_live_of_mem_taken (h : ledger.Covers m now) {s : SubscriberId} {n : Nat} {p : Posted}
    (hp : p ∈ m.taken now channel s n) : p ∈ ledger.live now channel.id := by
  rw [Memory.taken, Memory.fst_takeVisible] at hp
  obtain ⟨hmem, hvisible⟩ := List.mem_filter.mp (List.mem_of_mem_take hp)
  obtain ⟨haccepted, hchannel⟩ := List.mem_filter.mp ((h.seat_sublist channel s).subset hmem)
  exact mem_live_iff.mpr ⟨haccepted, of_decide_eq_true hchannel, hvisible⟩

/-- The answer of a poll names exactly the publishes that the poll has taken. -/
theorem mem_named_iff (h : ledger.Covers m now) {s : SubscriberId} {n : Nat} {p : Posted} :
    p ∈ ledger.named now channel.id ((m.taken now channel s n).map (·.message)) ↔
      p ∈ m.taken now channel s n := by
  simp only [named, List.mem_filter, decide_eq_true_eq, List.mem_map]
  constructor
  · rintro ⟨hlive, q, hq, heq⟩
    -- one name, one visible publish: the message identifies what was taken
    rwa [h.eq_of_id_eq hlive (h.mem_live_of_mem_taken hq) (congrArg Message.id heq.symm)]
  · exact fun hp => ⟨h.mem_live_of_mem_taken hp, p, hp, rfl⟩

/-- A publish keeps the queues covered. -/
theorem publish (h : ledger.Covers m now) (hid : channel.id = message.channel) :
    (ledger.publish now channel.expire message).Covers (m.publish now channel message).1 now := by
  have hrecords := h.toRecords.publish hid
  cases hshows : ledger.shows now message with
  | true =>
    have hengine := (h.shows_eq hid).trans hshows
    have hsub := Memory.subscription?_publish_of_shows hengine
    rw [publish_of_shows hshows] at hrecords ⊢
    exact ⟨hrecords, fun l s hs => h.kept l s (hsub l ▸ hs),
      fun l s hs => h.queue_sublist l s (hsub l ▸ hs)⟩
  | false =>
    have hengine := (h.shows_eq hid).trans hshows
    have hdue := due_publish_of_not_shows channel.expire hshows h.returned_lt
    rw [publish_of_not_shows hshows] at hrecords hdue ⊢
    refine ⟨hrecords, ?_, ?_⟩
    · intro l s hs p hp
      obtain ⟨s₀, hs₀, hqueue, -⟩ := Memory.subscription?_publish_some hengine hs
      rw [hdue, h.entry_eq, List.mem_append] at hp
      rw [hqueue, List.mem_append]
      -- what is due is an old entry or the new one
      refine hp.imp (h.kept l s₀ hs₀ p) fun hnew => ?_
      rw [hid]
      split at hnew
      next heq =>
        rw [if_pos heq]
        exact List.mem_of_mem_filter hnew
      next => exact absurd hnew List.not_mem_nil
    · intro l s hs
      obtain ⟨s₀, hs₀, hqueue, -⟩ := Memory.subscription?_publish_some hengine hs
      rw [hqueue, List.filter_append, h.entry_eq]
      -- the new entry is appended on both sides if the channel is the message's
      refine (h.queue_sublist l s₀ hs₀).append ?_
      split
      next heq =>
        have hchannel : (m.posted now channel message).message.channel = l.channel :=
          hid.symm.trans heq
        simp [hchannel]
      next => exact List.nil_sublist _

/-- A look at a queue takes no more off the queues than its answer names. -/
theorem look (h : ledger.Covers m now) (time : Nat) {o : PollOrder}
    (hid : o.channel.id = o.locator.channel) :
    (ledger.handOut o.locator (ledger.named now o.locator.channel
      ((m.firstTaken now o).map (·.message)))).Covers (m.look now time o 1).memory now := by
  have hsub := m.subscription?_look now time hid
  refine ⟨h.toRecords.look time o o.locator ?_, ?_, ?_⟩
  · intro p hp
    exact live_sublist.subset (List.mem_of_mem_filter hp)
  · intro l s hs p hp
    rw [hsub] at hs
    split at hs
    next heq =>
      subst heq
      rw [← Option.some.inj hs]
      obtain ⟨hlive, hnew⟩ := mem_due_iff.mp hp
      rw [hasReturned_handOut, not_or] at hnew
      have hdue : p ∈ ledger.due now o.locator := mem_due_iff.mpr ⟨hlive, hnew.1⟩
      have hseat := h.mem_seat ((Locator.mk_subscriber hid).symm ▸ hdue)
      -- what is still due afterwards was in the queue and was not taken, so it stayed
      have hrest : p ∉ m.firstTaken now o := fun htaken =>
        hnew.2 ⟨rfl, p, hid ▸ h.mem_named_iff.mpr htaken, rfl⟩
      rw [Memory.firstTaken, Memory.taken, Memory.fst_takeVisible] at hrest
      have hvisible : p ∈ (m.seat now o.channel o.locator.subscriber).queue.filter
          (·.isVisible now) := List.mem_filter.mpr ⟨hseat, (mem_live_iff.mp hlive).2.2⟩
      rw [← List.take_append_drop o.max (List.filter _ _), List.mem_append] at hvisible
      have hdrop := hvisible.resolve_left hrest
      rw [← Memory.filter_snd_takeVisible] at hdrop
      exact List.mem_of_mem_filter hdrop
    next hne =>
      rw [due_handOut_of_ne hne] at hp
      exact h.kept l s hs p hp
  · intro l s hs
    rw [hsub] at hs
    split at hs
    next heq =>
      rw [← Option.some.inj hs, heq, ← hid]
      exact (Memory.snd_takeVisible_sublist ..).trans (h.seat_sublist ..)
    next => exact h.queue_sublist l s hs

/-- A pass goes by any definitions of the channels and takes nothing away that is due. -/
theorem collect (h : ledger.Covers m now) (newest : ChannelId → Option Channel) :
    ledger.Covers (m.collect now newest).1 now := by
  refine ⟨h.toRecords.collect newest, ?_, ?_⟩
  · intro l s hs p hp
    obtain ⟨s₀, hs₀, hqueue, -⟩ := Memory.subscription?_collect_some hs
    have hmem := h.kept l s₀ hs₀ p hp
    have hvisible := (mem_live_iff.mp (mem_due_iff.mp hp).1).2.2
    -- what is due is visible, and a pass prunes by a bound in the past
    have hfilter : p ∈ s₀.queue.filter (·.isVisible now) := List.mem_filter.mpr ⟨hmem, hvisible⟩
    rw [← Posted.filter_isVisible_of_bound (m.collectBound_le now newest l.channel),
      ← hqueue] at hfilter
    exact List.mem_of_mem_filter hfilter
  · intro l s hs
    obtain ⟨s₀, hs₀, hqueue, -⟩ := Memory.subscription?_collect_some hs
    rw [hqueue]
    exact List.filter_sublist.trans (h.queue_sublist l s₀ hs₀)

/-- One visit under the eyes of the ledger. -/
theorem watch {v : Visit} (h : ledger.Covers m v.now) :
    (Memory.watch (m, ledger) v).2.Covers (Memory.watch (m, ledger) v).1 v.now := by
  unfold Memory.watch Ledger.observe
  cases herrand : v.errand with
  | publish message =>
    rw [Memory.serve, herrand]
    dsimp only
    cases hfind : v.resolver.find message.channel with
    | error e => exact h
    | ok channel =>
      dsimp only
      rw [hfind]
      exact h.publish (v.resolver.id_of_find hfind)
  | poll locator max =>
    cases hfind : v.resolver.find locator.channel with
    | error e =>
      rw [Memory.serve, herrand]
      simp only [hfind]
      exact h
    | ok channel =>
      -- the ledger enters what the engine has answered
      rw [Memory.serve_poll herrand hfind]
      exact h.look v.time (o := v.order channel locator max) (v.resolver.id_of_find hfind)
  | collect timeout =>
    rw [Memory.serve, herrand]
    dsimp only
    cases Memory.collectRefusal? .unhurried timeout with
    | some refusal => exact h
    | none => exact h.collect _

end Covers

/-- A run under the eyes of the ledger. -/
theorem covers_watched {visits : List Visit} {now : Timestamp}
    (hclock : visits.Pairwise fun v w => v.now ≤ w.now) (hnow : ∀ v ∈ visits, v.now ≤ now) :
    (Memory.watched visits).2.Covers (Memory.watched visits).1 now := by
  induction visits using List.reverseRecOn generalizing now with
  | nil => exact covers_empty now
  | append_singleton visits v ih =>
    -- the last visit comes after all others, so the run before it is at most at that moment
    obtain ⟨hbefore, -, hlast⟩ := List.pairwise_append.mp hclock
    have hstep := ih hbefore fun w hw => hlast w hw v (List.mem_singleton_self v)
    rw [Memory.watched, List.foldl_append, List.foldl_cons, List.foldl_nil]
    exact hstep.watch.mono (hnow v (List.mem_append_right _ (List.mem_singleton_self v)))

end Ledger

/-- Whatever looking channels up answers in the course of a run: as long as the clock does not go
back, a poll that finds its channel and asks for enough returns everything that is due. -/
theorem poll_returns_due (visits : List Visit) (v : Visit)
    (hclock : (visits ++ [v]).Pairwise fun v w => v.now ≤ w.now)
    {locator : Locator} {max : Nat} {channel : Channel}
    (herrand : v.errand = .poll locator max)
    (hfind : v.resolver.find locator.channel = .ok channel)
    (hmax : ((Memory.watched visits).2.accepted.filter fun p =>
      p.message.channel = locator.channel).length ≤ max) :
    ∃ ms, ((Memory.watched visits).1.serve v).2 = some (.ok (.messages ms)) ∧
      ∀ p ∈ (Memory.watched visits).2.due v.now locator, p.message ∈ ms := by
  obtain ⟨hbefore, -, hlast⟩ := List.pairwise_append.mp hclock
  have hcovers := Ledger.covers_watched hbefore fun w hw => hlast w hw v (List.mem_singleton_self v)
  generalize Memory.watched visits = s at hcovers hmax ⊢
  obtain ⟨m, ledger⟩ := s
  dsimp only at hcovers hmax ⊢
  have hid := v.resolver.id_of_find hfind
  rw [Memory.serve_poll herrand hfind]
  refine ⟨_, rfl, fun p hp => List.mem_map_of_mem ?_⟩
  have hseat := hcovers.mem_seat ((Locator.mk_subscriber hid).symm ▸ hp)
  have hvisible := (Ledger.mem_live_iff.mp (Ledger.mem_due_iff.mp hp).1).2.2
  -- the queue holds accepted publishes of the channel, each once, so `max` is enough for all
  have hlength : ((m.seat v.now channel locator.subscriber).queue.filter
      (·.isVisible v.now)).length ≤ Nat.max 1 max := by
    have hsub := hcovers.seat_sublist channel locator.subscriber
    rw [hid] at hsub
    calc _ ≤ (m.seat v.now channel locator.subscriber).queue.length := List.length_filter_le ..
      _ ≤ (ledger.accepted.filter fun p => p.message.channel = locator.channel).length :=
        hsub.length_le
      _ ≤ max := hmax
      _ ≤ Nat.max 1 max := Nat.le_max_right 1 max
  rw [Memory.taken, Memory.fst_takeVisible, List.take_of_length_le hlength]
  exact List.mem_filter.mpr ⟨hseat, hvisible⟩

namespace Sample

/-- A message is published with a long expiry. Then the expiry shrinks, and a pass goes by it. -/
def shrink : List Visit :=
  [visitAt 0 60 (.poll reader 1), visitAt 1 60 (.publish greeting),
    visitAt 30 10 (.collect (.seconds 1))]

end Sample

/-- The expiry has shrunk below the age of the message, and the poll still returns it. -/
theorem poll_returns_due_shrink :
    (∃ ms, ((Memory.watched Sample.shrink).1.serve
        (Sample.visitAt 31 10 (.poll Sample.reader 1))).2 = some (.ok (.messages ms)) ∧
      ∀ p ∈ (Memory.watched Sample.shrink).2.due (.clamp (31 * nanosPerSecond : Nat)) Sample.reader,
        p.message ∈ ms) ∧
    (Memory.watched Sample.shrink).1.subscription? Sample.reader = none ∧
    ((Memory.watched Sample.shrink).2.due (.clamp (31 * nanosPerSecond : Nat))
      Sample.reader).map (·.message) = [Sample.greeting] :=
  ⟨poll_returns_due Sample.shrink (Sample.visitAt 31 10 (.poll Sample.reader 1)) (by decide +kernel)
    rfl rfl (by decide +kernel), by decide +kernel, by decide +kernel⟩

end LongPoll
