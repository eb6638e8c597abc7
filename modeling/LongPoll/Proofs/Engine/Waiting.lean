import Mathlib.Data.List.Perm.Subperm
import LongPoll.Proofs.Engine.Hosts
import LongPoll.Proofs.Engine.Visit
/-!
# Polls that wait

Several polls of one subscriber may wait at the same bell, take different numbers of messages, come
to their deadlines, be dropped before or after they were woken, and meet passes that collect
garbage. A `Station` is an engine together with the polls that wait at it. In every station that can
be reached (`Station.Reachable`), whatever the wall clock shows and whatever looking channels up
answers:

* the bell of a waiting poll is that of the subscription registered under its locator, so neither a
  pass nor the removal of a channel ever leaves a poll at a bell that nobody rings;
* every bell has counted the polls at it;
* while a poll waits at a bell that nothing has woken, the bell keeps no permit, and there are at
  most as many messages in the queue as polls that were woken and have not resumed. In particular
  the queue is empty if there are none of these.

`Station.Sound` carries this through a run: the engine knows its polls (`Memory.Hosts`), and each
poll is one that the station has started.
-/

namespace LongPoll

/-! ### What a bell knows of the polls at it -/

section Counting

variable {bell : Bell} {polls : List WaitingPoll} {b : BellId} (h : bell.Counts (ticketsAt polls b))

include h

/-- A poll that the bell has counted and not woken is one that waits. -/
theorem Bell.Counts.waiting_ne_nil
    (hasleep : ((pollsAt polls b).filter fun p => !bell.hasWoken p.order.ticket) ≠ []) :
    bell.waiting ≠ [] := by
  obtain ⟨p, hp⟩ := List.exists_mem_of_ne_nil _ hasleep
  obtain ⟨hat, hnot⟩ := List.mem_filter.mp hp
  rw [Bell.hasWoken, List.contains_eq_mem, Bool.not_eq_true', decide_eq_false_iff_not] at hnot
  have hmem := h.mem_iff.mp (List.mem_map_of_mem hat)
  exact List.ne_nil_of_mem (hmem.resolve_right hnot)

/-- The tickets that a bell has marked as woken are those of the woken polls at it. -/
theorem Bell.Counts.length_woken (hnodup : (polls.map (·.order.ticket)).Nodup) :
    ((pollsAt polls b).filter fun p => bell.hasWoken p.order.ticket).length =
      bell.woken.length := by
  obtain ⟨-, hwoken, hdisjoint⟩ :=
    List.nodup_append.mp (h.nodup (hnodup.sublist (ticketsAt_sublist polls b)))
  -- a poll that waits was not woken, so the filter leaves exactly the woken ones
  have hkeep : (bell.waiting ++ bell.woken).filter bell.hasWoken = bell.woken := by
    have hkept : bell.woken.filter bell.hasWoken = bell.woken :=
      List.filter_eq_self.mpr fun t ht => List.contains_iff_mem.mpr ht
    rw [List.filter_append, List.filter_eq_nil_iff.mpr fun t ht hin => ?_, hkept, List.nil_append]
    exact hdisjoint t ht t (List.contains_iff_mem.mp hin) rfl
  calc ((pollsAt polls b).filter fun p => bell.hasWoken p.order.ticket).length
      = ((ticketsAt polls b).filter bell.hasWoken).length := by
        rw [ticketsAt, List.filter_map, List.length_map]
        rfl
    _ = ((bell.waiting ++ bell.woken).filter bell.hasWoken).length :=
        (h.listed.filter _).length_eq.symm
    _ = bell.woken.length := by rw [hkeep]

end Counting

/-! ### Orders and tickets -/

/-- Polls with these orders have tickets of their own, each of which was given out, and ask for
something. -/
structure Orderly (orders : List PollOrder) (nextTicket : Ticket) : Prop where
  /-- No two polls have the same ticket. -/
  nodup : (orders.map (·.ticket)).Nodup
  /-- Tickets are given out one after the other. -/
  ticket_lt : ∀ o ∈ orders, o.ticket < nextTicket
  /-- A poll was started with the channel of its locator. -/
  channel_id : ∀ o ∈ orders, o.channel.id = o.locator.channel
  /-- A poll takes at least one message. -/
  max_pos : ∀ o ∈ orders, 0 < o.max

namespace Orderly

variable {orders orders' : List PollOrder} {nextTicket : Ticket}

/-- Some of the polls go, and the order of the others does not matter. -/
theorem subperm (h : Orderly orders nextTicket) (hsub : orders'.Subperm orders) :
    Orderly orders' nextTicket where
  nodup := by
    obtain ⟨between, hperm, hsublist⟩ := hsub
    exact (hperm.map _).nodup_iff.mp (h.nodup.sublist (hsublist.map _))
  ticket_lt o ho := h.ticket_lt o (hsub.subset ho)
  channel_id o ho := h.channel_id o (hsub.subset ho)
  max_pos o ho := h.max_pos o (hsub.subset ho)

/-- A poll starts with the next ticket. -/
theorem start (h : Orderly orders nextTicket) {o : PollOrder}
    (hid : o.channel.id = o.locator.channel) (hmax : 0 < o.max) (hticket : o.ticket = nextTicket) :
    Orderly (o :: orders) (nextTicket + 1) where
  nodup := by
    -- the next ticket was not given out before
    rw [List.map_cons, List.nodup_cons]
    refine ⟨fun hmem => ?_, h.nodup⟩
    obtain ⟨o', ho', heq⟩ := List.mem_map.mp hmem
    exact absurd (h.ticket_lt o' ho') (Nat.not_lt.mpr (Nat.le_of_eq (hticket.symm.trans heq.symm)))
  ticket_lt := List.forall_mem_cons.mpr
    ⟨hticket ▸ Nat.lt_succ_self _, fun o' ho' => Nat.lt_succ_of_lt (h.ticket_lt o' ho')⟩
  channel_id := List.forall_mem_cons.mpr ⟨hid, h.channel_id⟩
  max_pos := List.forall_mem_cons.mpr ⟨hmax, h.max_pos⟩

section Polls

variable {polls : List WaitingPoll}

/-- Polls that are orderly have tickets of their own. -/
theorem nodup_tickets (h : Orderly (polls.map (·.order)) nextTicket) :
    (polls.map (·.order.ticket)).Nodup := by
  have hnodup := h.nodup
  rwa [List.map_map] at hnodup

/-- A poll that runs on waits again or goes. -/
theorem settle {o : PollOrder} (h : Orderly (o :: polls.map (·.order)) nextTicket)
    {progress : PollProgress} (hprogress : ∀ p ∈ progress.polls, p.order = o) :
    Orderly ((polls ++ progress.polls).map (·.order)) nextTicket := by
  refine h.subperm ?_
  cases progress with
  | answered ms =>
    rw [PollProgress.polls, List.append_nil]
    exact (List.sublist_cons_self ..).subperm
  | waiting q =>
    rw [PollProgress.polls, List.map_append, List.map_singleton,
      hprogress q (List.mem_singleton_self q)]
    exact (List.perm_append_singleton ..).subperm

end Polls

end Orderly

/-! ### Stations -/

/-- An engine with the polls that wait at it, and all that both read from outside. -/
structure Station where
  /-- The engine. -/
  memory : Memory
  /-- The polls that wait. -/
  polls : List WaitingPoll
  /-- What the wall clock shows. -/
  now : Timestamp
  /-- What the clock of waits shows. -/
  time : Nat
  /-- What looking channels up answers. -/
  resolver : Resolver
  /-- The ticket of the next poll. -/
  nextTicket : Ticket

namespace Station

/-- A station after one of its polls has run until it waits or returns. -/
def settle (s : Station) (step : PollStep) : Station :=
  { s with memory := step.memory, polls := s.polls ++ step.progress.polls }

/-- A poll starts that may take `max` messages and wait until the deadline. -/
def poll (s : Station) (locator : Locator) (max deadline : Nat) : Station :=
  match s.resolver.find locator.channel with
  | .error _ => s
  | .ok channel =>
    { s with nextTicket := s.nextTicket + 1 }.settle
      (s.memory.startPoll s.now s.time
        ⟨channel, locator, Nat.max 1 max, deadline, s.nextTicket⟩)

/-- A message is published. -/
def publish (s : Station) (message : Message) : Station :=
  match s.resolver.find message.channel with
  | .error _ => s
  | .ok channel => { s with memory := (s.memory.publish s.now channel message).1 }

/-- A poll that was woken or has come to its deadline runs on. -/
def resume (s : Station) (p : WaitingPoll) : Station :=
  { s with polls := withoutTicket s.polls p.order.ticket }.settle
    (s.memory.resumePoll s.now s.time p)

/-- A poll that waits is dropped. -/
def drop (s : Station) (p : WaitingPoll) : Station :=
  { s with
    memory := s.memory.dropPoll p
    polls := withoutTicket s.polls p.order.ticket }

/-- Garbage is collected, until there is none left or the time is over. -/
def collect (s : Station) (pace : Pace) : Station :=
  { s with memory :=
      (s.memory.collectWithin pace s.now fun id => (s.resolver.find id).toOption).memory }

/-- The polls at a bell that were woken and have not resumed. -/
def wokenAt (s : Station) (b : BellId) : List WaitingPoll :=
  (pollsAt s.polls b).filter fun p => (s.memory.bell b).hasWoken p.order.ticket

/-- The polls at a bell that nothing has woken. -/
def asleepAt (s : Station) (b : BellId) : List WaitingPoll :=
  (pollsAt s.polls b).filter fun p => !(s.memory.bell b).hasWoken p.order.ticket

/-- What can happen at a station, with each poll running on until it waits or returns. -/
inductive Step (s : Station) : Station → Prop
  /-- A poll starts. -/
  | poll (locator : Locator) (max deadline : Nat) : Step s (s.poll locator max deadline)
  /-- A message is published. -/
  | publish (message : Message) : Step s (s.publish message)
  /-- A poll runs on that was woken or has come to its deadline. -/
  | resume {p : WaitingPoll} (hp : p ∈ s.polls) (hready : s.memory.canResume s.time p = true) :
    Step s (s.resume p)
  /-- A poll that waits is dropped. -/
  | drop {p : WaitingPoll} (hp : p ∈ s.polls) : Step s (s.drop p)
  /-- Garbage is collected. -/
  | collect (pace : Pace) : Step s (s.collect pace)
  /-- The wall clock is set to any moment. -/
  | setClock (now : Timestamp) : Step s { s with now := now }
  /-- Time passes. -/
  | wait {time : Nat} (hle : s.time ≤ time) : Step s { s with time := time }
  /-- Looking channels up answers in another way from now on. -/
  | setResolver (resolver : Resolver) : Step s { s with resolver := resolver }

/-- The stations that come about when an engine starts empty. -/
inductive Reachable : Station → Prop
  | start (now : Timestamp) (time : Nat) (resolver : Resolver) (ticket : Ticket) :
    Reachable ⟨.empty, [], now, time, resolver, ticket⟩
  | step {s s' : Station} (hs : Reachable s) (hstep : s.Step s') : Reachable s'

/-- The engine knows its polls, and each poll is one that the station has started. -/
structure Sound (s : Station) : Prop where
  /-- The engine knows the polls at its bells. -/
  hosts : s.memory.Hosts s.polls fun _ => 0
  /-- The polls are orderly. -/
  orderly : Orderly (s.polls.map (·.order)) s.nextTicket

namespace Sound

variable {s : Station}

/-- A publish keeps the station sound. -/
theorem publish (h : s.Sound) (message : Message) : (s.publish message).Sound := by
  unfold Station.publish
  split
  next => exact h
  next channel _ => exact ⟨h.hosts.publish, h.orderly⟩

/-- A pass keeps the station sound, wherever it is cut short. -/
theorem collect (h : s.Sound) (pace : Pace) : (s.collect pace).Sound :=
  ⟨h.hosts.thin (s.memory.thins_collectWithin _ _ pace), h.orderly⟩

/-- A poll that is dropped leaves the station sound. -/
theorem drop (h : s.Sound) {p : WaitingPoll} (hp : p ∈ s.polls) : (s.drop p).Sound :=
  ⟨h.hosts.leave h.orderly.nodup_tickets hp,
    h.orderly.subperm (List.filter_sublist.map _).subperm⟩

/-- A poll that starts keeps the station sound. -/
theorem poll (h : s.Sound) (locator : Locator) (max deadline : Nat) :
    (s.poll locator max deadline).Sound := by
  unfold Station.poll
  split
  next => exact h
  next channel hfind =>
    have hid := s.resolver.id_of_find hfind
    have hmax : 0 < Nat.max 1 max := Nat.le_max_left 1 max
    have hnew : ∀ p ∈ s.polls, p.order.ticket ≠ s.nextTicket := fun p hp =>
      Nat.ne_of_lt (h.orderly.ticket_lt p.order (List.mem_map_of_mem hp))
    exact ⟨h.hosts.look hid hmax h.orderly.nodup_tickets hnew fun b => Nat.zero_le _,
      (h.orderly.start hid hmax rfl).settle fun p hp =>
        PollProgress.order_of_mem_polls Memory.awaits_look hp⟩

/-- A poll that runs on keeps the station sound. -/
theorem resume (h : s.Sound) {p : WaitingPoll} (hp : p ∈ s.polls)
    (hready : s.memory.canResume s.time p = true) : (s.resume p).Sound := by
  have hnew : ∀ q ∈ withoutTicket s.polls p.order.ticket, q.order.ticket ≠ p.order.ticket :=
    fun q hq => of_decide_eq_true (List.mem_filter.mp hq).2
  have hid := h.orderly.channel_id p.order (List.mem_map_of_mem hp)
  have hmax := h.orderly.max_pos p.order (List.mem_map_of_mem hp)
  have hout := h.orderly.subperm
    ((perm_cons_withoutTicket h.orderly.nodup_tickets hp).map (·.order)).symm.subperm
  have hrest := hout.subperm (List.sublist_cons_self ..).subperm
  unfold Station.resume Memory.resumePoll
  by_cases hwoken : (s.memory.bell p.bell).hasWoken p.order.ticket = true
  · rw [if_pos hwoken, Memory.onBell_onBell]
    -- the poll looks at the queue whose bell has woken it, and so takes the slack up
    have hbell := h.hosts.firstBell_of_mem s.now hp hid (Memory.channels_onBell s.memory p.bell
      fun x => (x.resume p.order.ticket).release)
    have hslack : ∀ b, (if b = p.bell then 1 else 0) ≤ if b = Memory.firstBell
        (s.memory.onBell p.bell fun x => (x.resume p.order.ticket).release) s.now p.order
        then 1 else 0 := fun b => Nat.le_of_eq (by rw [hbell])
    exact ⟨(h.hosts.resume h.orderly.nodup_tickets hp hwoken).look hid hmax hrest.nodup_tickets
        hnew hslack,
      hout.settle fun q hq => PollProgress.order_of_mem_polls Memory.awaits_look hq⟩
  · -- a poll that was not woken may run on only because its deadline has come
    have hlate : p.order.deadline ≤ s.time := by
      rw [Memory.canResume, Bool.or_eq_true, decide_eq_true_eq] at hready
      exact hready.resolve_left hwoken
    rw [if_neg hwoken, if_pos hlate]
    obtain ⟨hmemory, hprogress⟩ := (s.memory.leaveBell p.bell p.order.ticket).lastLook_frame
      s.now p.order
    unfold settle
    rw [hmemory, hprogress, PollProgress.polls, List.append_nil]
    exact ⟨(h.hosts.leave h.orderly.nodup_tickets hp).looked _ _ hmax fun b => Nat.zero_le _, hrest⟩

/-- Whatever happens at a station keeps it sound. -/
theorem step {s' : Station} (h : s.Sound) (hstep : s.Step s') : s'.Sound := by
  cases hstep with
  | poll locator max deadline => exact h.poll locator max deadline
  | publish message => exact h.publish message
  | resume hp hready => exact h.resume hp hready
  | drop hp => exact h.drop hp
  | collect pace => exact h.collect pace
  | setClock now => exact ⟨h.hosts, h.orderly⟩
  | wait hle => exact ⟨h.hosts, h.orderly⟩
  | setResolver resolver => exact ⟨h.hosts, h.orderly⟩

end Sound

/-- Every station that can be reached is sound. -/
theorem sound_of_reachable {s : Station} (h : Reachable s) : s.Sound := by
  induction h with
  | start now time resolver ticket =>
    exact ⟨Memory.hosts_empty _, List.nodup_nil, by simp, by simp, by simp⟩
  | step hs hstep ih => exact ih.step hstep

end Station

/-- In every station that can be reached, a waiting poll is at the bell of the subscription that is
registered under its locator; every bell has counted the polls at it; and while a poll sleeps at the
bell of a subscription, the bell keeps no permit, and no more messages are queued than polls have
been woken. -/
theorem waiting_polls_of_reachable {s : Station} (h : s.Reachable) :
    (∀ p ∈ s.polls, ∃ sub, s.memory.subscription? p.order.locator = some sub ∧
      sub.bell = p.bell) ∧
    (∀ b, (s.memory.bell b).blocked = (pollsAt s.polls b).length) ∧
    (∀ l sub, s.memory.subscription? l = some sub → s.asleepAt sub.bell ≠ [] →
      (s.memory.bell sub.bell).permit = false ∧
        sub.queue.length ≤ (s.wokenAt sub.bell).length) := by
  have hsound := Station.sound_of_reachable h
  refine ⟨hsound.hosts.seated, ?_, ?_⟩
  · intro b
    rw [(hsound.hosts.counts b).blocked_eq, ticketsAt, List.length_map]
  · intro l sub hsub hasleep
    have hcounts := hsound.hosts.counts sub.bell
    have hwaiting := hcounts.waiting_ne_nil hasleep
    refine ⟨hcounts.permit_eq hwaiting, ?_⟩
    -- tickets that have been woken are polls, since no two polls have the same ticket
    rw [Station.wokenAt, hcounts.length_woken hsound.orderly.nodup_tickets]
    exact hsound.hosts.covers hsub hwaiting

namespace Sample

/-- Two polls wait at the bell of one subscriber when a message is published. -/
def queueing : Station :=
  let start : Station := ⟨.empty, [], .clamp 0, 0, .uniform (.seconds 10), 0⟩
  ((start.poll reader 1 100).poll reader 1 200).publish greeting

/-- The polls came before the message. -/
theorem reachable_queueing : queueing.Reachable := by
  have hstart := Station.Reachable.start (.clamp 0) 0 (.uniform (.seconds 10)) 0
  have hfirst := hstart.step (.poll reader 1 100)
  have hsecond := hfirst.step (.poll reader 1 200)
  exact hsecond.step (.publish greeting)

end Sample

/-- The first poll was woken for the message, and the second one still sleeps. -/
theorem waiting_polls_of_queueing :
    ((∀ p ∈ Sample.queueing.polls, ∃ sub,
        Sample.queueing.memory.subscription? p.order.locator = some sub ∧ sub.bell = p.bell) ∧
      (∀ b, (Sample.queueing.memory.bell b).blocked = (pollsAt Sample.queueing.polls b).length) ∧
      (∀ l sub, Sample.queueing.memory.subscription? l = some sub →
        Sample.queueing.asleepAt sub.bell ≠ [] →
          (Sample.queueing.memory.bell sub.bell).permit = false ∧
            sub.queue.length ≤ (Sample.queueing.wokenAt sub.bell).length)) ∧
    (Sample.queueing.asleepAt 0).map (·.order.ticket) = [1] ∧
    (Sample.queueing.wokenAt 0).map (·.order.ticket) = [0] ∧
    (Sample.queueing.memory.subscription? Sample.reader).map (·.queue.length) = some 1 :=
  ⟨waiting_polls_of_reachable Sample.reachable_queueing, by decide +kernel, by decide +kernel,
    by decide +kernel⟩

end LongPoll
