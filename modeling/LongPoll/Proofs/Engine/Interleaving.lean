import LongPoll.Proofs.Engine.Arriving
import LongPoll.Proofs.Engine.Waiting
/-!
# Polls that are interrupted

On several threads a poll may be interrupted between any two of its steps: after it has looked at
its queue and found nothing, and before it listens at the bell. A `Crowd` is an engine with polls
that run at it in this way. It takes the steps of a `Station` apart, each of which has a poll run on
until it waits or returns.

A permit makes up for a ring that comes between the look and the listening, but a bell keeps one
permit only. When two polls are on their way to the bell and two messages are published, the first
poll takes the permit, and may take only one of the messages; the second one then sleeps while a
message is in the queue. So a crowd that can be reached need not be `Watchful`. What holds is a
bound: while polls of a subscriber sleep, there are no more messages in the queue than polls have
been woken or are about to look, and rings have fallen on a permit that was kept already.

`Crowd.Sound` carries this through a run: the engine attends to its polls (`Memory.Attends`), and
the polls are orderly.
-/

namespace LongPoll

/-! ### Crowds -/

/-- An engine with the polls that run at it, and all that both read from outside. -/
structure Crowd where
  /-- The engine. -/
  memory : Memory
  /-- The polls that run, in no particular order. -/
  polls : List RunningPoll
  /-- What the wall clock shows. -/
  now : Timestamp
  /-- What the clock of waits shows. -/
  time : Nat
  /-- What looking channels up answers. -/
  resolver : Resolver
  /-- The ticket of the next poll. -/
  nextTicket : Ticket
  /-- For each bell, the rings that have fallen on a permit which was kept already, since a look has
  last left the queue empty. Nothing that happens depends on them. -/
  missed : BellId → Nat

namespace Crowd

/-- A poll starts that may take `max` messages and wait until the deadline. -/
def start (s : Crowd) (locator : Locator) (max deadline : Nat) : Crowd :=
  match s.resolver.find locator.channel with
  | .error _ => s
  | .ok channel =>
    { s with
      nextTicket := s.nextTicket + 1
      polls := ⟨⟨channel, locator, Nat.max 1 max, deadline, s.nextTicket⟩, .looking⟩ :: s.polls }

/-- A message is published. -/
def publish (s : Crowd) (message : Message) : Crowd :=
  match s.resolver.find message.channel with
  | .error _ => s
  | .ok channel =>
    { s with
      memory := (s.memory.publish s.now channel message).1
      missed := fun b => s.missed b +
        (s.memory.rings s.now channel message b && (s.memory.bell b).isFull).toNat }

/-- A poll looks at its queue, while the others are where they are. It returns what it takes, or it
is counted at the bell. -/
def look (s : Crowd) (o : PollOrder) (rest : List RunningPoll) : Crowd :=
  match s.memory.drain s.now o.channel o.locator o.max with
  | (m, .messages _, _) =>
    { s with memory := m, polls := rest, missed := m.settle o.locator s.missed }
  | (m, .wait b, _) =>
    { s with
      memory := m
      polls := ⟨o, .coming b⟩ :: rest
      missed := m.settle o.locator s.missed }

/-- A poll begins to listen at the bell. It waits, or it takes the permit and is to look again. -/
def listen (s : Crowd) (o : PollOrder) (b : BellId) (rest : List RunningPoll) : Crowd :=
  if (s.memory.bell b).permit then
    { s with
      memory := s.memory.onBell b fun x => (x.listen o.ticket).1.release
      polls := ⟨o, .looking⟩ :: rest }
  else
    { s with
      memory := s.memory.onBell b fun x => (x.listen o.ticket).1
      polls := ⟨o, .listening b⟩ :: rest }

/-- A poll that was woken is to look again. -/
def resume (s : Crowd) (o : PollOrder) (b : BellId) (rest : List RunningPoll) : Crowd :=
  { s with
    memory := s.memory.onBell b fun x => (x.resume o.ticket).release
    polls := ⟨o, .looking⟩ :: rest }

/-- A poll leaves its bell, and those that stay run on. -/
def leave (s : Crowd) (o : PollOrder) (b : BellId) (polls : List RunningPoll) : Crowd :=
  { s with
    memory := s.memory.leaveBell b o.ticket
    polls := polls
    missed := fun b' => s.missed b' + if b' = b then
      ((s.memory.bell b).hasWoken o.ticket && (s.memory.bell b).isFull).toNat else 0 }

/-- A poll at its deadline looks for the last time and returns. -/
def lastLook (s : Crowd) (o : PollOrder) (rest : List RunningPoll) : Crowd :=
  let m := (s.memory.lastLook s.now o).memory
  { s with memory := m, polls := rest, missed := m.settle o.locator s.missed }

/-- Garbage is collected, until there is none left or the time is over. -/
def collect (s : Crowd) (pace : Pace) : Crowd :=
  { s with memory :=
      (s.memory.collectWithin pace s.now fun id => (s.resolver.find id).toOption).memory }

/-- What can happen in a crowd. A poll may be interrupted after each of its steps; it can be dropped
only where it waits. -/
inductive Step (s : Crowd) : Crowd → Prop
  /-- A poll starts. -/
  | start (locator : Locator) (max deadline : Nat) : Step s (s.start locator max deadline)
  /-- A message is published. -/
  | publish (message : Message) : Step s (s.publish message)
  /-- A poll looks at its queue. -/
  | look {o : PollOrder} {rest : List RunningPoll}
    (hp : s.polls.Perm (⟨o, .looking⟩ :: rest)) : Step s (s.look o rest)
  /-- A poll that has found nothing begins to listen. -/
  | listen {o : PollOrder} {b : BellId} {rest : List RunningPoll}
    (hp : s.polls.Perm (⟨o, .coming b⟩ :: rest)) : Step s (s.listen o b rest)
  /-- A poll that was woken runs on. -/
  | resume {o : PollOrder} {b : BellId} {rest : List RunningPoll}
    (hp : s.polls.Perm (⟨o, .listening b⟩ :: rest))
    (hwoken : (s.memory.bell b).hasWoken o.ticket = true) : Step s (s.resume o b rest)
  /-- A poll has come to its deadline and leaves, perhaps just as it was woken. -/
  | expire {o : PollOrder} {b : BellId} {rest : List RunningPoll}
    (hp : s.polls.Perm (⟨o, .listening b⟩ :: rest)) (hlate : o.deadline ≤ s.time) :
    Step s (s.leave o b (⟨o, .leaving⟩ :: rest))
  /-- A poll that has left its bell looks for the last time. -/
  | lastLook {o : PollOrder} {rest : List RunningPoll}
    (hp : s.polls.Perm (⟨o, .leaving⟩ :: rest)) : Step s (s.lastLook o rest)
  /-- A poll that listens is dropped. -/
  | drop {o : PollOrder} {b : BellId} {rest : List RunningPoll}
    (hp : s.polls.Perm (⟨o, .listening b⟩ :: rest)) : Step s (s.leave o b rest)
  /-- Garbage is collected. -/
  | collect (pace : Pace) : Step s (s.collect pace)
  /-- The wall clock is set to any moment. -/
  | setClock (now : Timestamp) : Step s { s with now := now }
  /-- Time passes. -/
  | wait {time : Nat} (hle : s.time ≤ time) : Step s { s with time := time }
  /-- Looking channels up answers in another way from now on. -/
  | setResolver (resolver : Resolver) : Step s { s with resolver := resolver }

/-- A crowd when an engine starts empty. -/
def opening (now : Timestamp) (time : Nat) (resolver : Resolver) (ticket : Ticket) : Crowd :=
  ⟨.empty, [], now, time, resolver, ticket, fun _ => 0⟩

/-- The crowds that come about when an engine starts empty. -/
inductive Reachable : Crowd → Prop
  | start (now : Timestamp) (time : Nat) (resolver : Resolver) (ticket : Ticket) :
    Reachable (opening now time resolver ticket)
  | step {s s' : Crowd} (hs : Reachable s) (hstep : s.Step s') : Reachable s'

/-- The engine attends to its polls, and each poll is one that was started. -/
structure Sound (s : Crowd) : Prop where
  /-- The engine attends to its polls. -/
  attends : s.memory.Attends s.polls s.missed
  /-- The polls are orderly. -/
  orderly : Orderly (s.polls.map (·.order)) s.nextTicket

namespace Sound

variable {s : Crowd} {o : PollOrder} {b : BellId} {rest : List RunningPoll}

theorem orderly_cons (h : s.Sound) {stance : Stance} (hp : s.polls.Perm (⟨o, stance⟩ :: rest)) :
    Orderly (o :: rest.map (·.order)) s.nextTicket :=
  h.orderly.subperm (hp.symm.map RunningPoll.order).subperm

/-- The other polls are orderly without one. -/
theorem orderly_rest (h : s.Sound) {stance : Stance} (hp : s.polls.Perm (⟨o, stance⟩ :: rest)) :
    Orderly (rest.map (·.order)) s.nextTicket :=
  (h.orderly_cons hp).subperm (List.sublist_cons_self ..).subperm

/-- The tickets at the bell of a poll that listens are all different. -/
theorem nodup_tickets (h : s.Sound) (hp : s.polls.Perm (⟨o, .listening b⟩ :: rest)) :
    (o.ticket :: ticketsAt (listeners rest) b).Nodup := by
  have hnodup := (h.orderly_cons hp).nodup
  rw [List.map_cons, List.map_map] at hnodup
  exact hnodup.sublist (((ticketsAt_sublist _ b).trans (listeners_sublist rest)).cons_cons _)

/-- No two polls that listen have the same ticket. -/
theorem nodup_listeners (h : s.Sound) :
    ((listeners s.polls).map (·.order.ticket)).Nodup := by
  have hnodup := h.orderly.nodup
  rw [List.map_map] at hnodup
  exact hnodup.sublist (listeners_sublist s.polls)

/-- A poll that starts keeps the crowd sound. -/
theorem start (h : s.Sound) (locator : Locator) (max deadline : Nat) :
    (s.start locator max deadline).Sound := by
  unfold Crowd.start
  split
  next => exact h
  next channel hfind =>
    exact ⟨h.attends.join _,
      h.orderly.start (s.resolver.id_of_find hfind) (Nat.le_max_left 1 max) rfl⟩

/-- A publish keeps the crowd sound. -/
theorem publish (h : s.Sound) (message : Message) : (s.publish message).Sound := by
  unfold Crowd.publish
  split
  next => exact h
  next => exact ⟨h.attends.publish, h.orderly⟩

/-- A poll that looks at its queue keeps the crowd sound. -/
theorem look (h : s.Sound) (hp : s.polls.Perm (⟨o, .looking⟩ :: rest)) :
    (s.look o rest).Sound := by
  have hcons := h.orderly_cons hp
  have hid := hcons.channel_id o List.mem_cons_self
  have hmax := hcons.max_pos o List.mem_cons_self
  have hlooked := (h.attends.perm hp).looked rfl hid s.now hmax
  by_cases htaken : s.memory.firstTaken s.now o = []
  · obtain ⟨notices, hdrain⟩ := s.memory.drain_of_nothing s.now o.channel o.locator o.max htaken
    simp only [Crowd.look, hdrain]
    have hself := s.memory.subscription?_looked_self s.now o.channel o.locator o.max hid
    -- a look that takes nothing leaves nothing
    exact ⟨hlooked.come hself rfl (Memory.snd_takeVisible_of_fst_nil hmax htaken), hcons⟩
  · obtain ⟨notices, hdrain⟩ := s.memory.drain_of_taken s.now o.channel o.locator o.max htaken
    simp only [Crowd.look, hdrain]
    exact ⟨hlooked.forget, h.orderly_rest hp⟩

/-- A poll that looks for the last time keeps the crowd sound. -/
theorem lastLook (h : s.Sound) (hp : s.polls.Perm (⟨o, .leaving⟩ :: rest)) :
    (s.lastLook o rest).Sound := by
  have hcons := h.orderly_cons hp
  have hlooked := (h.attends.perm hp).looked rfl (hcons.channel_id o List.mem_cons_self) s.now
    (hcons.max_pos o List.mem_cons_self)
  unfold Crowd.lastLook
  rw [(s.memory.lastLook_frame s.now o).1]
  exact ⟨hlooked.forget, h.orderly_rest hp⟩

/-- A poll that begins to listen keeps the crowd sound. -/
theorem listen (h : s.Sound) (hp : s.polls.Perm (⟨o, .coming b⟩ :: rest)) :
    (s.listen o b rest).Sound := by
  have hattends := h.attends.perm hp
  unfold Crowd.listen
  cases hpermit : (s.memory.bell b).permit with
  | true => exact ⟨hattends.listen_of_permit hpermit, h.orderly_cons hp⟩
  | false => exact ⟨hattends.listen_of_not_permit hpermit, h.orderly_cons hp⟩

/-- A poll that runs on after it was woken keeps the crowd sound. -/
theorem resume (h : s.Sound) (hp : s.polls.Perm (⟨o, .listening b⟩ :: rest))
    (hwoken : (s.memory.bell b).hasWoken o.ticket = true) : (s.resume o b rest).Sound :=
  ⟨(h.attends.perm hp).resume (h.nodup_tickets hp) hwoken, h.orderly_cons hp⟩

/-- A poll that leaves its bell at its deadline keeps the crowd sound. -/
theorem expire (h : s.Sound) (hp : s.polls.Perm (⟨o, .listening b⟩ :: rest)) :
    (s.leave o b (⟨o, .leaving⟩ :: rest)).Sound :=
  ⟨(h.attends.perm hp).leave (h.nodup_tickets hp), h.orderly_cons hp⟩

/-- A poll that is dropped leaves the crowd sound. -/
theorem drop (h : s.Sound) (hp : s.polls.Perm (⟨o, .listening b⟩ :: rest)) :
    (s.leave o b rest).Sound :=
  ⟨((h.attends.perm hp).leave (h.nodup_tickets hp)).forget, h.orderly_rest hp⟩

/-- Whatever happens in a crowd keeps it sound. -/
theorem step {s' : Crowd} (h : s.Sound) (hstep : s.Step s') : s'.Sound := by
  -- the clocks and the lookups are read by no part of the invariant
  cases hstep with
  | start locator max deadline => exact h.start locator max deadline
  | publish message => exact h.publish message
  | look hp => exact h.look hp
  | listen hp => exact h.listen hp
  | resume hp hwoken => exact h.resume hp hwoken
  | expire hp hlate => exact h.expire hp
  | lastLook hp => exact h.lastLook hp
  | drop hp => exact h.drop hp
  | collect pace => exact ⟨h.attends.thin (s.memory.thins_collectWithin _ _ pace), h.orderly⟩
  | setClock now => exact ⟨h.attends, h.orderly⟩
  | wait hle => exact ⟨h.attends, h.orderly⟩
  | setResolver resolver => exact ⟨h.attends, h.orderly⟩

end Sound

/-- Every crowd that can be reached is sound. -/
theorem sound_of_reachable {s : Crowd} (h : Reachable s) : s.Sound := by
  induction h with
  | start now time resolver ticket =>
    exact ⟨Memory.attends_empty _, List.nodup_nil, by simp [opening], by simp [opening],
      by simp [opening]⟩
  | step hs hstep ih => exact ih.step hstep

/-- A poll sleeps: it listens at a bell that has not woken it. -/
def sleeps (s : Crowd) (p : RunningPoll) : Bool :=
  match p.stance with
  | .listening b => !(s.memory.bell b).hasWoken p.order.ticket
  | _ => false

/-- The polls at a bell that were woken and have not run on. -/
def wokenAt (s : Crowd) (b : BellId) : List WaitingPoll :=
  (pollsAt (listeners s.polls) b).filter fun p => (s.memory.bell b).hasWoken p.order.ticket

/-- No visible message is in the queue of a subscriber while polls of it run and all of them
sleep. -/
def Watchful (s : Crowd) : Prop :=
  ∀ l sub, s.memory.subscription? l = some sub →
    (∃ p ∈ s.polls, p.order.locator = l) →
    (∀ p ∈ s.polls, p.order.locator = l → s.sleeps p = true) →
    ∀ posted ∈ sub.queue, posted.isVisible s.now = false

/-- Where one of the polls of a subscriber sleeps, no permit is kept, and a woken poll, a look or a
missed ring stands for each message. -/
theorem Sound.queued_le {s : Crowd} (h : s.Sound) {sub : Subscription} {p : RunningPoll}
    (hsub : s.memory.subscription? p.order.locator = some sub) (hp : p ∈ s.polls)
    (hsleeps : s.sleeps p = true) : (s.memory.bell sub.bell).permit = false ∧
      sub.queue.length ≤ (s.wokenAt sub.bell).length + lookers s.polls p.order.locator +
        s.missed sub.bell := by
  obtain ⟨o, stance⟩ := p
  cases stance with
  | listening b =>
    obtain ⟨sub', hsub', rfl⟩ := h.attends.seated _ hp b rfl
    obtain rfl := Option.some.inj (hsub.symm.trans hsub')
    have htallies := h.attends.tallies sub.bell
    have hcounts := htallies.counts
    have hlistens : (⟨o, sub.bell⟩ : WaitingPoll) ∈ pollsAt (listeners s.polls) sub.bell :=
      List.mem_filter.mpr ⟨List.mem_filterMap.mpr ⟨_, hp, rfl⟩, decide_eq_true rfl⟩
    have hwaiting : (s.memory.bell sub.bell).waiting ≠ [] :=
      hcounts.waiting_ne_nil (List.ne_nil_of_mem (List.mem_filter.mpr ⟨hlistens, hsleeps⟩))
    refine ⟨htallies.permit_eq hwaiting, ?_⟩
    -- while one poll waits there is no permit, so the rings under way are those of woken polls
    have hqueued := h.attends.meets hsub (Or.inr hwaiting)
    have hwoken : (s.wokenAt sub.bell).length = (s.memory.bell sub.bell).woken.length :=
      hcounts.length_woken (h.nodup_listeners)
    rw [Bell.wakeUps, htallies.permit_eq hwaiting, Bool.toNat_false] at hqueued
    rw [hwoken]
    omega
  | _ => exact absurd hsleeps Bool.false_ne_true

/-- The poll of a ticket takes its next step, if it can take one before its deadline. -/
def turn (s : Crowd) (t : Ticket) : Crowd :=
  match s.polls.find? (·.order.ticket = t) with
  | none => s
  | some p =>
    let rest := s.polls.eraseP (·.order.ticket = t)
    match p.stance with
    | .looking => s.look p.order rest
    | .coming b => s.listen p.order b rest
    | .listening b =>
      if (s.memory.bell b).hasWoken p.order.ticket then s.resume p.order b rest else s
    | .leaving => s.lastLook p.order rest

/-- A poll that takes its turn takes a step. -/
theorem reachable_turn {s : Crowd} (h : s.Reachable) (t : Ticket) : (s.turn t).Reachable := by
  unfold turn
  split
  next => exact h
  next p hfind =>
    obtain ⟨hticket, before, after, hpolls, hbefore⟩ := List.find?_eq_some_iff_append.mp hfind
    -- the poll that is found is the one that is erased: both are the first with this ticket
    have hperm : s.polls.Perm (p :: s.polls.eraseP (·.order.ticket = t)) := by
      rw [hpolls, List.eraseP_append_right _ (by simpa using hbefore), List.eraseP_cons, hticket,
        cond_true]
      exact List.perm_middle
    obtain ⟨o, stance⟩ := p
    cases stance with
    | looking => exact h.step (.look hperm)
    | coming b => exact h.step (.listen hperm)
    | listening b =>
      dsimp only
      split
      next hwoken => exact h.step (.resume hperm hwoken)
      next => exact h
    | leaving => exact h.step (.lastLook hperm)

end Crowd

/-- In every crowd that can be reached, where a poll of a subscriber sleeps, its bell keeps no
permit, and no more messages are queued than polls were woken or are about to look, and rings have
fallen on a kept permit since a look last left the queue empty. Where all polls of the subscriber
sleep, only the missed rings are left. -/
theorem queued_beside_sleeping_poll {s : Crowd} (h : s.Reachable) {l : Locator}
    {sub : Subscription} (hsub : s.memory.subscription? l = some sub)
    (hasleep : ∃ p ∈ s.polls, p.order.locator = l ∧ s.sleeps p = true) :
    (s.memory.bell sub.bell).permit = false ∧
      sub.queue.length ≤
        (s.wokenAt sub.bell).length + lookers s.polls l + s.missed sub.bell ∧
      ((∀ p ∈ s.polls, p.order.locator = l → s.sleeps p = true) →
        sub.queue.length ≤ s.missed sub.bell) := by
  obtain ⟨p, hp, rfl, hsleeps⟩ := hasleep
  have hsound := Crowd.sound_of_reachable h
  obtain ⟨hpermit, hqueued⟩ := hsound.queued_le hsub hp hsleeps
  refine ⟨hpermit, hqueued, fun hall => ?_⟩
  -- a poll that sleeps is not about to look, and nothing has woken it
  have hlookers : lookers s.polls p.order.locator = 0 := by
    refine List.countP_eq_zero.mpr fun q hq hlook => ?_
    obtain ⟨hstance, hlocator⟩ := of_decide_eq_true hlook
    have hsleeps := hall q hq hlocator
    rw [Crowd.sleeps, hstance] at hsleeps
    exact Bool.false_ne_true hsleeps
  have hwoken : s.wokenAt sub.bell = [] := by
    refine List.filter_eq_nil_iff.mpr fun w hw hwoken => ?_
    obtain ⟨hlistens, hbell⟩ := List.mem_filter.mp hw
    obtain ⟨⟨o, stance⟩, hq, hlistening⟩ := List.mem_filterMap.mp hlistens
    cases stance with
    | listening b =>
      obtain rfl := Option.some.inj hlistening
      obtain rfl : b = sub.bell := of_decide_eq_true hbell
      -- a poll at this bell is one of the subscriber, all of whose polls sleep
      obtain ⟨sub', hsub', heq⟩ := hsound.attends.seated _ hq sub.bell rfl
      have hsleeps := hall _ hq (hsound.attends.bell_inj hsub' hsub heq)
      rw [Crowd.sleeps] at hsleeps
      simp [hwoken] at hsleeps
    | _ => exact nomatch hlistening
  rw [hwoken, hlookers] at hqueued
  simpa using hqueued

namespace Sample

/-- Two polls are on their way to the bell when two messages are published. The first one takes the
permit and one message; then the second one begins to listen. -/
def crossing : Crowd :=
  let s := Crowd.opening (.clamp 0) 0 (.uniform (.seconds 10)) 0
  let s := (s.start reader 1 100).start reader 1 100
  let s := (s.turn 0).turn 1
  let s := (s.publish greeting).publish parting
  ((s.turn 0).turn 0).turn 1

/-- The polls and the messages come one after the other as told. -/
theorem reachable_crossing : crossing.Reachable := by
  have hopening := Crowd.Reachable.start (.clamp 0) 0 (.uniform (.seconds 10)) 0
  have hstarted := (hopening.step (.start reader 1 100)).step (.start reader 1 100)
  have hlooked := Crowd.reachable_turn (Crowd.reachable_turn hstarted 0) 1
  have hpublished := (hlooked.step (.publish greeting)).step (.publish parting)
  have htaken := Crowd.reachable_turn (Crowd.reachable_turn hpublished 0) 0
  exact Crowd.reachable_turn htaken 1

end Sample

/-- One message is in the queue beside a poll that sleeps, and one ring was missed. -/
theorem queued_beside_sleeping_poll_crossing : ∃ sub,
    Sample.crossing.memory.subscription? Sample.reader = some sub ∧
      sub.queue.map (·.message) = [Sample.parting] ∧
      (Sample.crossing.memory.bell sub.bell).permit = false ∧
      sub.queue.length ≤ (Sample.crossing.wokenAt sub.bell).length +
        lookers Sample.crossing.polls Sample.reader + Sample.crossing.missed sub.bell ∧
      sub.queue.length ≤ Sample.crossing.missed sub.bell := by
  have hqueue : (Sample.crossing.memory.subscription? Sample.reader).map
      (·.queue.map (·.message)) = some [Sample.parting] := by decide +kernel
  obtain ⟨sub, hsub, hparting⟩ := Option.map_eq_some_iff.mp hqueue
  have hasleep : ∃ p ∈ Sample.crossing.polls,
      p.order.locator = Sample.reader ∧ Sample.crossing.sleeps p = true := by decide +kernel
  obtain ⟨hpermit, hqueued, hmissed⟩ :=
    queued_beside_sleeping_poll Sample.reachable_crossing hsub hasleep
  exact ⟨sub, hsub, hparting, hpermit, hqueued, hmissed (by decide +kernel)⟩

/-- Under interruption a visible message may be left in the queue while the only poll sleeps. -/
theorem message_beside_sleeping_poll : ¬ ∀ s : Crowd, s.Reachable → s.Watchful := by
  intro hwatchful
  have hvisible : (Sample.crossing.memory.subscription? Sample.reader).any
      (·.queue.any (·.isVisible Sample.crossing.now)) = true := by decide +kernel
  obtain ⟨sub, hsub, hany⟩ := (Option.any_eq_true _ _).mp hvisible
  obtain ⟨posted, hposted, hshows⟩ := List.any_eq_true.mp hany
  -- a watchful crowd would have no visible message in this queue
  have hhidden := hwatchful Sample.crossing Sample.reachable_crossing Sample.reader sub hsub
    (by decide +kernel) (by decide +kernel) posted hposted
  exact Bool.false_ne_true (hhidden.symm.trans hshows)

end LongPoll
