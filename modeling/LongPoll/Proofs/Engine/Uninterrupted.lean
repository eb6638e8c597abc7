import Mathlib.Logic.Relation
import LongPoll.Proofs.Engine.Interleaving
/-!
# Polls that are not interrupted after all

The steps of a `Crowd` take those of a `Station` apart: where a poll takes its steps one after the
other and nothing comes in between, the engine is left as it is when the poll runs on until it waits
or returns. So a crowd can do whatever a station does (`reachable_crowd`).

The proof follows a poll that looks at its queue (`Crowd.leads_look`). If it finds something it
returns. Otherwise it listens, after a second look if there is a permit (`Crowd.leads_await`), and
if its deadline has come it leaves the bell and looks for the last time (`Crowd.leads_expire`).
-/

namespace LongPoll

open Relation

/-- A poll that waits, as one that listens at its bell. -/
def WaitingPoll.running (p : WaitingPoll) : RunningPoll := ⟨p.order, .listening p.bell⟩

namespace Crowd

variable {c : Crowd} {o : PollOrder} {rest : List RunningPoll}

/-- The crowd after some steps, in which the engine and the polls have changed and rings may have
been missed. -/
def Leads (c : Crowd) (m : Memory) (polls : List RunningPoll) : Prop :=
  ∃ missed, ReflTransGen Step c { c with memory := m, polls := polls, missed := missed }

/-- Steps may be followed by others, however many rings were missed. -/
theorem Leads.trans {m m' : Memory} {polls polls' : List RunningPoll} (h : c.Leads m polls)
    (h' : ∀ missed, Leads { c with memory := m, polls := polls, missed := missed } m' polls') :
    c.Leads m' polls' := by
  obtain ⟨missed, hsteps⟩ := h
  obtain ⟨missed', hsteps'⟩ := h' missed
  exact ⟨missed', hsteps.trans hsteps'⟩

theorem Leads.single {m : Memory} {polls : List RunningPoll} {missed : BellId → Nat}
    (h : c.Step { c with memory := m, polls := polls, missed := missed }) : c.Leads m polls :=
  ⟨missed, .single h⟩

theorem Leads.of_eq {m m' : Memory} {polls : List RunningPoll} (h : c.Leads m polls)
    (heq : m = m') : c.Leads m' polls := heq ▸ h

/-! ### The steps of a poll -/

/-- A poll that finds messages returns. -/
theorem leads_look_of_taken (hp : c.polls.Perm (⟨o, .looking⟩ :: rest))
    (htaken : c.memory.firstTaken c.now o ≠ []) :
    c.Leads (c.memory.firstLooked c.now o) rest := by
  obtain ⟨notices, hdrain⟩ := c.memory.drain_of_taken c.now o.channel o.locator o.max htaken
  have hlook := Step.look hp
  simp only [look, hdrain] at hlook
  exact .single hlook

/-- A poll that finds nothing is on its way to the bell. -/
theorem leads_look_of_nothing (hp : c.polls.Perm (⟨o, .looking⟩ :: rest))
    (hnothing : c.memory.firstTaken c.now o = []) :
    c.Leads ((c.memory.firstLooked c.now o).onBell (c.memory.firstBell c.now o) Bell.block)
      (⟨o, .coming (c.memory.firstBell c.now o)⟩ :: rest) := by
  obtain ⟨notices, hdrain⟩ := c.memory.drain_of_nothing c.now o.channel o.locator o.max hnothing
  have hlook := Step.look hp
  simp only [look, hdrain] at hlook
  exact .single hlook

/-- A poll that looks for the last time returns. -/
theorem leads_lastLook (hp : c.polls.Perm (⟨o, .leaving⟩ :: rest)) :
    c.Leads (c.memory.lastLook c.now o).memory rest := .single (.lastLook hp)

section Bell

variable {b : BellId}

/-- A poll that finds a permit at the bell looks again. -/
theorem leads_listen_of_permit (hp : c.polls.Perm (⟨o, .coming b⟩ :: rest))
    (hpermit : (c.memory.bell b).permit = true) :
    c.Leads (c.memory.onBell b fun x => (x.listen o.ticket).1.release)
      (⟨o, .looking⟩ :: rest) := by
  have hlisten := Step.listen hp
  rw [listen, if_pos hpermit] at hlisten
  exact .single hlisten

/-- A poll that finds no permit at the bell listens there. -/
theorem leads_listen_of_not_permit (hp : c.polls.Perm (⟨o, .coming b⟩ :: rest))
    (hpermit : (c.memory.bell b).permit = false) :
    c.Leads (c.memory.onBell b fun x => (x.listen o.ticket).1)
      (⟨o, .listening b⟩ :: rest) := by
  have hlisten := Step.listen hp
  rw [listen, hpermit, if_neg Bool.false_ne_true] at hlisten
  exact .single hlisten

/-- A poll at its deadline leaves the bell, looks for the last time and returns. -/
theorem leads_expire (hp : c.polls.Perm (⟨o, .listening b⟩ :: rest))
    (hlate : o.deadline ≤ c.time) :
    c.Leads ((c.memory.leaveBell b o.ticket).lastLook c.now o).memory rest :=
  (Leads.single (.expire hp hlate)).trans fun _ => leads_lastLook (.refl _)

end Bell

/-! ### A poll that looks -/

section Nothing

variable {m : Memory} (hnothing : m.firstTaken c.now o = [])
  (hchannels : c.memory.channels = (m.firstLooked c.now o).channels)

include hnothing hchannels

/-- A look at a queue that another look has emptied brings the poll on its way again. -/
theorem leads_look_again (hp : c.polls.Perm (⟨o, .looking⟩ :: rest)) :
    c.Leads (c.memory.onBell (m.firstBell c.now o) Bell.block)
      (⟨o, .coming (m.firstBell c.now o)⟩ :: rest) := by
  have hlook := Step.look hp
  simp only [look, Memory.drain_again c.memory hnothing hchannels] at hlook
  exact .single hlook

/-- A poll on its way ends up listening. -/
theorem leads_await (hp : c.polls.Perm (⟨o, .coming (m.firstBell c.now o)⟩ :: rest)) :
    c.Leads (c.memory.onBell (m.firstBell c.now o) (·.await o.ticket))
      (⟨o, .listening (m.firstBell c.now o)⟩ :: rest) := by
  generalize hb : m.firstBell c.now o = b at hp ⊢
  rw [← Memory.onBell_const _ _ (·.await o.ticket)]
  cases hpermit : (c.memory.bell b).permit with
  | false =>
    have hlisten := leads_listen_of_not_permit hp hpermit
    rw [← Memory.onBell_const _ _ fun x => (x.listen o.ticket).1] at hlisten
    simpa only [Bell.await, hpermit, Bool.false_eq_true, if_false] using hlisten
  | true =>
    -- the permit is gone when the poll comes to listen for the second time
    have hlt : b < c.memory.bells.length := by
      by_contra hge
      rw [Memory.bell_of_length_le _ (Nat.not_lt.mp hge)] at hpermit
      exact Bool.false_ne_true hpermit
    refine (leads_listen_of_permit hp hpermit).trans fun _ => ?_
    refine Leads.trans (leads_look_again hnothing hchannels (.refl _)) fun _ => ?_
    rw [hb]
    have hgone : (((c.memory.onBell b fun x => (x.listen o.ticket).1.release).onBell b
        Bell.block).bell b).permit = false := by
      rw [Memory.onBell_onBell, Memory.bell_onBell_of_lt _ _ hlt,
        Bell.listen_of_permit o.ticket hpermit]
      rfl
    refine (leads_listen_of_not_permit (.refl _) hgone).of_eq ?_
    rw [Memory.onBell_onBell, Memory.onBell_onBell, ← Memory.onBell_const, Bell.await,
      if_pos hpermit]

end Nothing

/-- A poll that takes one step after the other leaves the engine as if it had looked at its queue
and run on until it waited or returned. -/
theorem leads_look (hp : c.polls.Perm (⟨o, .looking⟩ :: rest)) :
    c.Leads (c.memory.look c.now c.time o 1).memory
      ((c.memory.look c.now c.time o 1).progress.polls.map WaitingPoll.running ++ rest) := by
  rcases c.memory.look_cases c.now c.time o with ⟨htaken, hmemory, hprogress⟩ |
    ⟨hnothing, -, hmemory, hprogress⟩ | ⟨hnothing, hlate, hmemory, hprogress⟩ <;>
    rw [hmemory, hprogress]
  · exact leads_look_of_taken hp htaken
  · -- the poll is counted and listens, which is what `await` does to the bell in one go
    refine (leads_look_of_nothing hp hnothing).trans fun _ => ?_
    refine Leads.of_eq (leads_await hnothing rfl (.refl _)) ?_
    rw [Memory.onBell_onBell]
  · refine (leads_look_of_nothing hp hnothing).trans fun _ => ?_
    refine Leads.trans (leads_await hnothing rfl (.refl _)) fun _ => ?_
    refine Leads.of_eq (leads_expire (.refl _) hlate) ?_
    -- the last look finds nothing either
    generalize hm : ((c.memory.firstLooked c.now o).onBell _ Bell.block).onBell _ _ = m
    have hchannels : m.channels = (c.memory.firstLooked c.now o).channels := hm ▸ rfl
    have hlast := Memory.settleDown_of_late hnothing hchannels hlate
    rw [Memory.settleDown, if_pos hlate] at hlast
    rw [hlast, ← hm, Memory.leaveBell, Memory.onBell_onBell, Memory.onBell_onBell,
      Memory.onBell_onBell]

/-- What steps lead to from a crowd that can be reached can be reached. -/
theorem Reachable.of_steps {c' : Crowd} (h : c.Reachable) (hsteps : ReflTransGen Step c c') :
    c'.Reachable := by
  induction hsteps with
  | refl => exact h
  | tail _ hstep ih => exact ih.step hstep

end Crowd

namespace Station

/-- The station as a crowd, with the polls in some order. -/
def crowd (s : Station) (polls : List RunningPoll) (missed : BellId → Nat) : Crowd :=
  ⟨s.memory, polls, s.now, s.time, s.resolver, s.nextTicket, missed⟩

variable {s s' : Station}

/-- Where the poll of a crowd has run on, the crowd is the station after it has run on. -/
theorem steps_of_leads {c : Crowd} {polls : List RunningPoll} {missed : BellId → Nat}
    {m : Memory} {others : List WaitingPoll} {progress : PollProgress}
    (hbegin : ReflTransGen Crowd.Step c (s.crowd polls missed))
    (hleads : (s.crowd polls missed).Leads m
      (progress.polls.map WaitingPoll.running ++ others.map WaitingPoll.running)) :
    ∃ polls' missed', polls'.Perm ((others ++ progress.polls).map WaitingPoll.running) ∧
      ReflTransGen Crowd.Step c
        ({ s with memory := m, polls := others ++ progress.polls }.crowd polls' missed') := by
  obtain ⟨missed', hsteps⟩ := hleads
  refine ⟨_, missed', ?_, hbegin.trans hsteps⟩
  -- a poll that has moved stands first in the crowd and last at the station
  rw [List.map_append]
  exact List.perm_append_comm

/-- A crowd can do what a station does in one step. -/
theorem Step.steps (h : s.Step s') (hsound : s.Sound) {polls : List RunningPoll}
    (hpolls : polls.Perm (s.polls.map WaitingPoll.running)) (missed : BellId → Nat) :
    ∃ polls' missed', polls'.Perm (s'.polls.map WaitingPoll.running) ∧
      ReflTransGen Crowd.Step (s.crowd polls missed) (s'.crowd polls' missed') := by
  have hcons : ∀ {p : WaitingPoll}, p ∈ s.polls → polls.Perm
      (p.running :: (withoutTicket s.polls p.order.ticket).map WaitingPoll.running) :=
    fun hp => hpolls.trans
      ((perm_cons_withoutTicket hsound.orderly.nodup_tickets hp).map WaitingPoll.running)
  -- a poll that runs on takes several steps here, everything else is a step of both
  cases h with
  | poll locator max deadline =>
    have hstart := Crowd.Step.start (s := s.crowd polls missed) locator max deadline
    unfold Crowd.start at hstart
    unfold Station.poll
    cases hfind : s.resolver.find locator.channel with
    | error e => exact ⟨polls, missed, hpolls, .refl⟩
    | ok channel =>
      simp only [Station.crowd, hfind] at hstart
      exact steps_of_leads (s := { s with nextTicket := s.nextTicket + 1 }) (.single hstart)
        (Crowd.leads_look (hpolls.cons _))
  | publish message =>
    have hpublish := Crowd.Step.publish (s := s.crowd polls missed) message
    unfold Crowd.publish at hpublish
    unfold Station.publish
    cases hfind : s.resolver.find message.channel with
    | error e => exact ⟨polls, missed, hpolls, .refl⟩
    | ok channel =>
      simp only [Station.crowd, hfind] at hpublish
      exact ⟨polls, _, hpolls, .single hpublish⟩
  | resume hp hready =>
    rename_i p
    unfold Station.resume Memory.resumePoll
    by_cases hwoken : (s.memory.bell p.bell).hasWoken p.order.ticket = true
    · rw [if_pos hwoken, Memory.onBell_onBell]
      have hresume := Crowd.Step.resume (s := s.crowd polls missed) (hcons hp) hwoken
      exact steps_of_leads (s := { s with memory := _ }) (.single hresume)
        (Crowd.leads_look (.refl _))
    · -- nothing but its deadline lets a poll go on that was not woken
      have hlate : p.order.deadline ≤ s.time := by
        rw [Memory.canResume, Bool.or_eq_true, decide_eq_true_eq] at hready
        exact hready.resolve_left hwoken
      rw [if_neg hwoken, if_pos hlate]
      refine steps_of_leads (s := s) .refl ?_
      rw [(Memory.lastLook_frame _ _ _).2]
      exact Crowd.leads_expire (hcons hp) hlate
  | drop hp => exact ⟨_, _, .refl _, .single (.drop (hcons hp))⟩
  | collect pace => exact ⟨polls, missed, hpolls, .single (.collect pace)⟩
  | setClock now => exact ⟨polls, missed, hpolls, .single (.setClock now)⟩
  | wait hle => exact ⟨polls, missed, hpolls, .single (.wait hle)⟩
  | setResolver resolver => exact ⟨polls, missed, hpolls, .single (.setResolver resolver)⟩

end Station

/-- Whatever comes about at a station comes about in a crowd. -/
theorem reachable_crowd {s : Station} (h : s.Reachable) : ∃ polls missed,
    polls.Perm (s.polls.map WaitingPoll.running) ∧ (s.crowd polls missed).Reachable := by
  induction h with
  | start now time resolver ticket =>
    exact ⟨[], fun _ => 0, .nil, .start now time resolver ticket⟩
  | step hs hstep ih =>
    obtain ⟨polls, missed, hpolls, hreachable⟩ := ih
    obtain ⟨polls', missed', hpolls', hsteps⟩ :=
      hstep.steps (Station.sound_of_reachable hs) hpolls missed
    exact ⟨polls', missed', hpolls', hreachable.of_steps hsteps⟩

end LongPoll
