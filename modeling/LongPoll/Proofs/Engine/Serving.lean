import LongPoll.Proofs.Engine.Visit
import LongPoll.Proofs.Storage.Frame
/-!
# Visits in the course of calls

A storage in memory serves the visits that calls and passes bring it: what it answers and how it
stands afterwards is what `Memory.serve` says, with the clocks of the world and what its directory
answers (`startMemory_publish`, `startMemory_poll`, `collect_serve`).
-/

namespace LongPoll

namespace World

/-- What looking channels up answers at the moment. -/
def resolver (w : World) (h : w.directory.Promises FiledAs) : Resolver where
  find id := (w.directory.find w.clock id).answer
  id_of_find {id c} hfind := by
    have hfiled := (h.find w.clock id).1
    rw [hfind] at hfiled
    exact hfiled c rfl

/-- An errand that reaches a storage at the moment. -/
def visit (w : World) (h : w.directory.Promises FiledAs) (errand : Errand) : Visit :=
  ⟨w.clock, w.time, w.resolver h, w.nextTicket, errand⟩

end World

/-- A poll of the engine at a place, as a call. -/
def PollProgress.call (slot : Nat) : PollProgress → Call
  | answered ms => .settled (.ok (.messages ms))
  | waiting p => .polling slot p

/-- A poll that has looked leaves its engine, records some events, and goes on as it stands. -/
theorem polled_eq (spans : List LogSpan) (slot : Nat) (s : PollStep) (w : World) :
    ∃ events, polled spans slot s w =
      ({ w.setMemory slot s.memory with events := events }, s.progress.call slot) := by
  obtain ⟨events, hreport⟩ := (w.setMemory slot s.memory).reportAll_eq spans s.notices
  refine ⟨events, ?_⟩
  unfold polled
  rw [hreport]
  cases s.progress <;> rfl

/-- A poll that has looked changes its own backend only. -/
theorem confined_polled (spans : List LogSpan) (slot : Nat) (s : PollStep) (w : World) :
    World.Confined [slot] w (polled spans slot s w).1 := by
  obtain ⟨events, heq⟩ := polled_eq spans slot s w
  rw [heq]
  exact (w.confined_setMemory slot s.memory).trans ⟨rfl, fun _ _ => rfl, fun _ h => h⟩

/-- Whatever a storage in memory is asked, it leaves all other backends alone. -/
theorem confined_startMemory (slot : Nat) (b : MemoryBackend) (spans : List LogSpan)
    (r : StorageRequest) (w : World) :
    World.Confined [slot] w (startMemory slot b spans r w).1 := by
  cases r with
  | publish message =>
    rw [startMemory]
    have hfind := w.confined_findChannel spans [slot] message.channel
    generalize w.findChannel spans message.channel = found at hfind
    obtain ⟨w', answer⟩ := found
    cases answer with
    | error e => exact hfind
    | ok channel =>
      exact (hfind.trans (w'.confined_setMemory slot _)).trans (World.confined_report _ spans _ _)
  | poll locator max wait =>
    rw [startMemory]
    have hfind := w.confined_findChannel spans [slot] locator.channel
    generalize w.findChannel spans locator.channel = found at hfind
    obtain ⟨w', answer⟩ := found
    cases answer with
    | error e => exact hfind
    | ok channel =>
      -- drawing a ticket concerns no backend
      have hticket : World.Confined [slot] w' { w' with nextTicket := w'.nextTicket + 1 } :=
        ⟨rfl, fun _ _ => rfl, fun _ h => h⟩
      exact (hfind.trans hticket).trans (confined_polled spans slot _ _)
  | revoke exp jti =>
    exact (w.confined_setMemory slot _).trans (World.confined_report _ spans _ _)
  | shutdown => exact (w.confined_setBackend slot _).trans (World.confined_report _ spans _ _)
  | _ => exact .refl

section Start

variable {w : World} (slot : Nat) (b : MemoryBackend) (spans : List LogSpan)

/-- The order of a poll that a storage in memory starts. -/
def World.order (w : World) (channel : Channel) (locator : Locator) (max : Nat) (wait : Duration) :
    PollOrder :=
  ⟨channel, locator, Nat.max 1 max, w.time + World.waitMillis (wait.min Memory.maxPollWait),
    w.nextTicket⟩

/-- A poll fails if its channel cannot be found. -/
theorem startMemory_poll_of_error {locator : Locator} {e : Error}
    (hfind : (w.directory.find w.clock locator.channel).answer = .error e) (max : Nat)
    (wait : Duration) : ∃ events, startMemory slot b spans (.poll locator max wait) w =
      ({ w with
        directory := (w.directory.find w.clock locator.channel).directory
        events := events }, .settled (.error e)) := by
  obtain ⟨events, heq⟩ := w.findChannel_eq spans locator.channel
  exact ⟨events, by simp only [startMemory, heq, hfind]⟩

/-- A poll that finds its channel runs at the engine until it waits or returns. -/
theorem startMemory_poll_of_ok {locator : Locator} {channel : Channel}
    (hfind : (w.directory.find w.clock locator.channel).answer = .ok channel) (max : Nat)
    (wait : Duration) : ∃ events, startMemory slot b spans (.poll locator max wait) w =
      ({ w.setMemory slot
          (b.memory.startPoll w.clock w.time (w.order channel locator max wait)).memory with
        directory := (w.directory.find w.clock locator.channel).directory
        nextTicket := w.nextTicket + 1
        events := events },
        (b.memory.startPoll w.clock w.time (w.order channel locator max wait)).progress.call
          slot) := by
  obtain ⟨events, heq⟩ := w.findChannel_eq spans locator.channel
  simp only [startMemory, heq, hfind]
  obtain ⟨events', hpolled⟩ := polled_eq spans slot
    (b.memory.startPoll w.clock w.time (w.order channel locator max wait))
    { w with
      directory := (w.directory.find w.clock locator.channel).directory
      nextTicket := w.nextTicket + 1
      events := events }
  refine ⟨events', ?_⟩
  -- what is reported changes the log and nothing else
  unfold World.order at hpolled ⊢
  rw [hpolled]
  simp only [World.setMemory, World.memory?, World.backend?, World.setBackend]
  split <;> rfl

variable {slot b} (hslot : w.memory? slot = some b) (hfiled : w.directory.Promises FiledAs)

include hslot

/-- A publish ends at once, as the engine serves it. -/
theorem startMemory_publish (message : Message) :
    ∃ answer, (b.memory.serve (w.visit hfiled (.publish message))).2 = some answer ∧
      (startMemory slot b spans (.publish message) w).2 = .settled answer ∧
      (startMemory slot b spans (.publish message) w).1.memory? slot =
        some { b with memory := (b.memory.serve (w.visit hfiled (.publish message))).1 } := by
  obtain ⟨events, heq⟩ := w.findChannel_eq spans message.channel
  simp only [startMemory, heq, Memory.serve, World.visit, World.resolver]
  cases (w.directory.find w.clock message.channel).answer with
  | error e => exact ⟨_, rfl, rfl, hslot⟩
  | ok channel =>
    refine ⟨_, rfl, rfl, World.memory?_of_backend? ?_⟩
    dsimp only
    -- the lookup has left the engine where it was
    generalize hw : ({ w with
      directory := (w.directory.find w.clock message.channel).directory
      events := events } : World) = w'
    have hslot' : w'.memory? slot = some b := by
      rw [← hw]
      exact hslot
    obtain ⟨events', hreport⟩ := (w'.setMemory slot
      (b.memory.publish w.clock channel message).1).report_eq spans
        (b.memory.publish w.clock channel message).2
    rw [hreport]
    exact World.backend?_setMemory_self hslot' _

/-- A poll that may not wait ends at once, as the engine serves it. -/
theorem startMemory_poll (locator : Locator) (max : Nat) :
    ∃ answer, (b.memory.serve (w.visit hfiled (.poll locator max))).2 = some answer ∧
      (startMemory slot b spans (.poll locator max Duration.zero) w).2 = .settled answer ∧
      (startMemory slot b spans (.poll locator max Duration.zero) w).1.memory? slot =
        some { b with memory := (b.memory.serve (w.visit hfiled (.poll locator max))).1 } := by
  cases hfind : (w.directory.find w.clock locator.channel).answer with
  | error e =>
    obtain ⟨events, heq⟩ := startMemory_poll_of_error slot b spans hfind max
      Duration.zero
    simp only [heq, Memory.serve, World.visit, World.resolver, hfind]
    exact ⟨_, rfl, rfl, hslot⟩
  | ok channel =>
    obtain ⟨events, heq⟩ := startMemory_poll_of_ok slot b spans hfind max
      Duration.zero
    have hserve := Memory.serve_poll (m := b.memory) (v := w.visit hfiled (.poll locator max))
      rfl hfind
    have horder : w.order channel locator max Duration.zero =
        (w.visit hfiled (.poll locator max)).order channel locator max := rfl
    rw [heq, hserve, horder]
    refine ⟨_, rfl, ?_, World.memory?_of_backend? (World.backend?_setMemory_self hslot _)⟩
    -- without a wait the time is over at once
    have hlate : ((w.visit hfiled (.poll locator max)).order channel locator max).deadline ≤
        w.time := Nat.le_refl _
    exact congrArg (PollProgress.call slot) (b.memory.progress_look w.clock hlate)

/-- A pass over the engine is a visit with what the directory has answered in its course. -/
theorem collect_serve (timeout : Duration) {P : ChannelId → Option Channel → Prop}
    (hpromises : w.directory.Promises fun id answer => FiledAs id answer ∧ P id answer) :
    ∃ resolver : Resolver, (∀ id, P id (resolver.find id).toOption) ∧
      (w.collect slot timeout).1.memory? slot = some { b with
        memory := (b.memory.serve
          ⟨w.clock, w.time, resolver, w.nextTicket, .collect timeout⟩).1 } := by
  have hnodup : b.memory.channels.keys.Nodup := b.memory.channels.nodup_keys
  obtain ⟨hmem, -, directory, events, hworld⟩ := w.findChannels_spec hpromises hnodup
  -- what was looked up answers as the pass was told, and the rest as it would be answered now
  let answer (id : ChannelId) : Except Error Channel :=
    if id ∈ b.memory.channels.keys then
      match Table.lookUp? id (w.findChannels b.memory.channels.keys).2 with
      | some channel => .ok channel
      | none => .error (.invalidChannel id.text)
    else (w.directory.find w.clock id).answer
  have hkeys : ∀ id ∈ b.memory.channels.keys, (answer id).toOption =
      Table.lookUp? id (w.findChannels b.memory.channels.keys).2 := fun id hid => by
    simp only [answer, if_pos hid]
    cases Table.lookUp? id (w.findChannels b.memory.channels.keys).2 <;> rfl
  have hanswer : ∀ id, FiledAs id (answer id).toOption ∧ P id (answer id).toOption := fun id => by
    by_cases hid : id ∈ b.memory.channels.keys
    · rw [hkeys id hid]
      exact hmem id hid
    · simp only [answer, if_neg hid]
      exact (hpromises.find w.clock id).1
  refine ⟨⟨answer, fun {id c} hfind => ?_⟩, fun id => (hanswer id).2, ?_⟩
  · exact (hanswer id).1 c (by rw [hfind]; rfl)
  · cases hrefusal : Memory.collectRefusal? .unhurried timeout with
    | some refusal =>
      rw [World.collect_of_refused hslot hrefusal]
      simp only [Memory.serve, hrefusal]
      exact hslot
    | none =>
      rw [World.collect_of_unhurried hslot hrefusal]
      simp only [Memory.serve, hrefusal]
      rw [hworld, b.memory.collect_congr w.clock hkeys]
      generalize hw : ({ w with directory := directory, events := events } : World) = w'
      have hslot' : w'.memory? slot = some b := by
        rw [← hw]
        exact hslot
      rw [show w.clock = w'.clock by rw [← hw]]
      exact World.memory?_of_backend? (World.backend?_setMemory_self hslot' _)

end Start

end LongPoll
