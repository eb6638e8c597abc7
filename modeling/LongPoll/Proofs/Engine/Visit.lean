import LongPoll.Proofs.Engine.View
import LongPoll.Storage.Call
/-!
# Visits to a memory engine

A visit is an operation that reaches a memory engine and ends at once: a publish, a poll that may
not wait, or a pass that collects garbage. It brings along all that the engine reads from outside:
the two clocks, what looking channels up answers at that moment, and the ticket of a poll.

`Memory.serve` puts the operations of the engine together as a storage does that starts them, for
every way in which channels may be looked up. A poll that may not wait is answered with what its
only look at the queue takes (`serve_poll`).
-/

namespace LongPoll

/-- What looking channels up answers at some moment. -/
structure Resolver where
  /-- The channel of a name, or why there is none. -/
  find : ChannelId → Except Error Channel
  /-- A channel is found under its own name. -/
  id_of_find : ∀ {id c}, find id = .ok c → c.id = id

/-- What is asked of an engine. -/
inductive Errand where
  /-- Store a message and queue it for the subscribers of its channel. -/
  | publish (message : Message)
  /-- Take messages off the queue of a subscriber, without waiting for any. -/
  | poll (locator : Locator) (max : Nat)
  /-- Collect garbage within the time allowed. -/
  | collect (timeout : Duration)

/-- An operation that reaches an engine and ends at once. -/
structure Visit where
  /-- What the wall clock shows. -/
  now : Timestamp
  /-- What the clock of waits shows. -/
  time : Nat
  /-- What looking channels up answers. -/
  resolver : Resolver
  /-- The ticket that a poll draws. -/
  ticket : Ticket
  /-- What is asked. -/
  errand : Errand

namespace Visit

/-- What a poll asks for that finds the channel and may not wait. -/
def order (v : Visit) (channel : Channel) (locator : Locator) (max : Nat) : PollOrder :=
  ⟨channel, locator, Nat.max 1 max, v.time, v.ticket⟩

end Visit

/-- What a poll has answered, if it has ended. -/
def PollProgress.answer? : PollProgress → Option StorageAnswer
  | answered ms => some (.ok (.messages ms))
  | waiting _ => none

namespace Memory

/-- Serve a visit, and give the answer to a publish or a poll. -/
def serve (m : Memory) (v : Visit) : Memory × Option StorageAnswer :=
  match v.errand with
  | .publish message =>
    match v.resolver.find message.channel with
    | .error e => (m, some (.error e))
    | .ok channel => ((m.publish v.now channel message).1, some (.ok .done))
  | .poll locator max =>
    match v.resolver.find locator.channel with
    | .error e => (m, some (.error e))
    | .ok channel =>
      let step := m.startPoll v.now v.time (v.order channel locator max)
      (step.memory, step.progress.answer?)
  | .collect timeout =>
    match collectRefusal? .unhurried timeout with
    | some _ => (m, none)
    | none => ((m.collect v.now fun id => (v.resolver.find id).toOption).1, none)

/-- A visit that may not wait is answered with what its only look at the queue takes. -/
theorem serve_poll {m : Memory} {v : Visit} {locator : Locator} {max : Nat} {channel : Channel}
    (herrand : v.errand = .poll locator max)
    (hfind : v.resolver.find locator.channel = .ok channel) :
    m.serve v = ((m.look v.now v.time (v.order channel locator max) 1).memory,
      some (.ok (.messages
        ((m.taken v.now channel locator.subscriber (Nat.max 1 max)).map (·.message))))) := by
  have hlate : (v.order channel locator max).deadline ≤ v.time := Nat.le_refl _
  have hanswered := m.progress_look v.now hlate
  simp only [serve, herrand, hfind, startPoll, hanswered]
  rfl

end Memory

/-- The answers to several visits, one after the other. -/
def answersTo {σ : Type} (serve : σ → Visit → σ × Option StorageAnswer) :
    σ → List Visit → List (Option StorageAnswer)
  | _, [] => []
  | s, v :: vs => (serve s v).2 :: answersTo serve (serve s v).1 vs

/-! ### A small company -/

/-- Every name has a channel, and all channels have the same expiry. -/
def Resolver.uniform (expire : Duration) : Resolver where
  find id := .ok ⟨id, expire, none⟩
  id_of_find h := by
    obtain rfl := Except.ok.inj h
    rfl

namespace Sample

/-- A channel. -/
def room : ChannelId := ⟨"room", by decide +kernel⟩

/-- A consumer of the channel. -/
def reader : Locator := ⟨room, ⟨"reader", by decide +kernel⟩⟩

/-- A message for the channel. -/
def greeting : Message := ⟨room, ⟨"greeting", by decide +kernel⟩, ⟨#[104, 105]⟩⟩

/-- A message of another name. -/
def parting : Message := ⟨room, ⟨"parting", by decide +kernel⟩, ⟨#[98, 121, 101]⟩⟩

/-- A visit after some seconds, when channels have an expiry of some seconds. -/
def visitAt (second : Nat) (expire : Nat) (errand : Errand) : Visit :=
  ⟨.clamp (second * nanosPerSecond : Nat), 0, .uniform (.seconds expire), 0, errand⟩

/-- The messages in an answer. -/
def received : Option StorageAnswer → List Message
  | some (.ok reply) => reply.delivered
  | _ => []

end Sample

end LongPoll
