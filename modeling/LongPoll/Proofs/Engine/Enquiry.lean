import LongPoll.Proofs.Engine.Delivery
import LongPoll.Proofs.Engine.Serving
/-!
# Enquiries

An enquiry is a publish, or a poll that may not wait. While channels keep their expiries and the
clock does not go back, what an engine replies to enquiries is a matter of the ledger alone
(`Ledger.reply`), and a pass makes no difference. Whoever keeps several engines by one ledger can
therefore take any of them for the others, although their contents need not be the same.

`Mirrored` says of a way to start operations that it serves enquiries by the ledger that the engines
at some places are kept by, and leaves all other backends alone. A storage in memory does so for its
own place (`mirrored_backend`).
-/

namespace LongPoll

/-- A publish, or a poll that may not wait. -/
inductive Enquiry where
  /-- Store a message and queue it for the subscribers of its channel. -/
  | publish (message : Message)
  /-- Take messages off the queue of a subscriber. -/
  | poll (locator : Locator) (max : Nat)

namespace Enquiry

/-- The enquiry as a request to a storage. -/
def request : Enquiry → StorageRequest
  | publish message => .publish message
  | poll locator max => .poll locator max Duration.zero

/-- The enquiry as an errand to an engine. -/
def errand : Enquiry → Errand
  | publish message => .publish message
  | poll locator max => .poll locator max

theorem needs?_request (enquiry : Enquiry) : enquiry.request.needs? = some .pubsub := by
  cases enquiry <;> rfl

end Enquiry

namespace Ledger

/-- Reply to an enquiry by the ledger, where channels have these expiries. There is no reply if the
channel is not found. -/
def reply (ledger : Ledger) (expiry : ChannelId → Option Duration) (now : Timestamp) :
    Enquiry → Ledger × Option StorageReply
  | .publish message =>
    match expiry message.channel with
    | some expire => (ledger.publish now expire message, some .done)
    | none => (ledger, none)
  | .poll locator max =>
    match expiry locator.channel with
    | some _ =>
      let handed := (ledger.due now locator).take (Nat.max 1 max)
      (ledger.handOut locator handed, some (.messages (handed.map (·.message))))
    | none => (ledger, none)

/-- Where channels are found with these expiries, the ledger serves a visit as it replies. -/
theorem serve_eq_reply {ledger : Ledger} {v : Visit} {expiry : ChannelId → Option Duration}
    (hgrants : v.resolver.Grants expiry) {enquiry : Enquiry} (herrand : v.errand = enquiry.errand)
    {a : StorageAnswer} (ha : (ledger.serve v).2 = some a) :
    (ledger.serve v).1 = (ledger.reply expiry v.now enquiry).1 ∧
      a.toOption = (ledger.reply expiry v.now enquiry).2 := by
  unfold serve at ha ⊢
  rw [herrand] at ha ⊢
  -- whether the channel is found or not, both go by what was granted for it
  cases enquiry with
  | publish message =>
    have hchannel := hgrants message.channel
    dsimp only [Enquiry.errand] at ha ⊢
    rw [reply]
    cases hfind : v.resolver.find message.channel <;> rw [hfind] at ha hchannel <;>
      rw [← hchannel, ← Option.some.inj ha] <;> exact ⟨rfl, rfl⟩
  | poll locator max =>
    have hchannel := hgrants locator.channel
    dsimp only [Enquiry.errand] at ha ⊢
    rw [reply]
    cases hfind : v.resolver.find locator.channel <;> rw [hfind] at ha hchannel <;>
      rw [← hchannel, ← Option.some.inj ha] <;> exact ⟨rfl, rfl⟩

/-- Of the messages that are due to a subscriber, no two have the same name. -/
theorem Records.nodup_ids_due {ledger : Ledger} {m : Memory} {now : Timestamp}
    (h : ledger.Records m now) (l : Locator) :
    ((ledger.due now l).map fun p => p.message.id).Nodup := by
  have hdistinct : (ledger.due now l).Nodup := by
    refine (h.inOrder.sublist due_sublist).imp fun hlt heq => ?_
    rw [heq] at hlt
    exact Nat.lt_irrefl _ hlt
  refine List.Nodup.map_on (fun p hp q hq heq => ?_) hdistinct
  exact h.eq_of_id_eq (mem_due_iff.mp hp).1 (mem_due_iff.mp hq).1 heq

end Ledger

namespace World

variable {w w' : World} {slot : Nat} {ledger : Ledger} {expiry : ChannelId → Option Duration}
  {now later : Timestamp}

/-- Channels are found under their own names and with these expiries. -/
def Grants (w : World) (expiry : ChannelId → Option Duration) : Prop :=
  w.directory.Promises fun id answer => FiledAs id answer ∧ answer.map (·.expire) = expiry id

theorem Grants.filed (h : w.Grants expiry) : w.directory.Promises FiledAs :=
  Directory.Promises.imp h fun _ _ hanswer => hanswer.1

theorem Grants.confined {slots : List Nat} (h : w.Grants expiry) (hw : Confined slots w w') :
    w'.Grants expiry := hw.promises _ h

/-- What the directory answers at the moment is as granted. -/
theorem Grants.resolver (h : w.Grants expiry) : (w.resolver h.filed).Grants expiry := fun id =>
  (Directory.Promises.find h w.clock id).1.2

/-- The engine at a place stands as the ledger says. -/
def TracksAt (w : World) (slot : Nat) (ledger : Ledger) (expiry : ChannelId → Option Duration)
    (now : Timestamp) : Prop :=
  ∃ b, w.memory? slot = some b ∧ ledger.Tracks b.memory expiry now

theorem TracksAt.mono (h : w.TracksAt slot ledger expiry now) (hle : now ≤ later) :
    w.TracksAt slot ledger expiry later := by
  obtain ⟨b, hslot, htracks⟩ := h
  exact ⟨b, hslot, htracks.mono hle⟩

/-- What is confined to other backends leaves the engine as it is. -/
theorem TracksAt.confined {slots : List Nat} (h : w.TracksAt slot ledger expiry now)
    (hw : Confined slots w w') (hslot : slot ∉ slots) : w'.TracksAt slot ledger expiry now := by
  obtain ⟨b, hb, htracks⟩ := h
  exact ⟨b, (hw.memory?_eq hslot).trans hb, htracks⟩

/-- A pass over the engine at a place makes no difference to the ledger. -/
theorem TracksAt.collect (h : w.TracksAt slot ledger expiry w.clock) (hgrants : w.Grants expiry)
    (timeout : Duration) : (w.collect slot timeout).1.TracksAt slot ledger expiry w.clock := by
  obtain ⟨b, hslot, htracks⟩ := h
  obtain ⟨resolver, hresolver, hmemory⟩ := collect_serve hslot timeout hgrants
  exact ⟨_, hmemory, (htracks.serve (v := ⟨w.clock, w.time, resolver, w.nextTicket,
    .collect timeout⟩) hresolver).2⟩

end World

/-- An enquiry has been served by the ledger that the engines at these places are kept by. -/
structure Served (expiry : ChannelId → Option Duration) (ledger : Ledger) (enquiry : Enquiry)
    (slots : List Nat) (w w' : World) (c : Call) : Prop where
  /-- Other backends are as they were. -/
  confined : World.Confined slots w w'
  /-- The engines stand as the ledger says that has replied. -/
  tracks : ∀ slot ∈ slots,
    w'.TracksAt slot (ledger.reply expiry w.clock enquiry).1 expiry w.clock
  /-- The operation has ended as the ledger replies, and failed if it does not reply. -/
  answer : ∃ a, c = .settled a ∧ a.toOption = (ledger.reply expiry w.clock enquiry).2

/-- Enquiries are served by the ledger that the engines at these places are kept by. -/
def Mirrored (expiry : ChannelId → Option Duration) (slots : List Nat) (start : Starter) : Prop :=
  ∀ ledger enquiry spans w, World.Grants w expiry →
    (∀ slot ∈ slots, w.TracksAt slot ledger expiry w.clock) →
    Served expiry ledger enquiry slots w (start spans enquiry.request w).1
      (start spans enquiry.request w).2

/-- A storage in memory serves enquiries by the ledger that its engine is kept by. -/
theorem mirrored_backend (expiry : ChannelId → Option Duration) (b : Backend) :
    Mirrored expiry [b.slot] b.start := by
  intro ledger enquiry spans w hgrants htracks
  obtain ⟨mb, hslot, htrack⟩ := htracks b.slot (List.mem_singleton_self _)
  have hstart : b.start spans enquiry.request w =
      startMemory b.slot mb spans enquiry.request w := by
    rw [Backend.start, World.backend?_of_memory? hslot]
  have hconfined := confined_startMemory b.slot mb spans enquiry.request w
  have hserved := htrack.serve (v := w.visit hgrants.filed enquiry.errand) hgrants.resolver
  -- engine and ledger answer alike, and the engine's answer is that of the call
  obtain ⟨a, ha, hcall, hmemory⟩ : ∃ a,
      (mb.memory.serve (w.visit hgrants.filed enquiry.errand)).2 = some a ∧
      (startMemory b.slot mb spans enquiry.request w).2 = .settled a ∧
      (startMemory b.slot mb spans enquiry.request w).1.memory? b.slot =
        some { mb with memory := (mb.memory.serve (w.visit hgrants.filed enquiry.errand)).1 } := by
    cases enquiry with
    | publish message => exact startMemory_publish spans hslot hgrants.filed message
    | poll locator max => exact startMemory_poll spans hslot hgrants.filed locator max
  rw [hserved.1] at ha
  obtain ⟨hledger, hreply⟩ := Ledger.serve_eq_reply
    (v := w.visit hgrants.filed enquiry.errand) hgrants.resolver rfl ha
  rw [hstart]
  refine ⟨hconfined, fun slot hmem => ?_, a, hcall, hreply⟩
  rw [List.mem_singleton.mp hmem]
  refine ⟨_, hmemory, ?_⟩
  rw [show w.clock = (w.visit hgrants.filed enquiry.errand).now from rfl, ← hledger]
  exact hserved.2

end LongPoll
