import LongPoll.Http.Server
import LongPoll.Proofs.Storage.Steady
/-!
# How requests are handled

Whatever a request asks for, there are two ways for it to go (`Server.handled_answer`). It is
answered at once, and the storage never hears of it; or it is passed on to the storage as one
operation, after all checks that the server and the broker make. What a check leaves behind is a
line in the log, a number for a message or an entry in the cache of channels, and nothing else
(`World.Aside`). What is made of the storage's answer is no more than a response and a line in the
log.
-/

namespace LongPoll

namespace World

/-- What has happened concerns neither a backend nor the log filter, and takes no time. -/
structure Aside (w w' : World) : Prop where
  /-- The backends are as they were. -/
  backends_eq : w'.backends = w.backends
  /-- The wall clock shows the same. -/
  clock_eq : w'.clock = w.clock
  /-- The same events are recorded. -/
  filter_eq : w'.filter = w.filter

variable {w w' w'' : World}

theorem Aside.refl (w : World) : w.Aside w := ⟨rfl, rfl, rfl⟩

theorem Aside.trans (h : w.Aside w') (h' : w'.Aside w'') : w.Aside w'' :=
  ⟨h'.backends_eq.trans h.backends_eq, h'.clock_eq.trans h.clock_eq,
    h'.filter_eq.trans h.filter_eq⟩

/-- To report something is aside. -/
theorem Logs.aside (h : w.Logs w') : w.Aside w' := by
  obtain ⟨events, rfl⟩ := h
  exact ⟨rfl, rfl, rfl⟩

/-- To look a channel up is aside. -/
theorem aside_findChannel (w : World) (spans : List LogSpan) (id : ChannelId) :
    w.Aside (w.findChannel spans id).1 := by
  obtain ⟨events, heq⟩ := w.findChannel_eq spans id
  rw [heq]
  exact ⟨rfl, rfl, rfl⟩

/-- The channel found by a look-up is found by the next one, too. -/
theorem finds_findChannel {spans : List LogSpan} {id : ChannelId} {channel : Channel}
    (h : (w.findChannel spans id).2 = .ok channel) : (w.findChannel spans id).1.Finds id := by
  obtain ⟨events, heq⟩ := w.findChannel_eq spans id
  rw [heq] at h ⊢
  exact Directory.Finds.find ⟨channel, h⟩ id

end World

/-! ### Brokers -/

/-- A broker either declines an operation before its storage hears of it, or passes it on, and then
the storage is able to carry it out and its channel can be found. `f` tells what becomes of a reply.
-/
inductive Broker.Asked (b : Broker) (w : World) (r : StorageRequest) {α : Type}
    (f : StorageReply → α) : World × Job (Except Error α) → Prop
  /-- The storage does not hear of the operation. -/
  | declined {w' : World} (e : Error) (aside : w.Aside w') : Asked b w r f (w', .done (.error e))
  /-- The storage is asked. -/
  | passed {w' : World} {conclude : StorageAnswer → World → World × Except Error α}
    (aside : w.Aside w') (able : b.storage.isAble r = true)
    (finds : ∀ id ∈ r.channel?, w'.Finds id)
    (logs : ∀ (a : StorageAnswer) (w : World), w.Logs (conclude a w).1)
    (ok : ∀ reply w, (conclude (.ok reply) w).2 = .ok (f reply)) :
    Asked b w r f ((b.storage.start [] r w').1, ⟨(b.storage.start [] r w').2, conclude⟩)

namespace Broker

variable {b : Broker} {w w' : World} {r : StorageRequest} {α β : Type} {f : StorageReply → α}
  {p : World × Job (Except Error α)}

/-- An operation may be preceded by something aside. -/
theorem Asked.of_aside (haside : w.Aside w') (h : b.Asked w' r f p) : b.Asked w r f p := by
  cases h with
  | declined e aside => exact .declined e (haside.trans aside)
  | passed aside able finds logs ok => exact .passed (haside.trans aside) able finds logs ok

/-- What is passed on is asked of the storage. -/
theorem asked_pass (able : b.storage.isAble r = true) (finds : ∀ id ∈ r.channel?, w.Finds id) :
    b.Asked w r id (b.pass r w) :=
  .passed (.refl w) able finds (fun _ w'' => .refl w'') fun _ _ => rfl

/-- What becomes of a result may be changed, and something may be reported about it. -/
theorem Asked.andThen {g : Except Error α → World → World × Except Error β} {f' : StorageReply → β}
    (h : b.Asked w r f p) (hlogs : ∀ (a : Except Error α) (w : World), w.Logs (g a w).1)
    (hok : ∀ reply w', (g (.ok (f reply)) w').2 = .ok (f' reply))
    (herror : ∀ e w', g (.error e) w' = (w', .error e)) :
    b.Asked w r f' (p.1, p.2.andThen g) := by
  cases h with
  | @declined w' e aside =>
    -- an operation that was declined has its result already, and an error stays as it is
    have hdone : (Job.done (.error e)).andThen g = .done (.error e) := by
      simp only [Job.andThen, Job.done, herror]
    rw [hdone]
    exact .declined e aside
  | passed aside able finds logs ok =>
    refine .passed aside able finds (fun a w'' => (logs a w'').trans (hlogs _ _))
      fun reply w'' => ?_
    dsimp only
    rw [ok, hok]

/-- An operation that needs a capability is asked of a storage that has it. -/
theorem asked_requiring {c : Capability} {next : World → World × Job (Except Error α)}
    (h : b.storage.has c = true → b.Asked w r f (next w)) :
    b.Asked w r f (b.requiring c next w) := by
  unfold requiring
  split
  next hhas => exact h hhas
  next => exact .declined _ (.refl w)

/-- An operation on a channel is asked of the storage if the channel is found. -/
theorem asked_resolving {channel : ChannelId} {next : World → World × Job (Except Error α)}
    (h : (w.findChannel [] channel).1.Finds channel →
      b.Asked (w.findChannel [] channel).1 r f (next (w.findChannel [] channel).1)) :
    b.Asked w r f (resolving channel next w) := by
  have haside := w.aside_findChannel [] channel
  unfold resolving
  cases hfind : w.findChannel [] channel with
  | mk w' answer =>
    rw [hfind] at haside
    cases answer with
    | error e => exact .declined e haside
    | ok definition =>
      have hfinds := w.finds_findChannel (congrArg Prod.snd hfind)
      have hnext := h hfinds
      rw [hfind] at hnext
      exact hnext.of_aside haside

/-- To publish a message is to ask the storage for that. -/
theorem asked_publish (b : Broker) (m : Message) (w : World) :
    b.Asked w (.publish m) id (b.publish m w) :=
  asked_requiring fun hhas => asked_resolving fun hfinds =>
    asked_pass hhas fun _ hid => Option.some.inj hid ▸ hfinds

/-- The message gets the next name of the world in which its channel was found. -/
theorem asked_publishUnnamed (b : Broker) (channel : ChannelId) (content : ByteArray) (w : World) :
    ∃ name, b.Asked w (.publish ⟨channel, name, content⟩) (fun _ => name)
      (b.publishUnnamed channel content w) := by
  refine ⟨(w.findChannel [] channel).1.nameMessage.2,
    asked_requiring fun hhas => asked_resolving fun hfinds => ?_⟩
  generalize (w.findChannel [] channel).1 = w' at hfinds
  -- to name a message concerns the number of the next name only
  have haside : w'.Aside w'.nameMessage.1 := ⟨rfl, rfl, rfl⟩
  have hpass : b.Asked w'.nameMessage.1 (.publish ⟨channel, w'.nameMessage.2, content⟩) id
      (b.pass (.publish ⟨channel, w'.nameMessage.2, content⟩) w'.nameMessage.1) :=
    asked_pass hhas fun _ hid => Option.some.inj hid ▸ hfinds
  exact (hpass.andThen (fun _ w'' => .refl w'') (fun _ _ => rfl) fun _ _ => rfl).of_aside haside

/-- To poll is to ask the storage for that. -/
theorem asked_poll (b : Broker) (locator : Locator) (max : Nat) (wait : Duration) (w : World) :
    b.Asked w (.poll locator max wait) id (b.poll locator max wait w) :=
  asked_requiring fun hhas => asked_resolving fun hfinds =>
    asked_pass hhas fun _ hid => Option.some.inj hid ▸ hfinds

/-- To revoke a token is to ask the storage for that, and to report it. -/
theorem asked_revoke (b : Broker) (jti : Jti) (exp : Timestamp) (w : World) :
    b.Asked w (.revoke exp jti) id (b.revoke jti exp w) := by
  refine asked_requiring fun hhas => ?_
  have hpass : b.Asked w (.revoke exp jti) id (b.pass (.revoke exp jti) w) := asked_pass hhas nofun
  refine hpass.andThen (fun a w' => ?_) (fun _ _ => rfl) fun _ _ => rfl
  cases a with
  | ok reply => exact w'.logs_report [] _
  | error e => exact .refl w'

/-- To ask for a revocation is to ask the storage for it. -/
theorem asked_isRevoked (b : Broker) (jti : Jti) (w : World) :
    b.Asked w (.isRevoked jti) id (b.isRevoked jti w) :=
  asked_requiring fun hhas => asked_pass hhas nofun

/-- To probe the liveness is to probe that of the storage. -/
theorem asked_liveness (b : Broker) (w : World) : b.Asked w .liveness id (b.liveness w) :=
  asked_pass (Storage.isAble_of_needs?_none rfl _) nofun

theorem asked_readiness (b : Broker) (w : World) : b.Asked w .readiness id (b.readiness w) :=
  asked_pass (Storage.isAble_of_needs?_none rfl _) nofun

end Broker

/-! ### Responses -/

namespace Json

/-- The member of that name, if the value is an object that has one. -/
def member? (name : String) : Json → Option Json
  | object members => (members.find? fun m => m.1 = name).map Prod.snd
  | _ => none

/-- The elements, if the value is an array. -/
def items : Json → List Json
  | array js => js
  | _ => []

/-- The text, if the value is one. -/
def text? : Json → Option String
  | text s => some s
  | _ => none

end Json

namespace Http

/-- The names of the messages that a response lists. -/
def Response.messageIds (r : Response) : List String :=
  match r.body with
  | .json value =>
    ((value.member? "messages").elim [] Json.items).filterMap fun m =>
      (m.member? "messageId").bind Json.text?
  | _ => []

/-- The response to a poll lists the names of the messages in their order. -/
theorem messageIds_of_messages (status : Nat) (channel : String) (ms : List Message) :
    (Response.json status (.object
      [("channelId", .text channel), ("messages", .array (ms.map messageJson))])).messageIds =
        ms.map (·.id.text) := by
  have hfound : Json.member? "messages" (.object
      [("channelId", .text channel), ("messages", .array (ms.map messageJson))]) =
        some (.array (ms.map messageJson)) := by
    simp [Json.member?]
  simp only [Response.messageIds, Response.json, hfound, Option.elim_some, Json.items]
  rw [List.filterMap_map]
  -- each message is an object with its name as a member
  have hid : ((fun m => (Json.member? "messageId" m).bind Json.text?) ∘ messageJson) =
      fun m : Message => some m.id.text := by
    funext m
    simp [messageJson, Json.member?, Json.text?]
  rw [hid]
  exact congrFun List.filterMap_eq_map ms

/-- To answer with a failure is at most to report it. -/
theorem logs_fail (e : Error) (w : World) : w.Logs (fail e w).1 := by
  unfold fail
  dsimp only
  split
  · exact w.logs_report [] _
  · exact .refl w

/-- A request is answered without the storage, or passed on to it as one operation that it is able
to carry out and whose channel can be found. -/
inductive Server.Handled (s : Server) (w : World) : World × Job Response → Prop
  /-- The storage does not hear of the request. A request that is turned down leaves the log filter
  as it was. -/
  | atOnce {w' : World} {a : StorageAnswer}
    {conclude : StorageAnswer → World → World × Response} (backends_eq : w'.backends = w.backends)
    (clock_eq : w'.clock = w.clock)
    (logs : ∀ (a : StorageAnswer) (w : World), w.Logs (conclude a w).1)
    (filter_eq : ∀ w'', 400 ≤ (conclude a w'').2.status → w'.filter = w.filter) :
    Handled s w (w', ⟨.settled a, conclude⟩)
  /-- The storage is asked. If it succeeds, so does the request, and the messages that a poll brings
  are listed. -/
  | passed {w' : World} {r : StorageRequest}
    {conclude : StorageAnswer → World → World × Response} (aside : w.Aside w')
    (able : s.broker.storage.isAble r = true) (finds : ∀ id ∈ r.channel?, w'.Finds id)
    (logs : ∀ (a : StorageAnswer) (w : World), w.Logs (conclude a w).1)
    (full : StorageReply → Response)
    (ok : ∀ reply w, (conclude (.ok reply) w).2 = full reply)
    (status : ∀ reply, (full reply).status < 400)
    (lists : r.isPoll = true →
      ∀ reply, (full reply).messageIds = reply.delivered.map (·.id.text)) :
    Handled s w ((s.broker.storage.start [] r w').1,
      ⟨(s.broker.storage.start [] r w').2, conclude⟩)

namespace Server

variable {s : Server} {w : World}

/-- A request that gets a fixed response is answered at once. -/
theorem handled_answered (s : Server) (response : Response) (w : World) :
    s.Handled w (answered response w) :=
  .atOnce rfl rfl (fun _ w' => .refl w') fun _ _ => rfl

/-- A request that is turned down is answered at once. -/
theorem handled_refused (s : Server) (e : Error) (w : World) : s.Handled w (refused e w) :=
  have haside := (logs_fail e w).aside
  .atOnce haside.backends_eq haside.clock_eq (fun _ w' => .refl w') fun _ _ => haside.filter_eq

/-- A request is handled, be it turned down by a check or not. -/
theorem handled_checked {α : Type} {x : Except Error α} {next : α → World → World × Job Response}
    (h : ∀ a, s.Handled w (next a w)) : s.Handled w (checked x next w) := by
  unfold checked
  cases x with
  | ok a => exact h a
  | error e => exact s.handled_refused e w

/-- What a result leads to: a response, or a failure that is answered. -/
def respond {α : Type} (g : α → Response) (result : Except Error α) (w : World) :
    World × Response :=
  match result with
  | .ok a => (w, g a)
  | .error e => fail e w

/-- To turn a result into a response is at most to report a failure. -/
theorem logs_respond {α : Type} (g : α → Response) (result : Except Error α) (w : World) :
    w.Logs (respond g result w).1 := by
  cases result with
  | ok a => exact .refl w
  | error e => exact logs_fail e w

/-- Operations of the broker are answered when they have ended. -/
theorem handled_responding {r : StorageRequest} {α : Type} {f : StorageReply → α}
    {p : World × Job (Except Error α)} (h : s.broker.Asked w r f p) (g : α → Response)
    (status : ∀ reply, (g (f reply)).status < 400)
    (lists : r.isPoll = true →
      ∀ reply, (g (f reply)).messageIds = reply.delivered.map (·.id.text)) :
    s.Handled w (responding p g) := by
  cases h with
  -- the broker has declined, and the failure is answered without the storage
  | declined e aside =>
    exact .atOnce aside.backends_eq aside.clock_eq (fun _ w' => logs_fail e w')
      fun _ _ => aside.filter_eq
  | passed aside able finds logs ok =>
    refine .passed aside able finds (fun a w' => (logs a w').trans (logs_respond g _ _))
      (fun reply => g (f reply)) (fun reply w' => ?_) status lists
    dsimp only
    rw [ok]

/-- Operations of the broker other than polls have no messages to list. -/
theorem handled_responding_of_not_poll {r : StorageRequest} {α : Type} {f : StorageReply → α}
    {p : World × Job (Except Error α)} (h : s.broker.Asked w r f p) (hpoll : r.isPoll = false)
    (g : α → Response) (status : ∀ reply, (g (f reply)).status < 400) :
    s.Handled w (responding p g) :=
  handled_responding h g status fun hlists => Bool.noConfusion (hpoll.symm.trans hlists)

/-- A request to publish is handled. -/
theorem handled_publish (s : Server) (channel message : String) (r : Request) (w : World) :
    s.Handled w (s.publish channel message r w) := by
  unfold publish
  split
  · exact s.handled_answered _ w
  · refine handled_checked fun channel => handled_checked fun id => ?_
    exact handled_responding_of_not_poll (s.broker.asked_publish _ w) rfl _
      fun _ => (by decide : 200 < 400)

/-- A request to publish a message without a name is handled. -/
theorem handled_publishUnnamed (s : Server) (channel : String) (r : Request) (w : World) :
    s.Handled w (s.publishUnnamed channel r w) := by
  unfold publishUnnamed
  split
  · exact s.handled_answered _ w
  · refine handled_checked fun channel => ?_
    obtain ⟨name, hasked⟩ := s.broker.asked_publishUnnamed channel r.body w
    exact handled_responding_of_not_poll hasked rfl _ fun _ => (by decide : 201 < 400)

/-- A request to poll is handled, and its response lists the messages that the storage gives. -/
theorem handled_poll (s : Server) (channel subscriber : String) (r : Request) (w : World) :
    s.Handled w (s.poll channel subscriber r w) := by
  unfold poll
  cases PollQuery.ofQuery? (.ofRequest r) with
  | none => exact s.handled_answered _ w
  | some q =>
    refine handled_checked fun channel => handled_checked fun subscriber =>
      handled_checked fun (max, wait) => ?_
    exact handled_responding (s.broker.asked_poll _ _ _ w) _ (fun _ => (by decide : 200 < 400))
      fun _ reply => messageIds_of_messages 200 channel.text reply.delivered

/-- A request to revoke a token is handled. -/
theorem handled_revoke (s : Server) (r : Request) (w : World) : s.Handled w (s.revoke r w) := by
  unfold revoke
  cases RevokeQuery.ofQuery? (.ofRequest r) with
  | none => exact s.handled_answered _ w
  | some q =>
    refine handled_checked fun jti => handled_checked fun exp => ?_
    exact handled_responding_of_not_poll (s.broker.asked_revoke _ _ w) rfl _
      fun _ => (by decide : 200 < 400)

/-- A request that asks for a revocation is handled. -/
theorem handled_isRevoked (s : Server) (r : Request) (w : World) :
    s.Handled w (s.isRevoked r w) := by
  unfold isRevoked
  cases (Query.ofRequest r).required? "jti" with
  | none => exact s.handled_answered _ w
  | some jti =>
    refine handled_checked fun jti => ?_
    exact handled_responding_of_not_poll (s.broker.asked_isRevoked _ w) rfl _
      fun _ => (by decide : 200 < 400)

/-- The log filter is replaced only by a request that is not turned down. -/
theorem handled_setFilter (s : Server) (r : Request) (w : World) : s.Handled w (setFilter r w) := by
  unfold setFilter
  split
  · exact s.handled_answered _ w
  split
  · exact s.handled_answered _ w
  cases FilterBody.read r.body with
  | error fault => cases fault <;> exact s.handled_answered _ w
  | ok text =>
    refine handled_checked fun filter => ?_
    -- the filter is new, but the request is not turned down any more
    have haside := ((w.replaceFilter filter).logs_report [] (.filterReplaced text)).aside
    exact .atOnce haside.backends_eq haside.clock_eq (fun _ w' => .refl w')
      fun _ hfailed => absurd hfailed (by decide : ¬400 ≤ 200)

/-- Every operation that the server offers is handled. -/
theorem handled_perform (s : Server) (o : Operation) (arguments : List String) (r : Request)
    (w : World) : s.Handled w (s.perform o arguments r w) := by
  unfold perform
  split
  · exact s.handled_answered _ w
  · exact handled_responding_of_not_poll (s.broker.asked_liveness w) rfl _
      fun _ => (by decide : 200 < 400)
  · exact handled_responding_of_not_poll (s.broker.asked_readiness w) rfl _
      fun _ => (by decide : 200 < 400)
  · exact s.handled_publish _ _ r w
  · exact s.handled_publishUnnamed _ r w
  · exact s.handled_poll _ _ r w
  · exact s.handled_revoke r w
  · exact s.handled_isRevoked r w
  · exact s.handled_answered _ w
  · exact s.handled_setFilter r w
  · exact s.handled_answered _ w

/-- A request is handled whichever of the operations at its path it asks for. -/
theorem handled_choose (s : Server) (found : List (Operation × List String)) (r : Request)
    (w : World) : s.Handled w (s.choose found r w) := by
  unfold choose
  cases found.find? (·.1.method.serves r.method) with
  | none => exact s.handled_answered _ w
  | some chosen =>
    dsimp only
    cases chosen.2.mapM segmentText? with
    | none => exact s.handled_answered _ w
    | some texts => exact s.handled_perform chosen.1 texts r w

/-- The handling of a request may be preceded by something aside. -/
theorem Handled.of_aside {w' : World} {p : World × Job Response} (haside : w.Aside w')
    (h : s.Handled w' p) : s.Handled w p := by
  cases h with
  | atOnce backends_eq clock_eq logs filter_eq =>
    exact .atOnce (backends_eq.trans haside.backends_eq) (clock_eq.trans haside.clock_eq) logs
      fun w'' hfailed => (filter_eq w'' hfailed).trans haside.filter_eq
  | passed aside able finds logs full ok status lists =>
    exact .passed (haside.trans aside) able finds logs full ok status lists

/-- A request is handled, be it let through or not. -/
theorem handled_guarded {r : Request} {next : World → World × Job Response}
    (h : s.Handled w (next w)) : s.Handled w (s.guarded r next w) := by
  unfold guarded
  split
  · exact s.handled_refused _ w
  · -- who shows a wrong token is reported
    exact (s.handled_refused _ _).of_aside (w.logs_report [] _).aside
  · exact h

/-- Whatever a request is, it is answered without the storage or passed on to it. -/
theorem handled_answer (s : Server) (r : Request) (w : World) : s.Handled w (s.answer r w) := by
  unfold answer
  cases s.operationsAt r.path with
  | nil => exact s.handled_answered _ w
  | cons found others =>
    dsimp only
    split
    · exact handled_guarded (s.handled_choose _ r w)
    · exact s.handled_choose _ r w

/-- What becomes of the response to a request in the end. -/
def finish (r : Request) (response : Response) : Response :=
  if r.method = "HEAD" then response.withoutBody else response

/-- To leave out the body does not change the status. -/
theorem status_finish (r : Request) (response : Response) :
    (finish r response).status = response.status := by
  unfold finish
  split <;> rfl

/-- The job of a request, with what becomes of its response in the end. -/
def finishing (r : Request) (job : Job Response) : Job Response :=
  job.andThen fun response w => (w, finish r response)

/-- To handle a request is to answer it and to finish the response. -/
theorem handle_eq (s : Server) (r : Request) (w : World) :
    s.handle r w = ((s.answer r w).1, finishing r (s.answer r w).2) := by
  unfold handle finishing finish
  dsimp only
  split <;> rfl

end Server

end Http

end LongPoll
