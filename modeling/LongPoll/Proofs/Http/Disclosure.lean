import LongPoll.Proofs.Http.Service
import LongPoll.Proofs.Storage.Blindness
import LongPoll.Proofs.Storage.Masking
/-!
# What responses disclose

The storage of a server is a multiplexer whose operations are logged. A multiplexer masks failures,
and masked failures are all answered alike, so clients learn that a request has failed inside the
server and never how.

* `Disclosure.Agree`: two jobs agree if no client can tell which of them it is dealing with,
  whatever errors the backends give in either.
* `Disclosure.Discreet`: operations that make jobs that agree, in worlds that are alike.
* `Http.Server.discreet_handle`: to handle a request is such an operation.
* `Http.Server.Occurrence`, `Http.Server.proceed`: what can happen at a server, and what it leads
  to.
-/

namespace LongPoll

namespace Disclosure

open Http

/-- What a client gets to see of a result, if it gets to see a value as it is and a failure in a
response. -/
def shown {α : Type} (x : Except Error α) : Except Response α := x.mapError failureResponse

variable {α β γ δ : Type} {w w' : World}

/-- Results that have come about in worlds that are alike look the same. -/
structure Same (see : α → β) (p p' : World × α) : Prop where
  /-- The worlds are alike. -/
  world : p.1.Alike p'.1
  /-- The results look the same. -/
  result : see p.2 = see p'.2

/-- Jobs that lead to results that look the same, whatever errors they run into. -/
structure Agree (see : α → β) (j j' : Job α) : Prop where
  /-- The operations differ in errors only. -/
  call : j.call.veiled = j'.call.veiled
  /-- The failure of the first one is going to be masked. -/
  masked : j.call.Masked
  /-- The failure of the second one is going to be masked. -/
  masked' : j'.call.Masked
  /-- Answers that differ in errors lead to results that look the same. -/
  conclude : ∀ {a a' : StorageAnswer} {w w' : World}, veil a = veil a' → Masked a → Masked a' →
    w.Alike w' → Same see (j.conclude a w) (j'.conclude a' w')

/-- An operation that starts jobs that agree. -/
def Discreet (see : α → β) (next : World → World × Job α) : Prop :=
  ∀ ⦃w w' : World⦄, w.Alike w' → (next w).1.Alike (next w').1 ∧ Agree see (next w).2 (next w').2

/-! ### Results -/

/-- Masked failures look all the same. -/
theorem shown_eq {a a' : Except Error α} (h : veil a = veil a') (ha : Masked a)
    (ha' : Masked a') : shown a = shown a' := by
  obtain ⟨x, rfl, rfl⟩ | ⟨e, e', rfl, rfl⟩ := veil_cases h
  · rfl
  · obtain ⟨failures, rfl⟩ := ha e rfl
    obtain ⟨failures', rfl⟩ := ha' e' rfl
    -- the server is at fault, and then its response does not depend on the failures
    rfl

/-- Values that look the same are the same. -/
theorem shown_cases {x x' : Except Error α} (h : shown x = shown x') :
    (∃ a, x = .ok a ∧ x' = .ok a) ∨
    ∃ e e', x = .error e ∧ x' = .error e' ∧ failureResponse e = failureResponse e' := by
  cases x <;> cases x' <;> simp_all [shown, Except.mapError]

/-- Errors with the same response are answered alike, and what is reported about them is not
compared. -/
theorem same_fail {e e' : Error} (he : failureResponse e = failureResponse e') (h : w.Alike w') :
    Same id (fail e w) (fail e' w') :=
  ⟨h.logs (logs_fail e w) (logs_fail e' w'), he⟩

/-! ### Jobs -/

/-- A result that is there already looks like itself. -/
theorem agree_done (see : α → β) (a : α) : Agree see (.done a) (.done a) where
  call := rfl
  masked := masked_ok StorageReply.done
  masked' := masked_ok StorageReply.done
  conclude _ _ _ h := ⟨h, rfl⟩

/-- What is made of the results of jobs that agree looks the same if that is made of any results
that do. -/
theorem Agree.andThen {see : α → β} {see' : γ → δ} {j j' : Job α}
    {f f' : α → World → World × γ} (h : Agree see j j')
    (hf : ∀ {a a' w w'}, see a = see a' → w.Alike w' → Same see' (f a w) (f' a' w')) :
    Agree see' (j.andThen f) (j'.andThen f') where
  call := h.call
  masked := h.masked
  masked' := h.masked'
  conclude ha hmasked hmasked' hw :=
    have hsame := h.conclude ha hmasked hmasked' hw
    hf hsame.result hsame.world

/-- An operation stays discreet if what is made of its result is. -/
theorem Discreet.andThen {see : α → β} {see' : γ → δ} {next : World → World × Job α}
    {f : α → World → World × γ} (h : Discreet see next)
    (hf : ∀ {a a' w w'}, see a = see a' → w.Alike w' → Same see' (f a w) (f a' w')) :
    Discreet see' fun w => ((next w).1, (next w).2.andThen f) := by
  intro w w' hw
  obtain ⟨hworld, hagree⟩ := h hw
  exact ⟨hworld, hagree.andThen hf⟩

theorem discreet_done (see : α → β) (a : α) : Discreet see fun w => (w, .done a) :=
  fun _ _ h => ⟨h, agree_done see a⟩

end Disclosure

open Disclosure

/-! ### Brokers -/

namespace Broker

variable {α : Type} {b : Broker}

/-- To ask for a capability first is discreet: it is one of the storage, and so the same in both
worlds. -/
theorem discreet_requiring {c : Capability} {next : World → World × Job (Except Error α)}
    (h : b.storage.has c = true → Discreet shown next) : Discreet shown (b.requiring c next) := by
  intro w w' hw
  unfold requiring
  split
  next hhas => exact h hhas hw
  next => exact ⟨hw, agree_done shown _⟩

/-- Channels are looked up before the storage is asked. -/
theorem discreet_resolving {channel : ChannelId} {next : World → World × Job (Except Error α)}
    (h : Discreet shown next) : Discreet shown (resolving channel next) := by
  intro w w' hw
  obtain ⟨hworld, hanswer⟩ := hw.findChannel [] channel
  unfold resolving
  -- the look-ups lead to worlds that are alike and to the same answer
  generalize w.findChannel [] channel = found at hworld hanswer
  generalize w'.findChannel [] channel = found' at hworld hanswer
  obtain ⟨w₁, answer⟩ := found
  obtain ⟨w₁', answer'⟩ := found'
  obtain rfl : answer = answer' := hanswer
  cases answer with
  | ok definition => exact h hworld
  | error e => exact ⟨hworld, agree_done shown _⟩

section Multiplexed

variable {root : StorageId} {children : List (StorageId × Storage)}
  (hstorage : b.storage = .decorated root (.multiplexer children))

include hstorage

/-- To pass an operation on to the storage is discreet if the storage is able to carry it out. -/
theorem discreet_pass (r : StorageRequest) (able : b.storage.isAble r = true) :
    Discreet shown (b.pass r) := by
  intro w w' hw
  have hstarted := b.storage.blind_start [] r hw
  -- in either world the failure is one of several storages
  have hmasked : ∀ w, (b.storage.start [] r w).2.Masked := by
    rw [hstorage] at able ⊢
    exact Call.masked_start able []
  exact ⟨hstarted.world, hstarted.call, hmasked w, hmasked w',
    fun ha hmasked hmasked' hworld => ⟨hworld, shown_eq ha hmasked hmasked'⟩⟩

theorem discreet_publish (m : Message) : Discreet shown (b.publish m) :=
  discreet_requiring fun hhas => discreet_resolving (discreet_pass hstorage (.publish m) hhas)

/-- Messages that come without a name get the same one. -/
theorem discreet_publishUnnamed (channel : ChannelId) (content : ByteArray) :
    Discreet shown (b.publishUnnamed channel content) := by
  refine discreet_requiring fun hhas => discreet_resolving ?_
  intro w w' hw
  have hname : w.nameMessage.2 = w'.nameMessage.2 := congrArg MessageId.numbered hw.nextMessage_eq
  have hnamed : w.nameMessage.1.Alike w'.nameMessage.1 :=
    { hw with nextMessage_eq := congrArg (· + 1) hw.nextMessage_eq }
  -- both worlds number their messages alike, so this is a message with a name
  have hpass : Discreet shown (b.pass (.publish ⟨channel, w'.nameMessage.2, content⟩)) :=
    discreet_pass hstorage _ hhas
  dsimp only
  rw [hname]
  obtain ⟨hworld, hagree⟩ := hpass hnamed
  refine ⟨hworld, hagree.andThen fun ha hworld => ⟨hworld, ?_⟩⟩
  obtain ⟨reply, rfl, rfl⟩ | ⟨e, e', rfl, rfl, he⟩ := shown_cases ha
  · rfl
  · exact congrArg Except.error he

/-- To poll is discreet. -/
theorem discreet_poll (locator : Locator) (max : Nat) (wait : Duration) :
    Discreet shown (b.poll locator max wait) :=
  discreet_requiring fun hhas => discreet_resolving <|
    discreet_pass hstorage (.poll locator max wait) hhas

/-- To revoke a token is discreet. -/
theorem discreet_revoke (jti : Jti) (exp : Timestamp) : Discreet shown (b.revoke jti exp) := by
  refine discreet_requiring fun hhas => ?_
  have hpass : Discreet shown (b.pass (.revoke exp jti)) := discreet_pass hstorage _ hhas
  -- the revocation is reported if it has succeeded, and reports are not compared
  refine hpass.andThen fun ha hworld => ?_
  obtain ⟨reply, rfl, rfl⟩ | ⟨e, e', rfl, rfl, he⟩ := shown_cases ha
  · exact ⟨hworld.report [] _ _, rfl⟩
  · exact ⟨hworld, congrArg Except.error he⟩

theorem discreet_isRevoked (jti : Jti) : Discreet shown (b.isRevoked jti) :=
  discreet_requiring fun hhas => discreet_pass hstorage (.isRevoked jti) hhas

theorem discreet_liveness : Discreet shown b.liveness :=
  discreet_pass hstorage _ (Storage.isAble_of_needs?_none rfl _)

theorem discreet_readiness : Discreet shown b.readiness :=
  discreet_pass hstorage _ (Storage.isAble_of_needs?_none rfl _)

end Multiplexed

end Broker

namespace Http

/-! ### Requests -/

section Answers

variable {α : Type}

theorem discreet_answered (response : Response) : Discreet id (answered response) :=
  discreet_done id response

theorem discreet_refused (e : Error) : Discreet id (refused e) := fun w w' h =>
  ⟨h.logs (logs_fail e w) (logs_fail e w'), agree_done id (failureResponse e)⟩

/-- A check of what the request says is discreet. -/
theorem discreet_checked {x : Except Error α} {next : α → World → World × Job Response}
    (h : ∀ a, Discreet id (next a)) : Discreet id (checked x next) := by
  intro w w' hw
  unfold checked
  cases x with
  | ok a => exact h a hw
  | error e => exact discreet_refused e hw

/-- A result that looks the same is answered with the same response. -/
theorem discreet_responding {next : World → World × Job (Except Error α)}
    (h : Discreet shown next) (f : α → Response) :
    Discreet id fun w => responding (next w) f := by
  refine h.andThen fun ha hworld => ?_
  obtain ⟨a, rfl, rfl⟩ | ⟨e, e', rfl, rfl, he⟩ := shown_cases ha
  · exact ⟨hworld, rfl⟩
  · exact same_fail he hworld

end Answers

namespace Server

variable {s : Server}

/-- To show the log filter is discreet. -/
theorem discreet_showFilter : Discreet id showFilter := by
  intro w w' h
  refine ⟨h, ?_⟩
  unfold showFilter answered
  rw [filterJson, filterJson, h.filter_eq]
  exact agree_done id _

/-- To replace the log filter is discreet. -/
theorem discreet_setFilter (r : Request) : Discreet id (setFilter r) := by
  unfold setFilter
  split
  · exact discreet_answered _
  split
  · exact discreet_answered _
  cases FilterBody.read r.body with
  | error fault => cases fault <;> exact discreet_answered _
  | ok text =>
    refine discreet_checked fun filter => ?_
    intro w w' h
    -- worlds that are alike have changed their filter equally often
    have hreplaced : (w.replaceFilter filter).Alike (w'.replaceFilter filter) :=
      { h with filter_eq := rfl, filterEra_eq := congrArg (· + 1) h.filterEra_eq }
    exact discreet_showFilter (hreplaced.report [] _ _)

/-- To ask for a token first is discreet. -/
theorem discreet_guarded {r : Request} {next : World → World × Job Response}
    (h : Discreet id next) : Discreet id (s.guarded r next) := by
  intro w w' hw
  unfold guarded
  split
  · exact discreet_refused _ hw
  · exact discreet_refused _ (hw.report [] _ _)
  · exact h hw

section Multiplexed

variable {root : StorageId} {children : List (StorageId × Storage)}
  (hstorage : s.broker.storage = .decorated root (.multiplexer children))

include hstorage

/-- A request to publish is handled discreetly. -/
theorem discreet_publish (channel message : String) (r : Request) :
    Discreet id (s.publish channel message r) := by
  unfold publish
  split
  · exact discreet_answered _
  · exact discreet_checked fun channel => discreet_checked fun name =>
      discreet_responding (s.broker.discreet_publish hstorage _) _

/-- A request to publish a message without a name is handled discreetly. -/
theorem discreet_publishUnnamed (channel : String) (r : Request) :
    Discreet id (s.publishUnnamed channel r) := by
  unfold publishUnnamed
  split
  · exact discreet_answered _
  · exact discreet_checked fun channel =>
      discreet_responding (s.broker.discreet_publishUnnamed hstorage channel r.body) _

/-- A request to poll is handled discreetly. -/
theorem discreet_poll (channel subscriber : String) (r : Request) :
    Discreet id (s.poll channel subscriber r) := by
  unfold poll
  cases PollQuery.ofQuery? (.ofRequest r) with
  | none => exact discreet_answered _
  | some q =>
    exact discreet_checked fun channel => discreet_checked fun subscriber =>
      discreet_checked fun (max, wait) =>
        discreet_responding (s.broker.discreet_poll hstorage _ max wait) _

/-- A request to revoke a token is handled discreetly. -/
theorem discreet_revoke (r : Request) : Discreet id (s.revoke r) := by
  unfold revoke
  cases RevokeQuery.ofQuery? (.ofRequest r) with
  | none => exact discreet_answered _
  | some q =>
    exact discreet_checked fun jti => discreet_checked fun exp =>
      discreet_responding (s.broker.discreet_revoke hstorage jti exp) _

/-- A request that asks for a revocation is handled discreetly. -/
theorem discreet_isRevoked (r : Request) : Discreet id (s.isRevoked r) := by
  unfold isRevoked
  cases (Query.ofRequest r).required? "jti" with
  | none => exact discreet_answered _
  | some text =>
    exact discreet_checked fun jti =>
      discreet_responding (s.broker.discreet_isRevoked hstorage jti) _

/-- Every operation that the server offers is carried out discreetly. -/
theorem discreet_perform (o : Operation) (arguments : List String) (r : Request) :
    Discreet id (s.perform o arguments r) := by
  unfold perform
  split
  · exact discreet_answered _
  · exact discreet_responding (s.broker.discreet_liveness hstorage) _
  · exact discreet_responding (s.broker.discreet_readiness hstorage) _
  · exact discreet_publish hstorage _ _ r
  · exact discreet_publishUnnamed hstorage _ r
  · exact discreet_poll hstorage _ _ r
  · exact discreet_revoke hstorage r
  · exact discreet_isRevoked hstorage r
  · exact discreet_showFilter
  · exact discreet_setFilter r
  · exact discreet_answered _

/-- A request is handled discreetly whichever of the operations at its path it asks for. -/
theorem discreet_choose (found : List (Operation × List String)) (r : Request) :
    Discreet id (s.choose found r) := by
  unfold choose
  cases found.find? (·.1.method.serves r.method) with
  | none => exact discreet_answered _
  | some chosen =>
    dsimp only
    cases chosen.2.mapM segmentText? with
    | none => exact discreet_answered _
    | some texts => exact discreet_perform hstorage chosen.1 texts r

/-- Every path is answered discreetly. -/
theorem discreet_answer (r : Request) : Discreet id (s.answer r) := by
  unfold answer
  cases s.operationsAt r.path with
  | nil => exact discreet_answered _
  | cons found others =>
    dsimp only
    split
    · exact discreet_guarded (discreet_choose hstorage _ r)
    · exact discreet_choose hstorage _ r

/-- Whatever a request is, it is handled without a regard to errors. -/
theorem discreet_handle (r : Request) : Discreet id (s.handle r) := by
  intro w w' hw
  obtain ⟨hworld, hagree⟩ := discreet_answer hstorage r hw
  -- in the end a response may lose its body, which depends on the request only
  have hfinishing : Agree id (finishing r (s.answer r w).2) (finishing r (s.answer r w').2) := by
    apply hagree.andThen
    intro response response' w w' hresponse h
    exact ⟨h, congrArg (finish r) hresponse⟩
  rw [handle_eq, handle_eq]
  exact ⟨hworld, hfinishing⟩

end Multiplexed

end Server

end Http

/-! ### Jobs in progress -/

/-- Jobs stand the same: both are in progress and agree, or both have ended with the same result. -/
inductive JobState.Agree {α : Type} : JobState α → JobState α → Prop
  /-- They are in progress. -/
  | running {j j' : Job α} (agree : Disclosure.Agree id j j') : Agree (.running j) (.running j')
  /-- They have ended. -/
  | ended (result : α) (time : Nat) : Agree (.ended result time) (.ended result time)

section Jobs

variable {α : Type} {w w' : World} {s s' : JobState α}

/-- Jobs that agree still do after the answers of their calls, if there are any, have been taken. -/
theorem Disclosure.Agree.settle {j j' : Job α} (h : Disclosure.Agree id j j') (hw : w.Alike w') :
    (j.settle w).1.Alike (j'.settle w').1 ∧ (j.settle w).2.Agree (j'.settle w').2 := by
  unfold Job.settle
  rcases Call.answer?_cases h.call with ⟨hnone, hnone'⟩ | ⟨a, a', ha, ha', hveiled⟩
  · rw [hnone, hnone']
    exact ⟨hw, .running h⟩
  · rw [ha, ha']
    -- both calls have ended, and what they lead to looks the same
    obtain ⟨hworld, hresult⟩ := h.conclude hveiled (h.masked.answer ha) (h.masked'.answer ha') hw
    refine ⟨hworld, ?_⟩
    dsimp only
    rw [hworld.time_eq, show (j.conclude a w).2 = (j'.conclude a' w').2 from hresult]
    exact .ended _ _

namespace JobState.Agree

/-- Jobs that stand the same still do after both have been resumed. -/
theorem resume (h : s.Agree s') (hw : w.Alike w') :
    (s.resume w).1.Alike (s'.resume w').1 ∧ (s.resume w).2.Agree (s'.resume w').2 := by
  cases h with
  | ended result time => exact ⟨hw, .ended result time⟩
  | @running j j' agree =>
    have hresume := Call.alike_resume agree.call [] hw
    -- the calls go on side by side, and what becomes of their answers is as before
    have hagree : Disclosure.Agree id { j with call := (j.call.resume [] w).2 }
        { j' with call := (j'.call.resume [] w').2 } :=
      ⟨hresume.call, agree.masked.resume [] w, agree.masked'.resume [] w', agree.conclude⟩
    exact hagree.settle hresume.world

/-- Dropping jobs that stand the same leaves worlds that are alike. -/
theorem drop (h : s.Agree s') (hw : w.Alike w') : (s.drop w).Alike (s'.drop w') := by
  cases h with
  | ended result time => exact hw
  | running agree => exact Call.alike_drop agree.call hw

/-- Jobs that stand the same have the same result. -/
theorem result?_eq (h : s.Agree s') : s.result? = s'.result? := by
  cases h with
  | running agree => rfl
  | ended result time => rfl

/-- Jobs that stand the same can go on at the same moments. -/
theorem canResume_eq (h : s.Agree s') (hw : w.Alike w') : s.canResume w = s'.canResume w' := by
  cases h with
  | running agree => exact Call.canResume_eq agree.call hw
  | ended result time => rfl

/-- Jobs that stand the same wait for the same moments. -/
theorem timers_eq (h : s.Agree s') : s.timers = s'.timers := by
  cases h with
  | running agree => exact Call.timers_eq agree.call
  | ended result time => rfl

end JobState.Agree

end Jobs

/-! ### Servers in service -/

namespace Http.Server

/-- What can happen at a server with requests in progress. -/
inductive Occurrence where
  /-- A request comes in. -/
  | receive (r : Request)
  /-- One of the jobs runs until it waits or ends. -/
  | resume (n : Nat)
  /-- One of the jobs is dropped. -/
  | drop (n : Nat)
  /-- Time passes. -/
  | pass (clock : Timestamp) (time : Nat)
  /-- Garbage is collected at a backend if it is time to, until there is none left or the time is
  over. -/
  | collect (slot : Nat) (pace : Pace)
  /-- The directory of channels is exchanged. -/
  | exchange (directory : Directory)

/-- What something that happens makes of the world and the jobs. -/
def happen (s : Server) (p : World × List (JobState Response)) :
    Occurrence → World × List (JobState Response)
  | .receive r => ((s.receive r p.1).1, p.2 ++ [(s.receive r p.1).2])
  | .resume n =>
    match p.2[n]? with
    | some j => ((j.resume p.1).1, p.2.set n (j.resume p.1).2)
    | none => p
  | .drop n =>
    match p.2[n]? with
    | some j => (j.drop p.1, p.2.eraseIdx n)
    | none => p
  | .pass clock time => ({ p.1 with clock := clock, time := time }, p.2)
  | .collect slot pace => (p.1.collectIfDue slot pace, p.2)
  | .exchange directory => ({ p.1 with directory := directory }, p.2)

/-- What all of it together makes of a world without jobs. -/
def proceed (s : Server) (occurrences : List Occurrence) (w : World) :
    World × List (JobState Response) := occurrences.foldl s.happen (w, [])

/-- Worlds are alike, and jobs stand the same in them. -/
structure InStep (p p' : World × List (JobState Response)) : Prop where
  /-- The worlds are alike. -/
  world : p.1.Alike p'.1
  /-- The jobs stand the same. -/
  jobs : List.Forall₂ JobState.Agree p.2 p'.2

section Lists

variable {ι : Type} {R : ι → ι → Prop} {l l' : List ι}

/-- Related lists have elements at the same places, and these are related. -/
theorem getElem?_cases (h : List.Forall₂ R l l') (n : Nat) : (l[n]? = none ∧ l'[n]? = none) ∨
    ∃ a a', l[n]? = some a ∧ l'[n]? = some a' ∧ R a a' := by
  induction h generalizing n with
  | nil => exact Or.inl ⟨rfl, rfl⟩
  | @cons a a' l l' ha h ih =>
    cases n with
    | zero => exact Or.inr ⟨a, a', rfl, rfl, ha⟩
    | succ n => exact ih n

/-- Related lists stay related if related elements are put at one place. -/
theorem forall₂_set (h : List.Forall₂ R l l') (n : Nat) {a a' : ι} (ha : R a a') :
    List.Forall₂ R (l.set n a) (l'.set n a') := by
  rw [List.set_eq_take_append_cons_drop, List.set_eq_take_append_cons_drop, h.length_eq]
  split
  · exact List.rel_append (List.forall₂_take n h) (.cons ha (List.forall₂_drop (n + 1) h))
  · exact h

/-- Related lists stay related if one place is taken out of both. -/
theorem forall₂_eraseIdx (h : List.Forall₂ R l l') (n : Nat) :
    List.Forall₂ R (l.eraseIdx n) (l'.eraseIdx n) := by
  rw [List.eraseIdx_eq_take_drop_succ, List.eraseIdx_eq_take_drop_succ]
  exact List.rel_append (List.forall₂_take n h) (List.forall₂_drop (n + 1) h)

end Lists

section Multiplexed

variable {s : Server} {root : StorageId} {children : List (StorageId × Storage)}
  {w w' : World} (hstorage : s.broker.storage = .decorated root (.multiplexer children))

include hstorage

/-- A request that comes in is received alike. -/
theorem agree_receive (r : Request) (h : w.Alike w') :
    (s.receive r w).1.Alike (s.receive r w').1 ∧ (s.receive r w).2.Agree (s.receive r w').2 := by
  obtain ⟨hworld, hagree⟩ := discreet_handle hstorage r h
  exact hagree.settle hworld

/-- Whatever happens, worlds and jobs stay in step. -/
theorem InStep.happen {p p' : World × List (JobState Response)} (h : InStep p p')
    (e : Occurrence) : InStep (s.happen p e) (s.happen p' e) := by
  obtain ⟨hworld, hjobs⟩ := h
  cases e with
  | receive r =>
    obtain ⟨hreceived, hagree⟩ := agree_receive hstorage r hworld
    exact ⟨hreceived, List.rel_append hjobs (.cons hagree .nil)⟩
  | resume n =>
    rcases getElem?_cases hjobs n with ⟨hnone, hnone'⟩ | ⟨j, j', hj, hj', hagree⟩
    -- there is no such job in either of them
    · simp only [Server.happen, hnone, hnone']
      exact ⟨hworld, hjobs⟩
    · simp only [Server.happen, hj, hj']
      obtain ⟨hresumed, hagree⟩ := hagree.resume hworld
      exact ⟨hresumed, forall₂_set hjobs n hagree⟩
  | drop n =>
    rcases getElem?_cases hjobs n with ⟨hnone, hnone'⟩ | ⟨j, j', hj, hj', hagree⟩
    · simp only [Server.happen, hnone, hnone']
      exact ⟨hworld, hjobs⟩
    · simp only [Server.happen, hj, hj']
      exact ⟨hagree.drop hworld, forall₂_eraseIdx hjobs n⟩
  | pass clock time => exact ⟨{ hworld with clock_eq := rfl, time_eq := rfl }, hjobs⟩
  | collect slot pace => exact ⟨hworld.collectIfDue slot pace, hjobs⟩
  | exchange directory => exact ⟨{ hworld with directory_eq := rfl }, hjobs⟩

/-- Worlds that are alike are in step after any number of occurrences. -/
theorem inStep_proceed (h : w.Alike w') (occurrences : List Occurrence) :
    InStep (s.proceed occurrences w) (s.proceed occurrences w') := by
  suffices hfold : ∀ {p p'}, InStep p p' →
      InStep (occurrences.foldl s.happen p) (occurrences.foldl s.happen p') from hfold ⟨h, .nil⟩
  intro p p' hp
  induction occurrences generalizing p p' with
  | nil => exact hp
  | cons e occurrences ih => exact ih (hp.happen hstorage e)

end Multiplexed

end Http.Server

open Http Http.Server in
/-- Behind a multiplexer whose operations are logged, errors of backends do not show: if they are
all that is different, then whatever happens, the same requests are answered with the same responses
at the same times, and the same ones are still in progress, able to go on and waiting for the same
moments. -/
theorem responses_hide_errors {s : Server} {root : StorageId}
    {children : List (StorageId × Storage)}
    (hstorage : s.broker.storage = .decorated root (.multiplexer children)) {w w' : World}
    (h : w.Alike w') (occurrences : List Occurrence) :
    (s.proceed occurrences w).2.map JobState.result? =
        (s.proceed occurrences w').2.map JobState.result? ∧
      (s.proceed occurrences w).2.map (JobState.canResume (s.proceed occurrences w).1) =
        (s.proceed occurrences w').2.map (JobState.canResume (s.proceed occurrences w').1) ∧
      (s.proceed occurrences w).2.map JobState.timers =
        (s.proceed occurrences w').2.map JobState.timers := by
  obtain ⟨hworld, hjobs⟩ := inStep_proceed hstorage h occurrences
  -- what is the same for any two jobs in step is the same for the lists of them
  have hmap : ∀ {κ : Type} {f g : JobState Response → κ},
      (∀ ⦃j j' : JobState Response⦄, j.Agree j' → f j = g j') →
      (s.proceed occurrences w).2.map f = (s.proceed occurrences w').2.map g := by
    intro κ f g hfg
    have hrel := List.rel_map hfg hjobs
    rwa [List.forall₂_eq_eq_eq] at hrel
  refine ⟨?_, ?_, ?_⟩
  · exact hmap fun j j' hagree => hagree.result?_eq
  · exact hmap fun j j' hagree => hagree.canResume_eq hworld
  · exact hmap fun j j' hagree => hagree.timers_eq

namespace Sample

/-- A storage that fails whatever it is asked for the first time, publishes only after a while. -/
def broken (e : Error) : ScriptedStorage :=
  ⟨⟨[⟨some 5, .error e⟩], [⟨none, .error e⟩], [⟨none, .error e⟩], [⟨none, .error e⟩],
    [⟨none, .error e⟩], [⟨none, .error e⟩], [⟨none, .error e⟩]⟩, []⟩

/-- A storage that does as it is told. -/
def obedient : ScriptedStorage := ⟨⟨[], [], [], [], [], [], []⟩, []⟩

/-- A server before two storages. -/
def outpost : Http.Server :=
  ⟨⟨.decorated ⟨"root"⟩ (.multiplexer [(⟨"far"⟩, .backend ⟨0, "scripted", 0, true, true⟩),
    (⟨"near"⟩, .backend ⟨1, "scripted", 0, true, true⟩)])⟩, [], .seconds 10, ""⟩

/-- A world in which the first of the storages fails. -/
def outage (e : Error) : World :=
  { freshWorld with backends := [.scripted (broken e), .scripted obedient] }

/-- A message is published, another request polls for it in the meantime, and a third one asks how
the storages are. -/
def rush : List Http.Server.Occurrence :=
  [.receive putGreeting, .receive getMessages,
    .receive ⟨"GET", "/probe/readiness", none, [], .empty⟩, .pass (.clamp 0) 5, .resume 0]

/-- A failure of a storage that says that a client has asked for something wrong. -/
def treacherous : Error := .invalidChannel "vault"

/-- A failure of a storage for reasons of its own. -/
def honest : Error := .aggregate [(⟨"disk"⟩, .storage "out of space")]

theorem alike_outage (e e' : Error) : (outage e).Alike (outage e') :=
  { World.Alike.refl (outage e) with backends_eq := rfl }

end Sample

open Sample in
/-- One storage fails with a fault of the client in one world and with its own in the other, and the
clients are answered alike. -/
theorem responses_hide_errors_outage :
    (outage treacherous).Alike (outage honest) ∧
      (outpost.proceed rush (outage treacherous)).2.map JobState.result? =
        (outpost.proceed rush (outage honest)).2.map JobState.result? ∧
      ((outpost.proceed rush (outage treacherous)).2.map fun j =>
          j.result?.map fun x => (x.1.status, x.2)) =
        [some (500, 5), some (500, 0), some (500, 0)] := by
  have hsame := responses_hide_errors (s := outpost) rfl (alike_outage treacherous honest) rush
  exact ⟨alike_outage treacherous honest, hsame.1, by decide +kernel⟩

/-- Without the multiplexer, the failure of the storage would pass for a fault of the client. -/
example : ((Http.Server.proceed
    { Sample.outpost with broker := ⟨.backend ⟨0, "scripted", 0, true, true⟩⟩ }
    [.receive Sample.getMessages] (Sample.outage Sample.treacherous)).2.map fun j =>
      j.result?.map fun x => (x.1.status, x.2)) = [some (400, 0)] := by
  decide +kernel

end LongPoll
