import LongPoll.Proofs.Storage.Configured
/-!
# Storages in operation

A configured storage is in operation from when it was configured (`Storage.Operated`). Operations
start, calls run on or are dropped, time passes on both clocks, and garbage is collected at one
engine or another. Of all that, a history keeps what bears on revocations: which tokens were
revoked, and which passes were complete.

* `World.Revises f w w'`: memory engines stay where they are and keep their settings, and `f` tells
  what becomes of the revocations at each place.
* `revises_start_backend`: a backend that is asked for something enters a revocation, or leaves all
  of them alone.
* `revocationsAt slot history`: the revocations that follow from a history.
* `Storage.Operated.operates`: in operation, every engine has the settings of its entry, and those
  that keep revocations have what follows from the history.
-/

namespace LongPoll

/-! ### Polls and messages are no matter of revocations -/

namespace Memory

variable (m : Memory) (now : Timestamp) (time : Nat)

/-- Revocations are no matter of bells. -/
@[simp]
theorem revoked_ringAll (bells : List BellId) : (m.ringAll bells).revoked = m.revoked := by
  unfold ringAll
  induction bells generalizing m with
  | nil => rfl
  | cons b bells ih =>
    rw [List.foldl_cons, ih]
    rfl

/-- To publish changes no revocation. -/
@[simp]
theorem revoked_publish (channel : Channel) (message : Message) :
    (m.publish now channel message).1.revoked = m.revoked := by
  unfold publish
  dsimp only
  split
  · rfl
  · simp [withChannel]

@[simp]
theorem revoked_look (o : PollOrder) : (m.look now time o 1).memory.revoked = m.revoked := by
  rcases m.look_cases now time o with ⟨-, hmemory, -⟩ | ⟨-, -, hmemory, -⟩ | ⟨-, -, hmemory, -⟩ <;>
    rw [hmemory] <;> rfl

/-- A poll that runs on changes no revocation. -/
@[simp]
theorem revoked_resumePoll (p : WaitingPoll) :
    (m.resumePoll now time p).memory.revoked = m.revoked := by
  unfold resumePoll
  split
  · exact revoked_look _ now time p.order
  · split
    · rw [(lastLook_frame _ now p.order).1]
      rfl
    · rfl

end Memory

/-- What becomes of the revocations at an engine that is asked for something. -/
def StorageRequest.revise (t : Table Jti Timestamp) : StorageRequest → Table Jti Timestamp
  | revoke exp jti => t.insert jti exp
  | _ => t

/-- Whether a request is to revoke a token. -/
def StorageRequest.isRevoke : StorageRequest → Bool
  | revoke .. => true
  | _ => false

/-- Requests that are not to revoke a token leave revocations alone. -/
theorem StorageRequest.revise_of_not_isRevoke {r : StorageRequest} (h : r.isRevoke = false)
    (t : Table Jti Timestamp) : r.revise t = t := by
  cases r with
  | revoke exp jti => exact Bool.noConfusion h
  | _ => rfl

namespace World

/-- Memory engines stay where they are and keep their settings, and this becomes of the revocations
at each place. -/
def Revises (f : Nat → Table Jti Timestamp → Table Jti Timestamp) (w w' : World) : Prop :=
  ∀ slot b, w.memory? slot = some b → ∃ b', w'.memory? slot = some b' ∧ b'.options = b.options ∧
    b'.memory.revoked = f slot b.memory.revoked

/-- Memory engines stay where they are and keep their settings and revocations. -/
abbrev KeepsRevocations (w w' : World) : Prop := Revises (fun _ t => t) w w'

variable {w w' w'' : World} {slot : Nat} {f g : Nat → Table Jti Timestamp → Table Jti Timestamp}

/-- What becomes of revocations in two steps is what the second makes of the first. -/
theorem Revises.trans (h : Revises f w w') (h' : Revises g w' w'') :
    Revises (fun slot t => g slot (f slot t)) w w'' := by
  intro slot b hb
  obtain ⟨b', hb', hoptions, hrevoked⟩ := h slot b hb
  obtain ⟨b'', hb'', hoptions', hrevoked'⟩ := h' slot b' hb'
  exact ⟨b'', hb'', hoptions'.trans hoptions, by rw [hrevoked', hrevoked]⟩

/-- Where the backends are the same, so are the revocations. -/
theorem keepsRevocations_of_eq (h : w'.backends = w.backends) : w.KeepsRevocations w' := by
  intro slot b hb
  refine ⟨b, ?_, rfl, rfl⟩
  rw [memory?, backend?, h]
  exact hb

theorem keepsRevocations_report (w : World) (spans : List LogSpan) (n : Notice) :
    w.KeepsRevocations (w.report spans n) :=
  keepsRevocations_of_eq (w.logs_report spans n).backends_eq

/-- One engine is replaced by another one with the same settings. -/
theorem revises_setBackend {b b' : MemoryBackend} (hb : w.memory? slot = some b)
    (hoptions : b'.options = b.options) (hrevoked : b'.memory.revoked = f slot b.memory.revoked)
    (hothers : ∀ slot', slot ≠ slot' → ∀ t, f slot' t = t) :
    Revises f w (w.setBackend slot (.memory b')) := by
  intro slot' b'' hb''
  -- at other places nothing changes
  by_cases hslot : slot = slot'
  · subst hslot
    rw [hb] at hb''
    obtain rfl := Option.some.inj hb''
    exact ⟨b', memory?_of_backend? (backend?_setBackend_self (backend?_of_memory? hb)), hoptions,
      hrevoked⟩
  · refine ⟨b'', ?_, rfl, (hothers slot' hslot _).symm⟩
    rw [memory?, backend?_setBackend_of_ne hslot]
    exact hb''

/-- What an engine holds is replaced, and with it the revocations. -/
theorem revises_setMemory {b : MemoryBackend} (hb : w.memory? slot = some b) {m : Memory}
    (hrevoked : m.revoked = f slot b.memory.revoked)
    (hothers : ∀ slot', slot ≠ slot' → ∀ t, f slot' t = t) :
    Revises f w (w.setMemory slot m) := by
  rw [setMemory_eq hb]
  exact revises_setBackend hb rfl hrevoked hothers

theorem keepsRevocations_setMemory {b : MemoryBackend} (hb : w.memory? slot = some b) {m : Memory}
    (hrevoked : m.revoked = b.memory.revoked) : w.KeepsRevocations (w.setMemory slot m) :=
  revises_setMemory hb hrevoked fun _ _ _ => rfl

/-- A step of a poll that leaves the revocations of its engine alone leaves all alone. -/
theorem keepsRevocations_polled (spans : List LogSpan) {b : MemoryBackend} {s : PollStep}
    (hb : w.memory? slot = some b) (hrevoked : s.memory.revoked = b.memory.revoked) :
    w.KeepsRevocations (polled spans slot s w).1 := by
  obtain ⟨events, heq⟩ := polled_eq spans slot s w
  rw [heq]
  exact (keepsRevocations_setMemory hb hrevoked).trans (keepsRevocations_of_eq rfl)

end World

/-- What becomes of the revocations when one backend is asked for something. -/
def StorageRequest.reviseAt (r : StorageRequest) (slot : Nat) :
    Nat → Table Jti Timestamp → Table Jti Timestamp :=
  fun slot' t => if slot = slot' then r.revise t else t

section Backend

variable {slot : Nat} {w : World}

/-- The backend that is asked does what the request says. -/
theorem StorageRequest.reviseAt_self (r : StorageRequest) (slot : Nat) (t : Table Jti Timestamp) :
    r.reviseAt slot slot t = r.revise t := if_pos rfl

theorem StorageRequest.reviseAt_of_ne (r : StorageRequest) {slot slot' : Nat} (h : slot ≠ slot')
    (t : Table Jti Timestamp) : r.reviseAt slot slot' t = t := if_neg h

/-- Requests that are not to revoke a token leave all revocations alone. -/
theorem StorageRequest.reviseAt_of_not_isRevoke {r : StorageRequest} (h : r.isRevoke = false)
    (slot : Nat) : r.reviseAt slot = fun _ t => t := by
  funext slot' t
  rw [reviseAt, revise_of_not_isRevoke h, ite_self]

/-- A memory engine enters a revocation, and no other request changes any. -/
theorem revises_startMemory {b : MemoryBackend} (hb : w.memory? slot = some b)
    (spans : List LogSpan) (r : StorageRequest) :
    World.Revises (r.reviseAt slot) w (startMemory slot b spans r w).1 := by
  -- to revoke enters the token here, and all other requests leave the revocations alone
  cases r with
  | revoke exp jti =>
    have hset : World.Revises (StorageRequest.reviseAt (.revoke exp jti) slot) w
        (w.setMemory slot (b.memory.revoke exp jti)) :=
      World.revises_setMemory hb
        (StorageRequest.reviseAt_self (.revoke exp jti) slot b.memory.revoked).symm
        fun slot' hne t => StorageRequest.reviseAt_of_ne _ hne t
    exact hset.trans (World.keepsRevocations_report _ _ _)
  | publish message =>
    rw [StorageRequest.reviseAt_of_not_isRevoke rfl, startMemory]
    have hbackends := w.backends_findChannel spans message.channel
    generalize w.findChannel spans message.channel = found at hbackends
    obtain ⟨w', answer⟩ := found
    -- the channel is looked up first, which concerns no backend
    have hfind : w.KeepsRevocations w' := World.keepsRevocations_of_eq hbackends
    cases answer with
    | error e => exact hfind
    | ok channel =>
      have hb' : w'.memory? slot = some b := by
        rw [World.memory?, World.backend?, hbackends]
        exact hb
      have hset := World.keepsRevocations_setMemory hb'
        (b.memory.revoked_publish w'.clock channel message)
      exact (hfind.trans hset).trans (World.keepsRevocations_report _ _ _)
  | poll locator max wait =>
    rw [StorageRequest.reviseAt_of_not_isRevoke rfl]
    cases hfind : (w.directory.find w.clock locator.channel).answer with
    | error e =>
      obtain ⟨events, heq⟩ := startMemory_poll_of_error slot b spans hfind max wait
      rw [heq]
      exact World.keepsRevocations_of_eq rfl
    | ok channel =>
      obtain ⟨events, heq⟩ := startMemory_poll_of_ok slot b spans hfind max wait
      rw [heq]
      exact (World.keepsRevocations_setMemory hb (b.memory.revoked_look ..)).trans
        (World.keepsRevocations_of_eq rfl)
  | shutdown =>
    rw [StorageRequest.reviseAt_of_not_isRevoke rfl]
    -- shutting down ends the passes, and no more
    have hset : w.KeepsRevocations (w.setBackend slot (.memory { b with nextCollect := none })) :=
      World.revises_setBackend hb rfl rfl fun _ _ _ => rfl
    exact hset.trans (World.keepsRevocations_report _ _ _)
  | _ =>
    rw [StorageRequest.reviseAt_of_not_isRevoke rfl]
    exact World.keepsRevocations_of_eq rfl

/-- A scripted storage changes the revocations of no engine. -/
theorem revises_startScripted {s : ScriptedStorage} (hs : w.backend? slot = some (.scripted s))
    (spans : List LogSpan) (r : StorageRequest) :
    World.Revises (r.reviseAt slot) w (startScripted slot s spans r w).1 := by
  have hset : World.Revises (r.reviseAt slot) w
      (w.setBackend slot (.scripted (s.record r))) := by
    intro slot' b hb
    -- no engine stands where a scripted storage does
    have hne : slot ≠ slot' := fun heq => by
      rw [heq, World.backend?_of_memory? hb] at hs
      exact absurd hs nofun
    refine ⟨b, ?_, rfl, (r.reviseAt_of_ne hne _).symm⟩
    rw [World.memory?, World.backend?_setBackend_of_ne hne]
    exact hb
  unfold startScripted
  dsimp only
  split
  next => split <;> exact hset
  next => exact hset

/-- A backend that is asked to revoke a token takes note of that, and no other request changes any
revocations. -/
theorem revises_start_backend (b : Backend) (spans : List LogSpan) (r : StorageRequest)
    (w : World) : World.Revises (r.reviseAt b.slot) w (b.start spans r w).1 := by
  unfold Backend.start
  split
  next mb hmb => exact revises_startMemory (World.memory?_of_backend? hmb) spans r
  next script hscript => exact revises_startScripted hscript spans r
  next hnone =>
    intro slot b' hb'
    -- nothing stands at this place, so the engine is at another one
    have hne : b.slot ≠ slot := fun heq => by
      rw [heq, World.backend?_of_memory? hb'] at hnone
      exact absurd hnone nofun
    exact ⟨b', hb', rfl, (r.reviseAt_of_ne hne _).symm⟩

end Backend

/-- In all operations but revocations, the engines keep their revocations. -/
theorem guarantee_keepsRevocations :
    GuaranteeOn (fun r => r.isRevoke = false) World.KeepsRevocations where
  refl _ := World.keepsRevocations_of_eq rfl
  trans := World.Revises.trans
  report := World.keepsRevocations_report
  polls _ _ _ := rfl
  backend b spans r w hr := by
    -- what is no revocation revises nothing
    have hrevises := revises_start_backend b spans r w
    rwa [StorageRequest.reviseAt_of_not_isRevoke hr] at hrevises
  polling slot poll spans w := by
    rw [Call.resume]
    split
    next b hb => exact World.keepsRevocations_polled spans hb (b.memory.revoked_resumePoll ..)
    next => exact World.keepsRevocations_of_eq rfl
  dropped slot poll w := by
    rw [Call.drop]
    split
    next b hb => exact World.keepsRevocations_setMemory hb rfl
    next => exact World.keepsRevocations_of_eq rfl

/-- In a round of revocations, every backend that is called takes note. -/
theorem Round.revises {exp : Timestamp} {jti : Jti} {calls : List LeafCall} {w w' : World}
    (h : Round (.revoke exp jti) calls w w') :
    World.Revises (fun slot t =>
      if slot ∈ calls.map (·.leaf.backend.slot) then t.insert jti exp else t) w w' := by
  -- the backends are called one by one, and each step revises one place
  induction h with
  | done hlogs =>
    simp only [List.map_nil, List.not_mem_nil, if_false]
    exact World.keepsRevocations_of_eq hlogs.backends_eq
  | @call x rest w w₁ w' hlogs spans hanswer hrest ih =>
    -- between two calls there are reports at most
    have hlogged : w.KeepsRevocations w₁ := World.keepsRevocations_of_eq hlogs.backends_eq
    have hfirst := hlogged.trans (revises_start_backend x.leaf.backend spans (.revoke exp jti) w₁)
    convert hfirst.trans ih using 3 with slot t
    -- to take note twice is no more than to do it once
    simp only [List.map_cons, List.mem_cons, StorageRequest.reviseAt, StorageRequest.revise,
      eq_comm (a := slot)]
    by_cases hhere : x.leaf.backend.slot = slot <;> simp [hhere, Table.insert_insert]

/-! ### Histories -/

/-- Something that bears on revocations. -/
inductive Episode where
  /-- A token was revoked. -/
  | revoked (jti : Jti) (exp : Timestamp)
  /-- A pass over the engine at a place was complete. The wall clock showed this moment. -/
  | collected (slot : Nat) (clock : Timestamp)
  deriving DecidableEq

/-- What becomes of the revocations at the engine of a place in an episode. -/
def Episode.revise (slot : Nat) (t : Table Jti Timestamp) : Episode → Table Jti Timestamp
  | revoked jti exp => t.insert jti exp
  | collected slot' clock =>
    if slot' = slot then t.filter fun _ exp => decide (clock ≤ exp) else t

/-- The revocations at the engine of a place after a history, the last episode of which comes
first. -/
def revocationsAt (slot : Nat) (history : List Episode) : Table Jti Timestamp :=
  history.foldr (fun e t => e.revise slot t) ∅

@[simp]
theorem revocationsAt_cons (slot : Nat) (e : Episode) (history : List Episode) :
    revocationsAt slot (e :: history) = e.revise slot (revocationsAt slot history) := rfl

/-- What a request leaves behind in a history. -/
def StorageRequest.episodes : StorageRequest → List Episode
  | revoke exp jti => [.revoked jti exp]
  | _ => []

/-- Only to revoke a token leaves something behind in a history. -/
theorem StorageRequest.episodes_of_not_isRevoke {r : StorageRequest} (h : r.isRevoke = false) :
    r.episodes = [] := by
  cases r with
  | revoke exp jti => exact Bool.noConfusion h
  | _ => rfl

namespace World

/-- What a pass leaves behind in a history. One that is cut short leaves nothing behind. -/
def passEpisodes (w : World) (slot : Nat) (timeout : Duration) (pace : Pace := .unhurried) :
    List Episode :=
  match (w.collect slot timeout pace).2 with
  | .done _ => [.collected slot w.clock]
  | _ => []

/-- The time allowed for the pass that is due at a place, if one is. -/
def due? (w : World) (slot : Nat) : Option Duration :=
  (w.memory? slot).bind fun b =>
    (b.nextCollect.filter (· ≤ w.time)).map fun _ => b.options.collectTimeout

/-- What the pass that is due at a place, if one is, leaves behind in a history. -/
def dueEpisodes (w : World) (slot : Nat) (pace : Pace := .unhurried) : List Episode :=
  match w.due? slot with
  | some timeout => w.passEpisodes slot timeout pace
  | none => []

variable {w : World} {slot : Nat}

/-- All that can become of a pass over an engine: it is refused, it is complete, or the time is over
before its end and the revocations are as they were. -/
theorem collect_cases {b : MemoryBackend} (hb : w.memory? slot = some b) (timeout : Duration)
    (pace : Pace) :
    (∃ refusal, Memory.collectRefusal? pace timeout = some refusal ∧
      w.collect slot timeout pace = (w, refusal)) ∨
    (Memory.collectRefusal? pace timeout = none ∧ ∃ (w' : World) (m : Memory)
      (result : CollectResult), w'.backends = w.backends ∧
      w.collect slot timeout pace = (w'.setMemory slot m, result) ∧
      ((∃ newest, (m, result) = ((b.memory.collect w.clock newest).1,
          .done (b.memory.collect w.clock newest).2)) ∨
        result = .late ∧ m.revoked = b.memory.revoked)) := by
  cases hrefusal : Memory.collectRefusal? pace timeout with
  | some refusal => exact Or.inl ⟨refusal, rfl, collect_of_refused hb hrefusal⟩
  | none =>
    obtain ⟨ids, heq⟩ := collect_of_begun hb hrefusal
    refine Or.inr ⟨rfl, _, _, _, w.backends_findChannels ids, heq, ?_⟩
    -- what is kept of a pass depends on where the time was over
    rcases b.memory.collectWithin_cases pace w.clock (w.answers (pace.route b.memory)) with
      hdone | ⟨hlate, hrevoked⟩
    · rw [hdone]
      exact Or.inl ⟨_, rfl⟩
    · exact Or.inr ⟨hlate, hrevoked⟩

/-- A pass enters into the history what it does to revocations. -/
theorem revises_collect (w : World) (slot : Nat) (timeout : Duration) (pace : Pace) :
    Revises (fun slot' t =>
      (w.passEpisodes slot timeout pace).foldr (fun e t => e.revise slot' t) t) w
      (w.collect slot timeout pace).1 := by
  cases hb : w.memory? slot with
  | none =>
    have hcollect : w.collect slot timeout pace = (w, .failed (.internal "no engine")) := by
      rw [collect, hb]
    rw [passEpisodes, hcollect]
    exact keepsRevocations_of_eq rfl
  | some b =>
    rcases collect_cases hb timeout pace with
      ⟨refusal, hrefusal, heq⟩ | ⟨-, w', m, result, hw', heq, hpass⟩
    · -- nothing has been done
      have hnone : w.passEpisodes slot timeout pace = [] := by
        rw [passEpisodes, heq]
        rcases Memory.collectRefusal?_cases hrefusal with rfl | ⟨text, rfl⟩ <;> rfl
      rw [hnone, heq]
      exact keepsRevocations_of_eq rfl
    -- the lookups have left the engine as it was
    · have hb' : w'.memory? slot = some b := by
        rw [memory?, backend?, hw']
        exact hb
      rcases hpass with ⟨newest, hdone⟩ | ⟨rfl, hrevoked⟩
      · obtain ⟨rfl, rfl⟩ := Prod.mk.inj hdone
        -- a complete pass is entered
        have hpass : w.passEpisodes slot timeout pace = [.collected slot w.clock] := by
          rw [passEpisodes, heq]
        rw [hpass, heq]
        refine (keepsRevocations_of_eq hw').trans (revises_setMemory hb' ?_ fun slot' hne t => ?_)
        · simp only [List.foldr_cons, List.foldr_nil, Episode.revise, if_true]
          rfl
        · simp only [List.foldr_cons, List.foldr_nil, Episode.revise, if_neg hne]
      · -- the revocations come last in a pass, and it has not come to them
        have hnone : w.passEpisodes slot timeout pace = [] := by
          rw [passEpisodes, heq]
          rfl
        rw [hnone, heq]
        exact (keepsRevocations_of_eq hw').trans
          (revises_setMemory hb' hrevoked fun slot' hne t => rfl)

/-- Nothing happens as long as no pass is due. -/
theorem collectIfDue_of_not_due (h : w.due? slot = none) (pace : Pace) :
    w.collectIfDue slot pace = w := by
  unfold collectIfDue
  unfold due? at h
  cases hb : w.memory? slot with
  | none => rfl
  | some b =>
    cases hnext : b.nextCollect with
    | none => simp [hnext]
    | some due =>
      have hearly : ¬due ≤ w.time := by
        simp [hb, hnext] at h
        omega
      simp [hnext, hearly]

/-- After a pass that is due, it is reported and the next one is planned. -/
theorem collectIfDue_of_due {timeout : Duration} (h : w.due? slot = some timeout) (pace : Pace) :
    ∃ events next, w.collectIfDue slot pace =
      match (w.collect slot timeout pace).1.memory? slot with
      | some b => { (w.collect slot timeout pace).1.setBackend slot
          (.memory { b with nextCollect := some next }) with events := events }
      | none => { (w.collect slot timeout pace).1 with events := events } := by
  unfold due? at h
  obtain ⟨b, hb, hplan⟩ := Option.bind_eq_some_iff.mp h
  obtain ⟨due, hdue, rfl⟩ := Option.map_eq_some_iff.mp hplan
  -- a pass is planned for a time that has come
  obtain ⟨hnext, hle⟩ := Option.filter_eq_some_iff.mp hdue
  unfold collectIfDue
  simp only [hb, hnext, of_decide_eq_true hle, if_true]
  obtain ⟨events, hreport⟩ := (w.collect slot b.options.collectTimeout pace).1.report_eq []
    (collectNotice (w.collect slot b.options.collectTimeout pace).2)
  rw [hreport]
  have hmemory :
      memory? { (w.collect slot b.options.collectTimeout pace).1 with events := events } slot =
        (w.collect slot b.options.collectTimeout pace).1.memory? slot := rfl
  rw [hmemory]
  cases (w.collect slot b.options.collectTimeout pace).1.memory? slot with
  | none => exact ⟨events, 0, rfl⟩
  | some b' => exact ⟨events, _, rfl⟩

/-- A pass that is due, if one is, enters into the history what it does to revocations. -/
theorem revises_collectIfDue (w : World) (slot : Nat) (pace : Pace) :
    Revises (fun slot' t => (w.dueEpisodes slot pace).foldr (fun e t => e.revise slot' t) t) w
      (w.collectIfDue slot pace) := by
  unfold dueEpisodes
  -- only a pass that is due takes place
  cases hdue : w.due? slot with
  | none =>
    rw [collectIfDue_of_not_due hdue pace]
    exact keepsRevocations_of_eq rfl
  | some timeout =>
    have hpass := w.revises_collect slot timeout pace
    obtain ⟨events, next, heq⟩ := collectIfDue_of_due hdue pace
    rw [heq]
    -- to plan the next pass is no matter of revocations
    cases hb : (w.collect slot timeout pace).1.memory? slot with
    | some b =>
      have hset : KeepsRevocations (w.collect slot timeout pace).1
          ((w.collect slot timeout pace).1.setBackend slot
            (.memory { b with nextCollect := some next })) :=
        revises_setBackend hb rfl rfl fun _ _ _ => rfl
      exact (hpass.trans hset).trans (keepsRevocations_of_eq rfl)
    | none => exact hpass.trans (keepsRevocations_of_eq rfl)

/-- Backends stand for memory engines with the settings of a configuration. Those that keep
revocations have what follows from a history. -/
def Operates (w : World) (o : StoragesOptions) (entries : List (StorageId × Backend))
    (history : List Episode) : Prop :=
  ∀ e ∈ entries, ∃ item b, (e.1, item) ∈ o ∧ item.kind e.1 = .ok (.memory b.options) ∧
    w.memory? e.2.slot = some b ∧
    (e.2.jwt = true → b.memory.revoked = revocationsAt e.2.slot history)

/-- New storages have no history. -/
theorem Opens.operates {o : StoragesOptions} {entries : List (StorageId × Backend)}
    (h : w.Opens o entries) : w.Operates o entries [] := by
  intro e he
  obtain ⟨item, b, hitem, hkind, hb, hempty⟩ := h.engines e he
  refine ⟨item, b, hitem, hkind, hb, fun _ => ?_⟩
  rw [hempty]
  rfl

namespace Operates

variable {w' : World} {o : StoragesOptions} {entries : List (StorageId × Backend)}
  {history history' : List Episode} {f : Nat → Table Jti Timestamp → Table Jti Timestamp}

/-- What happens to the revocations has to agree with what enters into the history. -/
theorem revise (h : w.Operates o entries history) (hrevises : Revises f w w')
    (hf : ∀ e ∈ entries, e.2.jwt = true →
      f e.2.slot (revocationsAt e.2.slot history) = revocationsAt e.2.slot history') :
    w'.Operates o entries history' := by
  intro e he
  obtain ⟨item, b, hitem, hkind, hb, hrevoked⟩ := h e he
  obtain ⟨b', hb', hoptions, hrevoked'⟩ := hrevises e.2.slot b hb
  refine ⟨item, b', hitem, hoptions ▸ hkind, hb', fun hjwt => ?_⟩
  rw [hrevoked', hrevoked hjwt]
  exact hf e he hjwt

/-- What leaves revocations alone needs no mention in the history. -/
theorem keep (h : w.Operates o entries history) (hkeeps : w.KeepsRevocations w') :
    w'.Operates o entries history := h.revise hkeeps fun _ _ _ => rfl

/-- A token that is revoked is revoked at every backend that keeps revocations. -/
theorem start_revoke (h : w.Operates o entries history) (exp : Timestamp) (jti : Jti)
    (spans : List LogSpan) :
    ((Storage.assembled entries).start spans (.revoke exp jti) w).1.Operates o entries
      (.revoked jti exp :: history) := by
  cases hable : (Storage.assembled entries).isAble (.revoke exp jti) with
  | true =>
    obtain ⟨calls, a, hround, -, hgathers⟩ := Storage.fan_out rfl hable spans w
    refine h.revise hround.revises fun e he hjwt => ?_
    -- this backend takes part in the round, for it is able to
    have hleaf : (⟨[e.1], e.2⟩ : Leaf) ∈ calls.map LeafCall.leaf := by
      rw [hgathers.leaves_eq hable, Storage.leaves_assembled]
      exact List.mem_filter.mpr ⟨List.mem_map_of_mem he, hjwt⟩
    obtain ⟨x, hx, hleaf⟩ := List.mem_map.mp hleaf
    have hslot : e.2.slot ∈ calls.map (·.leaf.backend.slot) :=
      List.mem_map.mpr ⟨x, hx, by rw [hleaf]⟩
    rw [if_pos hslot]
    rfl
  | false =>
    -- no backend keeps revocations, so there is nothing to say about them
    have hstart : ((Storage.assembled entries).start spans (.revoke exp jti) w).1 = w := by
      have hlacks : (Storage.multiplexer (Storage.logged entries)).has .jwt = false := hable
      rw [Storage.assembled, Storage.start, startDecorated]
      simp only [StorageRequest.needs?, hlacks, Bool.false_eq_true, if_false]
    rw [hstart]
    refine h.revise (keepsRevocations_of_eq rfl) fun e he hjwt => ?_
    -- a backend that kept revocations would make the storage able to
    have hhas : (Storage.assembled entries).has .jwt = true := by
      refine (Storage.has_iff .jwt _).mpr ⟨⟨[e.1], e.2⟩, ?_, hjwt⟩
      rw [Storage.leaves_assembled]
      exact List.mem_map_of_mem he
    exact Bool.noConfusion (hable.symm.trans hhas)

/-- An operation enters into the history what it leaves behind. -/
theorem start (h : w.Operates o entries history) (r : StorageRequest) (spans : List LogSpan) :
    ((Storage.assembled entries).start spans r w).1.Operates o entries (r.episodes ++ history) := by
  cases hr : r.isRevoke with
  | false =>
    rw [StorageRequest.episodes_of_not_isRevoke hr]
    exact h.keep (guarantee_keepsRevocations.start _ spans hr w)
  | true =>
    cases r with
    | revoke exp jti => exact h.start_revoke exp jti spans
    | _ => exact Bool.noConfusion hr

/-- A pass enters into the history, if it is complete. -/
theorem collect (h : w.Operates o entries history) (slot : Nat) (timeout : Duration)
    (pace : Pace) : (w.collect slot timeout pace).1.Operates o entries
      (w.passEpisodes slot timeout pace ++ history) :=
  h.revise (w.revises_collect slot timeout pace) fun _ _ _ => (List.foldr_append ..).symm

/-- A pass that is due enters into the history, if it is complete. -/
theorem collectIfDue (h : w.Operates o entries history) (slot : Nat) (pace : Pace) :
    (w.collectIfDue slot pace).Operates o entries (w.dueEpisodes slot pace ++ history) :=
  h.revise (w.revises_collectIfDue slot pace) fun _ _ _ => (List.foldr_append ..).symm

end Operates

end World

/-- A storage was made from these settings and is in operation, with this history behind it. -/
inductive Storage.Operated (o : StoragesOptions) (s : Storage) : World → List Episode → Prop
  /-- The storage has just been made. -/
  | configured {w₀ w : World} (h : Storage.configured o w₀ = (w, .ok s)) : Operated o s w []
  /-- An operation starts, and runs until it waits or ends. -/
  | start {w : World} {history : List Episode} (spans : List LogSpan) (r : StorageRequest)
    (h : Operated o s w history) : Operated o s (s.start spans r w).1 (r.episodes ++ history)
  /-- A call runs on until it waits again or ends, be it one of this storage or another one. -/
  | resume {w : World} {history : List Episode} (spans : List LogSpan) (c : Call)
    (h : Operated o s w history) : Operated o s (c.resume spans w).1 history
  /-- A call is dropped. -/
  | drop {w : World} {history : List Episode} (c : Call) (h : Operated o s w history) :
    Operated o s (c.drop w) history
  /-- Time passes, or the wall clock is set back. -/
  | pass {w : World} {history : List Episode} (clock : Timestamp) (time : Nat)
    (h : Operated o s w history) : Operated o s { w with clock := clock, time := time } history
  /-- Garbage is collected at an engine, until there is none left or the time allowed is over. -/
  | collect {w : World} {history : List Episode} (slot : Nat) (timeout : Duration) (pace : Pace)
    (h : Operated o s w history) :
    Operated o s (w.collect slot timeout pace).1 (w.passEpisodes slot timeout pace ++ history)
  /-- The same if it is time to collect garbage. -/
  | collectIfDue {w : World} {history : List Episode} (slot : Nat) (pace : Pace)
    (h : Operated o s w history) :
    Operated o s (w.collectIfDue slot pace) (w.dueEpisodes slot pace ++ history)
  /-- The directory of channels is exchanged. -/
  | exchange {w : World} {history : List Episode} (directory : Directory)
    (h : Operated o s w history) : Operated o s { w with directory := directory } history

/-- In operation, engines have their settings, and the revocations that follow from the history. -/
theorem Storage.Operated.operates {o : StoragesOptions} {s : Storage} {w : World}
    {history : List Episode} (h : Operated o s w history) :
    ∃ entries, s = assembled entries ∧ w.Operates o.orDefault entries history := by
  -- the entries are fixed when the storage is made, and each step has its own lemma above
  induction h with
  | configured h =>
    obtain ⟨entries, hs, hopens⟩ := opens_of_configured h
    exact ⟨entries, hs, hopens.operates⟩
  | start spans r h ih =>
    obtain ⟨entries, rfl, hoperates⟩ := ih
    exact ⟨entries, rfl, hoperates.start r spans⟩
  | resume spans c h ih =>
    obtain ⟨entries, hs, hoperates⟩ := ih
    exact ⟨entries, hs, hoperates.keep (guarantee_keepsRevocations.resume c spans _)⟩
  | drop c h ih =>
    obtain ⟨entries, hs, hoperates⟩ := ih
    exact ⟨entries, hs, hoperates.keep (guarantee_keepsRevocations.drop c _)⟩
  | pass clock time h ih =>
    obtain ⟨entries, hs, hoperates⟩ := ih
    exact ⟨entries, hs, hoperates.keep (World.keepsRevocations_of_eq rfl)⟩
  | collect slot timeout pace h ih =>
    obtain ⟨entries, hs, hoperates⟩ := ih
    exact ⟨entries, hs, hoperates.collect slot timeout pace⟩
  | collectIfDue slot pace h ih =>
    obtain ⟨entries, hs, hoperates⟩ := ih
    exact ⟨entries, hs, hoperates.collectIfDue slot pace⟩
  | exchange directory h ih =>
    obtain ⟨entries, hs, hoperates⟩ := ih
    exact ⟨entries, hs, hoperates.keep (World.keepsRevocations_of_eq rfl)⟩

end LongPoll
