import LongPoll.Proofs.Merge.Outcome
import LongPoll.Proofs.Storage.Configured
/-!
# Storages that do not fail

A memory engine fails an operation only if it cannot find the channel that the operation is about.
So if the channel of an operation is found when the operation starts at a storage made of memory
engines (`World.Ready`), the operation is going to succeed (`World.Ready.sure_start`), whatever
happens until it ends (`Call.Sure.resume`). A poll that waits may not find its channel any more
later on; but then another storage has brought messages already, and these are returned.
-/

namespace LongPoll

/-! ### Calls that are going to succeed -/

/-- The call succeeds when it ends, whatever happens in the meantime. -/
inductive Call.Sure : Call → Prop
  /-- Its answer is settled. -/
  | foreseen {c : Call} {reply : StorageReply} (h : c.foreseen? = some (.ok reply)) : Sure c
  /-- A poll of a memory engine has found its channel. -/
  | polling (slot : Nat) (poll : WaitingPoll) : Sure (.polling slot poll)
  /-- A call that is logged succeeds with the one inside. -/
  | observed (spans : List LogSpan) {inner : Call} (h : Sure inner) : Sure (.observed spans inner)
  /-- Nothing has failed before or in the race. -/
  | racing (p : PollMerge) {parts : List (StorageId × Call)} (failures : p.failures = [])
    (h : ∀ part ∈ parts, Sure part.2) : Sure (.merging .racing p parts)
  /-- What the winner of the race has brought is returned in any case. -/
  | closing (p : PollMerge) (parts : List (StorageId × Call)) (h : p.batches.isEmpty = false) :
    Sure (.merging .closing p parts)

namespace PollMerge

/-- What was brought stays when an answer is taken in. -/
theorem isEmpty_take {p : PollMerge} (h : p.batches.isEmpty = false) (id : StorageId)
    (a : StorageAnswer) : (p.take id a).batches.isEmpty = false := by
  rcases p.take_cases id a with ⟨-, hbatches⟩ | ⟨-, hbatches⟩ <;> rw [hbatches]
  · exact h
  · rw [← Bool.not_eq_true, Table.isEmpty_iff]
    intro hnone
    have hid := hnone id
    rw [Table.get?_insert_self] at hid
    exact absurd hid (Option.some_ne_none _)

/-- What was brought stays when several answers are taken in. -/
theorem isEmpty_takeAll {p : PollMerge} (h : p.batches.isEmpty = false) (answers : List Ending) :
    (p.takeAll answers).batches.isEmpty = false := by
  induction answers generalizing p with
  | nil => exact h
  | cons e answers ih =>
    rw [takeAll_cons]
    exact ih (isEmpty_take h e.1 e.2)

/-- Answers that are no failures add none. -/
theorem failures_takeAll {p : PollMerge} {answers : List Ending}
    (h : ∀ e ∈ answers, ∃ reply, e.2 = .ok reply) :
    (p.takeAll answers).failures = p.failures := by
  induction answers generalizing p with
  | nil => rfl
  | cons e answers ih =>
    obtain ⟨id, a⟩ := e
    obtain ⟨reply, rfl⟩ := h (id, a) List.mem_cons_self
    rw [takeAll_cons, ih fun e he => h e (List.mem_cons_of_mem _ he)]
    exact p.failures_take_ok id reply

/-- A merge goes on for the same consumer. -/
theorem locator_takeAll (p : PollMerge) (answers : List Ending) :
    (p.takeAll answers).locator = p.locator := by
  induction answers generalizing p with
  | nil => rfl
  | cons e answers ih => rw [takeAll_cons, ih, (p.take_frame e.1 e.2).1]

/-- A merged poll fails only if something has failed and nothing was brought. -/
theorem sure_finish {p : PollMerge} (h : p.batches.isEmpty = false ∨ p.failures = [])
    (spans : List LogSpan) (w : World) : (p.finish spans w).2.Sure := by
  -- what was brought is returned, and nothing at all is an answer if nothing has failed
  have hanswer : ∃ reply, p.answer = .ok reply := by
    unfold answer
    split
    next hempty =>
      rw [h.resolve_left fun hopen => Bool.noConfusion (hempty.symm.trans hopen)]
      exact ⟨_, rfl⟩
    next => exact ⟨_, rfl⟩
  obtain ⟨reply, hreply⟩ := hanswer
  exact .foreseen (Call.foreseen?_of_answer? (congrArg some hreply))

/-- A race that has brought something succeeds, however its last round ends. -/
theorem sure_afterClosing {p : PollMerge} (h : p.batches.isEmpty = false) (spans : List LogSpan)
    (parts : List (StorageId × Call)) (w : World) : (p.afterClosing spans parts w).2.Sure := by
  unfold afterClosing
  split
  · exact .closing p parts h
  next answers _ => exact sure_finish (Or.inl (isEmpty_takeAll h answers)) spans w

end PollMerge

/-- A call that is going to succeed has no other answer than a success. -/
theorem Call.Sure.answer {c : Call} (h : c.Sure) {a : StorageAnswer} (ha : c.answer? = some a) :
    ∃ reply, a = .ok reply := by
  cases h with
  | @foreseen _ reply h =>
    rw [foreseen?_of_answer? ha] at h
    exact ⟨reply, Option.some.inj h⟩
  | _ => exact absurd ha (Option.some_ne_none a).symm

/-- To log a call does not keep it from succeeding. -/
theorem Call.Sure.observe {c : Call} (h : c.Sure) (spans : List LogSpan) (w : World) :
    (LongPoll.observe spans c w).2.Sure := by
  unfold LongPoll.observe
  split
  next => exact .observed spans h
  next reply _ => exact .foreseen (foreseen?_of_answer? (c := .settled (.ok reply)) rfl)
  next e hfailed =>
    obtain ⟨reply, hreply⟩ := h.answer hfailed
    exact absurd hreply nofun

/-- In a race, nothing has failed, and the polls that wait are going to succeed. -/
structure Race.Sure (r : Race) : Prop where
  /-- Nothing has failed. -/
  failures : r.merge.failures = []
  /-- The polls that wait are going to succeed. -/
  pending : ∀ part ∈ r.pending, part.2.Sure
  /-- The winner has brought something. -/
  winner : r.winner.isSome = true → r.merge.batches.isEmpty = false

/-- A race goes on for the same consumer. -/
theorem Race.locator_take (r : Race) (id : StorageId) (c : Call) :
    (r.take id c).merge.locator = r.merge.locator := by
  unfold Race.take
  split
  · rfl
  next a _ => exact (r.merge.take_frame id a).1

namespace Race.Sure

variable {r : Race}

/-- One more poll may wait if it is going to succeed. -/
theorem pend {c : Call} (h : r.Sure) (hc : c.Sure) (id : StorageId) :
    Race.Sure { r with pending := r.pending ++ [(id, c)] } := by
  refine ⟨h.failures, fun part hpart => ?_, h.winner⟩
  rcases List.mem_append.mp hpart with hold | hnew
  · exact h.pending part hold
  · rw [List.mem_singleton.mp hnew]
    exact hc

/-- One more poll may enter the race if it is going to succeed. -/
theorem take {c : Call} (h : r.Sure) (hc : c.Sure) (id : StorageId) : (r.take id c).Sure := by
  unfold Race.take
  cases hanswer : c.answer? with
  | none => exact h.pend hc id
  | some a =>
    obtain ⟨reply, rfl⟩ := hc.answer hanswer
    -- to win a race is to bring something
    refine ⟨(r.merge.failures_take_ok id reply).trans h.failures, h.pending, fun hwon => ?_⟩
    -- only an answer that is not empty wins
    dsimp only at hwon ⊢
    split at hwon
    next => exact Bool.noConfusion hwon
    next hopen => exact (Bool.not_eq_true _).mp hopen

/-- The polls of a race run on, and nothing fails. -/
theorem resumeRace {parts : List (StorageId × Call)} {spans : List LogSpan}
    (h : r.Sure) (hparts : ∀ part ∈ parts, part.2.Sure)
    (hresumed : ∀ part ∈ parts, ∀ w, (part.2.resume spans w).2.Sure) (w : World) :
    (Call.resumeRace spans parts r w).2.Sure := by
  induction parts generalizing r w with
  | nil =>
    rw [Call.resumeRace]
    exact h
  | cons part parts ih =>
    obtain ⟨id, c⟩ := part
    obtain ⟨hc, hrest⟩ := List.forall_mem_cons.mp hparts
    obtain ⟨hc', hrest'⟩ := List.forall_mem_cons.mp hresumed
    rw [Call.resumeRace]
    split
    · exact ih (h.pend hc id) hrest hrest' w
    · exact ih (h.take (hc' w) id) hrest hrest' _

/-- What follows on a race in which nothing has failed succeeds. -/
theorem afterRace (h : r.Sure) (members : List Member) (spans : List LogSpan) (w : World) :
    (PollMerge.afterRace members spans r w).2.Sure := by
  unfold PollMerge.afterRace
  split
  next winner hwon => exact PollMerge.sure_afterClosing (h.winner (by rw [hwon]; rfl)) spans _ _
  next =>
    split
    · exact PollMerge.sure_finish (Or.inr h.failures) spans w
    · exact .racing _ h.failures h.pending

end Race.Sure

/-- A poll of a memory engine succeeds or waits. -/
theorem sure_polled (spans : List LogSpan) (slot : Nat) (s : PollStep) (w : World) :
    (polled spans slot s w).2.Sure := by
  obtain ⟨events, heq⟩ := polled_eq spans slot s w
  rw [heq]
  cases s.progress with
  | answered ms =>
    exact .foreseen (Call.foreseen?_of_answer? (c := .settled (.ok (.messages ms))) rfl)
  | waiting p => exact .polling slot p

/-- A call that is going to succeed still is after it has run on in any world. -/
theorem Call.Sure.resume {c : Call} (h : c.Sure) (spans : List LogSpan) (w : World) :
    (c.resume spans w).2.Sure := by
  induction h generalizing spans w with
  | foreseen h => exact .foreseen (approaches_of_foreseen? h spans w).foreseen
  | polling slot poll =>
    -- the channel was found when the poll began, and is not looked up again
    rw [Call.resume]
    split
    · exact sure_polled spans slot _ w
    · exact .polling slot poll
  | observed inside h ih =>
    rw [Call.resume]
    exact (ih inside w).observe inside _
  | racing p failures h ih =>
    -- the polls of the race have their turns and enter it anew
    rw [Call.resume]
    have hrace : Race.Sure ⟨p, [], none⟩ := ⟨failures, by simp, by simp⟩
    exact (hrace.resumeRace h (fun part hpart => ih part hpart spans) w).afterRace _ _ _
  | closing p parts h =>
    rw [Call.resume]
    exact PollMerge.sure_afterClosing h spans _ _

/-! ### Operations that are going to succeed -/

/-- Answers that are no failures combine to an answer that is none. -/
theorem exists_reply_combineAnswers {r : StorageRequest} {answers : List Ending}
    (h : ∀ e ∈ answers, ∃ reply, e.2 = .ok reply) :
    ∃ reply, combineAnswers r answers = .ok reply := by
  by_cases hrevoked : ∃ e ∈ answers, e.2 = .ok (.revoked true)
  · exact ⟨_, combineAnswers_of_revoked hrevoked⟩
  · have hno : ∀ e ∈ answers, e.2 ≠ .ok (.revoked true) := fun e he heq => hrevoked ⟨e, he, heq⟩
    exact ⟨_, combineAnswers_of_ok hno (failuresOf_eq_nil_iff.mpr h)⟩

/-- A tree whose backends all succeed does so, too. -/
theorem Storage.Gathers.exists_reply {r : StorageRequest} {s : Storage} {calls : List LeafCall}
    {a : StorageAnswer} (h : s.Gathers r (fun answers a => a = combineAnswers r answers) calls a)
    (hok : ∀ x ∈ calls, ∃ reply, x.answer = .ok reply) : ∃ reply, a = .ok reply := by
  induction h with
  | backend b a => exact hok _ (List.mem_singleton_self _)
  | decorated id inside ih => exact ih hok
  | @multiplexer children branches a able inside joined ih =>
    rw [joined]
    refine exists_reply_combineAnswers fun e he => ?_
    obtain ⟨x, hx, rfl⟩ := List.mem_map.mp he
    exact ih x hx (Branch.forall_answer_iff (P := fun a => ∃ reply, a = .ok reply) |>.mp hok x hx)

/-- An operation that does not wait for anything. -/
def StorageRequest.isPrompt : StorageRequest → Bool
  | poll _ _ wait => wait.isZero
  | _ => true

/-- Not to wait takes no time, whatever the limit is. -/
theorem World.waitMillis_min_of_isZero {d : Duration} (h : d.isZero = true) (longest : Duration) :
    waitMillis (d.min longest) = 0 := by
  have hnanos : d.nanos = 0 := beq_iff_eq.mp h
  have hmin : d.min longest = d := if_pos (hnanos ▸ Nat.zero_le _)
  rw [hmin, waitMillis, Duration.outlastsClocks, Duration.endsBeyond, hnanos]
  decide

/-- Backends stand for memory engines, and the channel of an operation can be found. -/
structure World.Ready (w : World) (entries : List (StorageId × Backend)) (r : StorageRequest) :
    Prop where
  /-- The backends stand for memory engines. -/
  hosts : w.Hosts entries
  /-- The channel is found, if the operation is about one. -/
  finds : ∀ id ∈ r.channel?, w.Finds id

/-- The setting stays as it is, and the engines stay in their places. -/
def World.Keeps (w w' : World) : Prop := w.KeepsSetting w' ∧ w.KeepsEngines w'

/-- Operations leave the setting and the engines as they are. -/
theorem guarantee_keeps : Guarantee World.Keeps :=
  guarantee_keepsSetting.and guarantee_keepsEngines

/-- Reports leave the setting and the engines as they are. -/
theorem World.Logs.keeps {w w' : World} (h : w.Logs w') : w.Keeps w' := by
  obtain ⟨events, rfl⟩ := h
  exact ⟨keepsSetting_of_eq rfl rfl rfl, keepsEngines_of_eq rfl⟩

namespace World.Ready

variable {w w' : World} {entries : List (StorageId × Backend)} {r : StorageRequest}

/-- What a poll asks for apart from its channel is no matter of readiness. -/
theorem poll {locator : Locator} {max max' : Nat} {wait wait' : Duration}
    (h : w.Ready entries (.poll locator max wait)) : w.Ready entries (.poll locator max' wait') :=
  ⟨h.hosts, h.finds⟩

/-- What is ready stays ready as long as setting and engines stay. -/
theorem keep (h : w.Ready entries r) (hkeeps : w.Keeps w') : w'.Ready entries r :=
  ⟨h.hosts.keep hkeeps.2, fun id hid => hkeeps.1.finds id (h.finds id hid)⟩

/-- An engine succeeds at once, or its poll waits. -/
theorem start_backend (h : w.Ready entries r) {e : StorageId × Backend} (he : e ∈ entries)
    (spans : List LogSpan) : (∃ reply, (e.2.start spans r w).2.answer? = some (.ok reply)) ∨
      r.isPrompt = false ∧ ∃ poll, (e.2.start spans r w).2 = .polling e.2.slot poll := by
  obtain ⟨b, hb, -⟩ := h.hosts.engines e he
  unfold Backend.start
  rw [backend?_of_memory? hb]
  cases r with
  | publish m =>
    obtain ⟨channel, hfind⟩ := h.finds m.channel rfl
    obtain ⟨events, heq⟩ := w.findChannel_eq spans m.channel
    simp only [startMemory, heq, hfind]
    exact Or.inl ⟨_, rfl⟩
  | poll locator max wait =>
    obtain ⟨channel, hfind⟩ := h.finds locator.channel rfl
    obtain ⟨events, heq⟩ := startMemory_poll_of_ok e.2.slot b spans hfind max wait
    simp only [heq, Memory.startPoll]
    let order := w.order channel locator max wait
    -- a poll that finds nothing waits
    cases hprogress : (b.memory.look w.clock w.time order 1).progress with
    | answered ms => exact Or.inl ⟨_, rfl⟩
    | waiting p =>
      refine Or.inr ⟨Bool.eq_false_iff.mpr fun hzero => ?_, p, rfl⟩
      -- a poll that may not wait does not wait
      have hlate : order.deadline ≤ w.time := by
        show w.time + World.waitMillis (wait.min Memory.maxPollWait) ≤ w.time
        rw [World.waitMillis_min_of_isZero hzero]
        exact Nat.le_refl _
      rw [b.memory.progress_look w.clock hlate] at hprogress
      cases hprogress
  | _ => exact Or.inl ⟨_, rfl⟩

/-- A logged engine succeeds at once, or its poll waits. -/
theorem start_member (h : w.Ready entries r) {m : Member}
    (hm : m ∈ Storage.members (Storage.logged entries)) (hable : m.storage.isAble r = true)
    (spans : List LogSpan) : (m.start spans r w).2.Sure ∧
      (r.isPrompt = true → ∃ reply, (m.start spans r w).2.answer? = some (.ok reply)) := by
  rw [Storage.members_eq_map, Storage.logged, List.map_map] at hm
  obtain ⟨e, he, rfl⟩ := List.mem_map.mp hm
  have hinner : (Storage.backend e.2).isAble r = true := by
    rwa [← Storage.isAble_decorated r e.1]
  dsimp only [Function.comp_apply]
  rw [Storage.start, startDecorated_of_isAble hinner, Storage.start, Call.answer?_observe]
  have hstart := h.start_backend he (w.enter spans (r.span e.1))
  -- what is logged ends as what is inside
  refine ⟨Call.Sure.observe ?_ _ _, fun hprompt => ?_⟩
  · rcases hstart with ⟨reply, hreply⟩ | ⟨-, poll, hpoll⟩
    · exact .foreseen (Call.foreseen?_of_answer? hreply)
    · rw [hpoll]
      exact .polling _ poll
  · exact hstart.resolve_right fun hwaits => Bool.noConfusion (hprompt.symm.trans hwaits.1)

section Polls

variable {locator : Locator} {max : Nat} {wait : Duration} {members : List Member}
  (hmembers : members ⊆ Storage.pollable (Storage.logged entries))

include hmembers

/-- Members that are asked without waiting succeed at once. -/
theorem startAll (h : w.Ready entries (.poll locator max wait)) (spans : List LogSpan)
    (hprompt : wait.isZero = true) : ∃ answers,
      Call.answers? (LongPoll.startAll members spans (.poll locator max wait) w).2 = some answers ∧
        ∀ e ∈ answers, ∃ reply, e.2 = .ok reply := by
  induction members generalizing w with
  | nil => exact ⟨[], rfl, nofun⟩
  | cons m members ih =>
    obtain ⟨hm, hhas⟩ := List.mem_filter.mp (hmembers List.mem_cons_self)
    obtain ⟨reply, hreply⟩ := (h.start_member hm hhas spans).2 hprompt
    obtain ⟨answers, hanswers, hok⟩ := ih (fun m' hm' => hmembers (List.mem_cons_of_mem m hm'))
      (h.keep (guarantee_keeps.start_member hm spans _ w))
    rw [startAll_cons]
    exact ⟨(m.id, .ok reply) :: answers, Call.answers?_cons hreply hanswers,
      List.forall_mem_cons.mpr ⟨⟨reply, rfl⟩, hok⟩⟩

/-- Members that enter a race are going to succeed. -/
theorem enter {r : Race}
    (h : w.Ready entries (.poll r.merge.locator r.merge.max r.merge.wait)) (hrace : r.Sure)
    (spans : List LogSpan) : (Race.enter spans members r w).2.Sure := by
  induction members generalizing r w with
  | nil => exact hrace
  | cons m members ih =>
    obtain ⟨hm, hhas⟩ := List.mem_filter.mp (hmembers List.mem_cons_self)
    rw [Race.enter]
    dsimp only
    have htake := hrace.take (h.start_member hm hhas spans).1 m.id
    split
    · exact htake
    · refine ih (fun m' hm' => hmembers (List.mem_cons_of_mem m hm')) ?_ htake
      -- the channel is still found when the next one enters
      rw [Race.locator_take]
      exact (h.keep (guarantee_keeps.start_member hm spans _ w)).poll

end Polls

/-- A poll of several engines is going to succeed. -/
theorem sure_poll {locator : Locator} {max : Nat} {wait : Duration}
    (h : w.Ready entries (.poll locator max wait))
    (hhas : (Storage.multiplexer (Storage.logged entries)).has .pubsub = true)
    (spans : List LogSpan) : ((Storage.multiplexer (Storage.logged entries)).start spans
      (.poll locator max wait) w).2.Sure := by
  rw [Storage.start, startMultiplexer_poll (Storage.pollable_ne_nil hhas)]
  have hquick : w.Ready entries (.poll locator max Duration.zero) := h.poll
  -- the first round does not wait, so all of its polls succeed at once
  obtain ⟨answers, hanswers, hok⟩ := hquick.startAll (List.Subset.refl _) spans rfl
  generalize hp : Storage.unasked (Storage.logged entries) locator max wait = p
  have hlocator : p.locator = locator := by
    rw [← hp]
    rfl
  -- the first round asks for the same, but does not wait
  have hasked : p.quickPoll = .poll locator max Duration.zero := by
    rw [← hp]
    rfl
  have hfailures : (p.takeAll answers).failures = [] := by
    rw [PollMerge.failures_takeAll hok, ← hp]
    rfl
  rw [hasked]
  unfold PollMerge.afterSweep
  rw [hanswers]
  dsimp only
  split
  · -- in the race, the channel is found as in the first round
    refine Race.Sure.afterRace ?_ _ _ _
    have hrace : Race.Sure ⟨p.takeSweep answers, [], none⟩ :=
      ⟨hfailures, fun _ hpart => absurd hpart List.not_mem_nil, fun hwon => Bool.noConfusion hwon⟩
    refine enter List.filter_sublist.subset ?_ hrace spans
    rw [show (p.takeSweep answers).locator = locator from
      (p.locator_takeAll answers).trans hlocator]
    refine hquick.poll.keep (guarantee_keeps.startAll (fun m hm => ?_) _ _ w)
    exact guarantee_keeps.start_member (List.mem_filter.mp hm).1
  · exact PollMerge.sure_finish (Or.inr hfailures) _ _

/-- Engines that are called one after the other succeed. -/
theorem answers_of_round {calls : List LeafCall} (h : w.Ready entries r) (hr : r.isPoll = false)
    (hround : Round r calls w w') (hcalls : ∀ x ∈ calls, ∃ id, (id, x.leaf.backend) ∈ entries) :
    ∀ x ∈ calls, ∃ reply, x.answer = .ok reply := by
  induction hround with
  | done hlogs => nofun
  | @call x rest w w₁ w' hlogs spans hanswer hrest ih =>
    obtain ⟨⟨id, hid⟩, hothers⟩ := List.forall_mem_cons.mp hcalls
    have hbefore := h.keep hlogs.keeps
    -- one engine leaves the next one ready
    refine List.forall_mem_cons.mpr ⟨?_, ih (hbefore.keep (guarantee_keeps.backend ..)) hothers⟩
    -- an engine that does not wait has answered
    rcases hbefore.start_backend hid spans with ⟨reply, hreply⟩ | ⟨hwaits, -⟩
    · rw [Call.foreseen?_of_answer? hreply] at hanswer
      exact ⟨reply, (Option.some.inj hanswer).symm⟩
    · -- nothing waits but polls
      cases r with
      | poll => exact Bool.noConfusion hr
      | _ => exact Bool.noConfusion hwaits

/-- An operation that memory engines are able to carry out and whose channel is found is going to
succeed. -/
theorem sure_start (h : w.Ready entries r) (hable : (Storage.assembled entries).isAble r = true)
    (spans : List LogSpan) : ((Storage.assembled entries).start spans r w).2.Sure := by
  -- polls are merged, and all other operations fan out
  cases hr : r.isPoll with
  | true =>
    cases r with
    | poll locator max wait =>
      rw [Storage.assembled, Storage.isAble_decorated] at hable
      rw [Storage.assembled, Storage.start, startDecorated_of_isAble hable]
      exact (h.sure_poll hable _).observe _ _
    | _ => exact Bool.noConfusion hr
  | false =>
    obtain ⟨calls, a, hround, hforeseen, hgathers⟩ := Storage.fan_out hr hable spans w
    obtain ⟨reply, rfl⟩ := hgathers.exists_reply
      (h.answers_of_round hr hround (hgathers.mem_entries hable))
    exact .foreseen hforeseen

end World.Ready

end LongPoll
