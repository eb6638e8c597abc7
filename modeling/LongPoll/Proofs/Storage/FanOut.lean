import LongPoll.Proofs.Merge.History
import LongPoll.Proofs.Storage.Frame
import LongPoll.Proofs.Storage.Leaves
/-!
# Operations that go to every backend

All operations but polls are passed on to every backend that is able to carry them out, and the
answers are joined on the way back, multiplexer by multiplexer. `Storage.fan_out` says all that can
be known without looking at a backend:

* one after the other, every backend that takes part is called exactly once, and nothing else
  happens apart from the log (`Round`);
* the answer is that of the tree (`Storage.Gathers`): what a multiplexer answers is joined from what
  its storages answer, and a logged storage answers what the storage inside answers;
* the answer is settled as soon as the operation has started, however long the backends take to give
  their answers (`Call.Concludes`).
-/

namespace LongPoll

namespace World

/-- Nothing but the log has changed. -/
def Logs (w w' : World) : Prop := ∃ events, w' = { w with events := events }

variable {w w' w'' : World}

theorem Logs.refl (w : World) : w.Logs w := ⟨w.events, rfl⟩

theorem Logs.trans (h : w.Logs w') (h' : w'.Logs w'') : w.Logs w'' := by
  obtain ⟨events, rfl⟩ := h
  obtain ⟨events', rfl⟩ := h'
  exact ⟨events', rfl⟩

/-- The log is no matter of time. -/
theorem Logs.time_eq (h : w.Logs w') : w'.time = w.time := by
  obtain ⟨events, rfl⟩ := h
  rfl

/-- The log is no matter of backends. -/
theorem Logs.backends_eq (h : w.Logs w') : w'.backends = w.backends := by
  obtain ⟨events, rfl⟩ := h
  rfl

theorem logs_report (w : World) (spans : List LogSpan) (n : Notice) : w.Logs (w.report spans n) :=
  w.report_eq spans n

end World

/-! ### Answers to come -/

namespace Call

mutual

/-- The answer with which a call is going to end, if nothing that may happen can change it. -/
def foreseen? : Call → Option StorageAnswer
  | settled a => some a
  | sleeping _ a => some a
  | polling .. => none
  | gathering r parts => (allForeseen? parts).map (combineAnswers r)
  | merging .. => none
  | observed _ inner => inner.foreseen?

/-- The answers with which several calls are going to end. -/
def allForeseen? : List (StorageId × Call) → Option (List (StorageId × StorageAnswer))
  | [] => some []
  | (id, c) :: rest =>
    match c.foreseen?, allForeseen? rest with
    | some a, some as => some ((id, a) :: as)
    | _, _ => none

end

/-- A call has come to another one. Each step has met a world of its own, so anything may have
happened in between. -/
inductive Onward (c : Call) : Call → Prop
  /-- The call has not moved yet. -/
  | here : Onward c c
  /-- The call has run on until it waits again or has ended. -/
  | resume {c' : Call} (spans : List LogSpan) (w : World) (h : Onward c c') :
    Onward c (c'.resume spans w).2

/-- Whatever happens, the call ends with this answer when its timers have run out, and does nothing
until then. -/
structure Concludes (c : Call) (a : StorageAnswer) : Prop where
  /-- It ends with no other answer. -/
  answer : ∀ c', c.Onward c' → ∀ a', c'.answer? = some a' → a' = a
  /-- It ends. -/
  ends : ∀ c', c.Onward c' → ∀ (spans : List LogSpan) (w : World), (∀ t ∈ c'.timers, t ≤ w.time) →
    (c'.resume spans w).2.answer? = some a
  /-- It changes nothing but the log. -/
  logs : ∀ c', c.Onward c' → ∀ (spans : List LogSpan) (w : World), w.Logs (c'.resume spans w).1

/-- A call runs on towards its answer. -/
structure Approaches (c : Call) (a : StorageAnswer) (spans : List LogSpan) (w : World) : Prop where
  /-- It is going to end with the same answer. -/
  foreseen : (c.resume spans w).2.foreseen? = some a
  /-- It changes nothing but the log. -/
  logs : w.Logs (c.resume spans w).1
  /-- It ends when its timers have run out. -/
  ends : (∀ t ∈ c.timers, t ≤ w.time) → (c.resume spans w).2.answer? = some a

section Foreseen

variable {c : Call} {a : StorageAnswer} {parts : List (StorageId × Call)}
  {answers : List (StorageId × StorageAnswer)} {w : World} {spans : List LogSpan}

theorem foreseen?_of_answer? (h : c.answer? = some a) : c.foreseen? = some a := by
  rw [eq_settled_of_answer? h, foreseen?]

theorem allForeseen?_cons {id : StorageId} (h : c.foreseen? = some a)
    (hrest : allForeseen? parts = some answers) :
    allForeseen? ((id, c) :: parts) = some ((id, a) :: answers) := by
  rw [allForeseen?, h, hrest]

/-- If the answers of several calls are settled, that of the first one is and those of the others
are. -/
theorem allForeseen?_cons_eq_some {id : StorageId}
    (h : allForeseen? ((id, c) :: parts) = some answers) :
    ∃ a rest, c.foreseen? = some a ∧ allForeseen? parts = some rest ∧
      answers = (id, a) :: rest := by
  rw [allForeseen?] at h
  split at h
  next a rest ha hrest => exact ⟨a, rest, ha, hrest, (Option.some.inj h).symm⟩
  next => exact absurd h (Option.some_ne_none _).symm

theorem answers?_cons {id : StorageId} (h : c.answer? = some a)
    (hrest : answers? parts = some answers) :
    answers? ((id, c) :: parts) = some ((id, a) :: answers) := by
  rw [answers?, h, hrest]

/-- The answers of calls that have ended are settled. -/
theorem allForeseen?_of_answers? (h : answers? parts = some answers) :
    allForeseen? parts = some answers := by
  induction parts generalizing answers with
  | nil =>
    rw [answers?] at h
    rw [allForeseen?, h]
  | cons part parts ih =>
    rw [answers?] at h
    split at h
    next a rest ha hrest =>
      rw [← h]
      exact allForeseen?_cons (foreseen?_of_answer? ha) (ih hrest)
    next => exact absurd h (Option.some_ne_none _).symm

/-- The answer that is gathered is settled if those of the parts are. -/
theorem foreseen?_gather (r : StorageRequest) (parts : List (StorageId × Call)) :
    (gather r parts).foreseen? = (allForeseen? parts).map (combineAnswers r) := by
  unfold gather
  split
  next answers h => rw [foreseen?, allForeseen?_of_answers? h, Option.map_some]
  next => rw [foreseen?]

/-- To log an operation does not change whether and how it has ended. -/
theorem answer?_observe : (observe spans c w).2.answer? = c.answer? := by
  unfold observe
  cases h : c.answer? with
  | none => rfl
  | some a => cases a <;> rfl

/-- To log an operation does not change how it is going to end. -/
theorem foreseen?_observe : (observe spans c w).2.foreseen? = c.foreseen? := by
  unfold observe
  cases h : c.answer? with
  | none =>
    dsimp only
    rw [foreseen?]
  | some a => cases a <;> rw [foreseen?_of_answer? h] <;> exact foreseen?_of_answer? rfl

/-- To log an operation changes nothing but the log. -/
theorem logs_observe : w.Logs (observe spans c w).1 := by
  unfold observe
  split
  · exact .refl w
  · exact w.logs_report spans _
  · exact w.logs_report spans _

/-- Several calls run on towards their answers, one after the other. -/
theorem resumeAll_of_approaches
    (h : ∀ part ∈ parts, ∀ a, part.2.foreseen? = some a → ∀ spans w, part.2.Approaches a spans w)
    (hanswers : allForeseen? parts = some answers) (spans : List LogSpan) (w : World) :
    allForeseen? (resumeAll spans parts w).2 = some answers ∧ w.Logs (resumeAll spans parts w).1 ∧
      ((∀ t ∈ allTimers parts, t ≤ w.time) →
        answers? (resumeAll spans parts w).2 = some answers) := by
  induction parts generalizing answers w with
  | nil =>
    rw [resumeAll]
    exact ⟨hanswers, .refl w, fun _ => hanswers⟩
  | cons part parts ih =>
    obtain ⟨id, c⟩ := part
    obtain ⟨a, rest, ha, hrest, rfl⟩ := allForeseen?_cons_eq_some hanswers
    have hfirst := h (id, c) List.mem_cons_self a ha spans w
    obtain ⟨hforeseen, hlogs, hends⟩ :=
      ih (fun part hpart => h part (List.mem_cons_of_mem _ hpart)) hrest (c.resume spans w).1
    rw [resumeAll_cons]
    refine ⟨allForeseen?_cons hfirst.foreseen hforeseen, hfirst.logs.trans hlogs, fun htimers => ?_⟩
    rw [allTimers] at htimers
    refine answers?_cons (hfirst.ends fun t ht => htimers t (List.mem_append_left _ ht))
      (hends fun t ht => ?_)
    -- the first call has left the time as it was
    rw [hfirst.logs.time_eq]
    exact htimers t (List.mem_append_right _ ht)

/-- A call whose answer is settled runs on towards it. -/
theorem approaches_of_foreseen? (h : c.foreseen? = some a) (spans : List LogSpan) (w : World) :
    c.Approaches a spans w := by
  induction c using Call.induct generalizing a spans w with
  | settled a' =>
    refine ⟨?_, ?_, fun _ => ?_⟩ <;> rw [resume]
    · exact h
    · exact .refl w
    · exact h
  | sleeping wake a' =>
    refine ⟨?_, ?_, fun htimers => ?_⟩ <;> rw [resume]
    · split <;> exact h
    · split <;> exact .refl w
    · rw [if_pos (htimers wake (by simp [timers]))]
      exact h
  -- what polls are going to bring cannot be foreseen
  | polling slot poll => exact absurd h (Option.some_ne_none a).symm
  | merging phase p parts => exact absurd h (Option.some_ne_none a).symm
  | gathering r parts ih =>
    rw [foreseen?, Option.map_eq_some_iff] at h
    obtain ⟨answers, hanswers, rfl⟩ := h
    obtain ⟨hforeseen, hlogs, hends⟩ :=
      resumeAll_of_approaches (fun part hpart a ha => ih part hpart ha) hanswers spans w
    refine ⟨?_, ?_, fun htimers => ?_⟩ <;> rw [resume] <;> dsimp only
    -- the parts stay on their ways, and so does the whole
    · rw [foreseen?_gather, hforeseen, Option.map_some]
    · exact hlogs
    · rw [timers] at htimers
      rw [gather, hends htimers]
      rfl
  | observed inside inner ih =>
    rw [foreseen?] at h
    have hinner := ih h inside w
    refine ⟨?_, ?_, fun htimers => ?_⟩ <;> rw [resume] <;> dsimp only
    · rw [foreseen?_observe]
      exact hinner.foreseen
    · exact hinner.logs.trans logs_observe
    · rw [timers] at htimers
      rw [answer?_observe]
      exact hinner.ends htimers

/-- A call whose answer is settled ends with it whatever happens. -/
theorem concludes_of_foreseen? (h : c.foreseen? = some a) : c.Concludes a := by
  -- the answer that is foreseen stays the same from step to step
  have honward : ∀ c', c.Onward c' → c'.foreseen? = some a := by
    intro c' hc'
    induction hc' with
    | here => exact h
    | resume spans w _ ih => exact (approaches_of_foreseen? ih spans w).foreseen
  refine ⟨fun c' hc' a' ha' => ?_, fun c' hc' spans w => ?_, fun c' hc' spans w => ?_⟩
  · rw [← Option.some_inj, ← foreseen?_of_answer? ha', honward c' hc']
  · exact (approaches_of_foreseen? (honward c' hc') spans w).ends
  · exact (approaches_of_foreseen? (honward c' hc') spans w).logs

end Foreseen

end Call

/-! ### Rounds -/

/-- A call of a backend in a storage, with the answer that it ends with. -/
structure LeafCall where
  /-- The backend. -/
  leaf : Leaf
  /-- The answer, be it given at once or later. -/
  answer : StorageAnswer

/-- A call of a backend of a storage as one by the multiplexer that knows the storage under a
name. -/
def LeafCall.under (id : StorageId) (x : LeafCall) : LeafCall := { x with leaf := x.leaf.under id }

/-- An operation is started at these backends one after the other, and in between nothing happens
apart from the log. -/
inductive Round (r : StorageRequest) : List LeafCall → World → World → Prop
  /-- No backend is left. -/
  | done {w w' : World} (h : w.Logs w') : Round r [] w w'
  /-- A backend is called, and then the others are. -/
  | call {x : LeafCall} {rest : List LeafCall} {w w₁ w' : World} (h : w.Logs w₁)
    (spans : List LogSpan)
    (hanswer : (x.leaf.backend.start spans r w₁).2.foreseen? = some x.answer)
    (hrest : Round r rest (x.leaf.backend.start spans r w₁).1 w') : Round r (x :: rest) w w'

namespace Round

variable {r : StorageRequest} {calls later : List LeafCall} {w w' w'' : World}

theorem of_logs (h : w.Logs w') (h' : Round r calls w' w'') : Round r calls w w'' := by
  cases h' with
  | done hlogs => exact .done (h.trans hlogs)
  | call hlogs spans hanswer hrest => exact .call (h.trans hlogs) spans hanswer hrest

/-- Two rounds are one round. -/
theorem append (h : Round r calls w w') (h' : Round r later w' w'') :
    Round r (calls ++ later) w w'' := by
  induction h with
  | done hlogs => exact h'.of_logs hlogs
  | call hlogs spans hanswer _ ih => exact .call hlogs spans hanswer (ih h')

/-- A round may end with some reports. -/
theorem logs (h : Round r calls w w') (h' : w'.Logs w'') : Round r calls w w'' := by
  rw [← List.append_nil calls]
  exact h.append (.done h')

/-- A round through the backends of a storage is one through them as parts of a multiplexer. -/
theorem under (h : Round r calls w w') (id : StorageId) :
    Round r (calls.map (LeafCall.under id)) w w' := by
  induction h with
  | done hlogs => exact .done hlogs
  | call hlogs spans hanswer _ ih => exact .call hlogs spans hanswer ih

end Round

/-! ### The answer of a tree -/

/-- One of the storages of a multiplexer in the course of an operation. -/
structure Branch where
  /-- The name of the storage. -/
  id : StorageId
  /-- The storage. -/
  storage : Storage
  /-- The calls of its backends. -/
  calls : List LeafCall
  /-- What it answers. -/
  answer : StorageAnswer

/-- The calls of backends in a branch as those of the whole. -/
def Branch.outer (x : Branch) : List LeafCall := x.calls.map (LeafCall.under x.id)

section Branches

variable {branches : List Branch} {P : StorageAnswer → Prop}

/-- The backends of a multiplexer answer what they answer in their branches. -/
theorem Branch.forall_answer_iff : (∀ y ∈ branches.flatMap Branch.outer, P y.answer) ↔
    ∀ x ∈ branches, ∀ y ∈ x.calls, P y.answer := by
  rw [List.forall_mem_flatMap]
  refine forall₂_congr fun x _ => ?_
  rw [Branch.outer, List.forall_mem_map]
  rfl

/-- A backend of a multiplexer answers so if one does in a branch. -/
theorem Branch.exists_answer_iff : (∃ y ∈ branches.flatMap Branch.outer, P y.answer) ↔
    ∃ x ∈ branches, ∃ y ∈ x.calls, P y.answer := by
  -- the same by contraposition
  rw [← not_iff_not]
  push Not
  exact Branch.forall_answer_iff (P := fun a => ¬P a)

end Branches

/-- A storage calls these backends in an operation and answers this. `join` tells what a multiplexer
makes of the answers of the storages that take part. -/
inductive Storage.Gathers (r : StorageRequest)
    (join : List (StorageId × StorageAnswer) → StorageAnswer → Prop) :
    Storage → List LeafCall → StorageAnswer → Prop
  /-- A backend answers for itself. -/
  | backend (b : Backend) (a : StorageAnswer) : Gathers r join (.backend b) [⟨⟨[], b⟩, a⟩] a
  /-- A multiplexer has all storages that are able to answer, and joins their answers. -/
  | multiplexer {children : List (StorageId × Storage)} {branches : List Branch}
    {a : StorageAnswer}
    (able : branches.map (fun x => (x.id, x.storage)) = children.filter (·.2.isAble r))
    (inside : ∀ x ∈ branches, Gathers r join x.storage x.calls x.answer)
    (joined : join (branches.map fun x => (x.id, x.answer)) a) :
    Gathers r join (.multiplexer children) (branches.flatMap Branch.outer) a
  /-- A logged storage answers what the storage inside does. -/
  | decorated {inner : Storage} {calls : List LeafCall} {a : StorageAnswer} (id : StorageId)
    (inside : Gathers r join inner calls a) : Gathers r join (.decorated id inner) calls a

namespace Storage

variable {r : StorageRequest} {join : List (StorageId × StorageAnswer) → StorageAnswer → Prop}
  {s : Storage} {calls : List LeafCall} {a : StorageAnswer}

/-- The storages that take no part in an operation have no backends that do. -/
theorem filter_allLeaves (children : List (StorageId × Storage)) :
    (allLeaves children).filter (Leaf.isAble r) =
      (allLeaves (children.filter (·.2.isAble r))).filter (Leaf.isAble r) := by
  induction children with
  | nil => rfl
  | cons child children ih =>
    obtain ⟨id, s⟩ := child
    rw [allLeaves, List.filter_append, ih, List.filter_cons]
    split
    next => rw [allLeaves, List.filter_append]
    next hunable =>
      -- a storage that is not able has no backend that is
      have hnone := filter_leaves_eq_nil (Bool.not_eq_true _ ▸ hunable)
      rw [List.filter_map, show Leaf.isAble r ∘ Leaf.under id = Leaf.isAble r from rfl, hnone,
        List.map_nil, List.nil_append]

/-- Every backend that is able to take part is called exactly once, in the order of the tree. -/
theorem Gathers.leaves_eq (h : s.Gathers r join calls a) (hable : s.isAble r = true) :
    calls.map LeafCall.leaf = s.leaves.filter (Leaf.isAble r) := by
  induction h with
  | backend b a =>
    have hleaf : Leaf.isAble r ⟨[], b⟩ = true := hable
    rw [leaves, List.filter_singleton, hleaf]
    rfl
  | decorated id inside ih =>
    rw [isAble_decorated] at hable
    rw [leaves]
    exact ih hable
  | @multiplexer children branches a able inside joined ih =>
    rw [leaves, filter_allLeaves, allLeaves_eq_flatMap, ← able, List.flatMap_map, List.map_flatMap,
      List.filter_flatMap]
    -- in each branch the calls are those of its backends, under its name
    refine List.flatMap_congr fun x hx => ?_
    have hmem : (x.id, x.storage) ∈ children.filter (·.2.isAble r) :=
      able ▸ List.mem_map_of_mem (f := fun x : Branch => (x.id, x.storage)) hx
    rw [List.filter_map, show Leaf.isAble r ∘ Leaf.under x.id = Leaf.isAble r from rfl,
      ← ih x hx (List.mem_filter.mp hmem).2, Branch.outer, List.map_map, List.map_map]
    rfl

end Storage

/-! ### Replies of the right kind -/

/-- Whether an operation is a poll. -/
def StorageRequest.isPoll : StorageRequest → Bool
  | poll .. => true
  | _ => false

/-- Whether a reply is of the kind that an operation is answered with. -/
def StorageReply.suits : StorageReply → StorageRequest → Bool
  | done, .publish _ | done, .revoke .. | done, .shutdown => true
  | messages _, .poll .. => true
  | revoked _, .isRevoked _ => true
  | detail _, .liveness | detail _, .readiness => true
  | _, _ => false

/-- An operation that succeeds is answered with a reply of its kind. -/
def StorageAnswer.Fits (r : StorageRequest) (a : StorageAnswer) : Prop :=
  ∀ reply, a = .ok reply → reply.suits r = true

theorem StorageAnswer.Fits.error (r : StorageRequest) (e : Error) : Fits r (.error e) := nofun

theorem StorageAnswer.Fits.ok {r : StorageRequest} {reply : StorageReply}
    (h : reply.suits r = true) : Fits r (.ok reply) := fun _ heq => Except.ok.inj heq ▸ h

section Combine

variable {r : StorageRequest} {answers : List (StorageId × StorageAnswer)}

/-- An answer says that a token is revoked if and only if it is that reply. -/
theorem saysRevoked_iff {a : StorageAnswer} : saysRevoked a = true ↔ a = .ok (.revoked true) := by
  rcases a with e | reply
  · simp [saysRevoked]
  · cases reply <;> simp [saysRevoked]

/-- Some answer says that a token is revoked if and only if one of them is that reply. -/
theorem any_saysRevoked_iff : (answers.any fun x => saysRevoked x.2) = true ↔
    ∃ x ∈ answers, x.2 = .ok (.revoked true) := by
  simp only [List.any_eq_true, saysRevoked_iff]

/-- There are no failures if and only if all answers are replies. -/
theorem failuresOf_eq_nil_iff :
    failuresOf answers = [] ↔ ∀ x ∈ answers, ∃ reply, x.2 = .ok reply := by
  rw [List.eq_nil_iff_forall_not_mem]
  constructor
  · intro hnone x hx
    obtain ⟨id, a⟩ := x
    cases a with
    | error e => exact absurd (mem_failuresOf_iff.mpr hx) (hnone (id, e))
    | ok reply => exact ⟨reply, rfl⟩
  · rintro hall ⟨id, e⟩ hmem
    obtain ⟨reply, hreply⟩ := hall _ (mem_failuresOf_iff.mp hmem)
    exact absurd hreply nofun

/-- If no answer is that reply, none says that a token is revoked. -/
theorem not_any_saysRevoked (hno : ∀ x ∈ answers, x.2 ≠ .ok (.revoked true)) :
    ¬(answers.any fun x => saysRevoked x.2) = true := fun hany => by
  obtain ⟨x, hx, hsays⟩ := any_saysRevoked_iff.mp hany
  exact hno x hx hsays

/-- If nobody knows of a revocation and something has failed, all failures are returned. -/
theorem combineAnswers_of_failures (hno : ∀ x ∈ answers, x.2 ≠ .ok (.revoked true))
    (hfailed : failuresOf answers ≠ []) :
    combineAnswers r answers = .error (.aggregate (failuresOf answers)) := by
  unfold combineAnswers
  rw [if_neg (not_any_saysRevoked hno), Error.join, if_neg (by simpa using hfailed)]

/-- If nobody knows of a revocation and nothing has failed, the whole succeeds. -/
theorem combineAnswers_of_ok (hno : ∀ x ∈ answers, x.2 ≠ .ok (.revoked true))
    (hok : failuresOf answers = []) :
    combineAnswers r answers = .ok (match r with
      | .isRevoked _ => .revoked false
      | .liveness | .readiness => .detail (.object (detailsOf answers))
      | _ => .done) := by
  unfold combineAnswers
  rw [if_neg (not_any_saysRevoked hno), hok]
  rfl

/-- One storage that knows of a revocation is enough. -/
theorem combineAnswers_of_revoked (h : ∃ x ∈ answers, x.2 = .ok (.revoked true)) :
    combineAnswers r answers = .ok (.revoked true) := by
  unfold combineAnswers
  rw [if_pos (any_saysRevoked_iff.mpr h)]

/-- Several storages answer an operation with a reply of the same kind as one of them. -/
theorem fits_combineAnswers (hr : r.isPoll = false) (h : ∀ x ∈ answers, x.2.Fits r) :
    (combineAnswers r answers).Fits r := by
  by_cases hrevoked : ∃ x ∈ answers, x.2 = .ok (.revoked true)
  · rw [combineAnswers_of_revoked hrevoked]
    obtain ⟨x, hx, hanswer⟩ := hrevoked
    exact hanswer ▸ h x hx
  · have hno : ∀ x ∈ answers, x.2 ≠ .ok (.revoked true) := fun x hx heq => hrevoked ⟨x, hx, heq⟩
    -- nobody knows of a revocation, so there are failures or replies only
    by_cases hok : failuresOf answers = []
    · rw [combineAnswers_of_ok hno hok]
      refine .ok ?_
      cases r with
      | poll => exact Bool.noConfusion hr
      | _ => rfl
    · rw [combineAnswers_of_failures hno hok]
      exact .error r _

end Combine

/-! ### Every operation but polls -/

section FanOut

variable {r : StorageRequest} {children : List (StorageId × Storage)} {spans : List LogSpan}
  {w : World}

/-- The members that have a property are those of the storages that have it. -/
theorem Storage.members_filter (p : Storage → Bool) (children : List (StorageId × Storage)) :
    (members children).filter (fun m => p m.storage) = members (children.filter (p ·.2)) := by
  rw [members_eq_map, members_eq_map, List.filter_map]
  rfl

/-- A multiplexer passes all operations but polls on to its storages. -/
theorem startMultiplexer_of_isAble (hr : r.isPoll = false)
    (hable : (Storage.multiplexer children).isAble r = true) :
    startMultiplexer (Storage.members children) spans r w =
      ((startAll (Storage.members (children.filter (·.2.isAble r))) spans r w).1,
        gather r (startAll (Storage.members (children.filter (·.2.isAble r))) spans r w).2) := by
  rw [← Storage.members_filter (Storage.isAble r)]
  unfold startMultiplexer
  cases hneeds : r.needs? with
  | none =>
    have hall : (Storage.members children).filter (fun m => m.storage.isAble r) =
        Storage.members children :=
      List.filter_eq_self.mpr fun m _ => Storage.isAble_of_needs?_none hneeds m.storage
    rw [hall]
    cases r with
    | poll => exact Bool.noConfusion hr
    | _ => rfl
  | some c =>
    simp only [Storage.isAble_of_needs? hneeds] at hable ⊢
    split
    next c' hc' hnone =>
      -- the capability of the whole is that of one of the storages
      rw [Storage.has, Storage.anyHas_eq_any, List.any_eq_true] at hable
      obtain ⟨child, hchild, hhas⟩ := hable
      obtain rfl := Option.some.inj hc'
      rw [Storage.members_filter (Storage.has c), Storage.members_eq_map,
        List.map_eq_nil_iff] at hnone
      exact absurd (List.mem_filter.mpr ⟨hchild, hhas⟩) (hnone ▸ List.not_mem_nil)
    next =>
      cases r with
      | poll => exact Bool.noConfusion hr
      | _ => rfl

/-- A logged storage passes an operation on that the storage inside is able to carry out. -/
theorem startDecorated_of_isAble {id : StorageId} {inner : Storage} {start : Starter}
    (hable : inner.isAble r = true) :
    startDecorated id inner start spans r w =
      observe (w.enter spans (r.span id)) (start (w.enter spans (r.span id)) r w).2
        (start (w.enter spans (r.span id)) r w).1 := by
  unfold startDecorated
  cases hneeds : r.needs? with
  | none => rfl
  | some c =>
    rw [Storage.isAble_of_needs? hneeds] at hable
    exact if_pos hable

/-- The answer of a backend is settled when it is called, and of the right kind. -/
theorem exists_foreseen?_backend (b : Backend) (hr : r.isPoll = false) (spans : List LogSpan)
    (w : World) : ∃ a, (b.start spans r w).2.foreseen? = some a ∧ a.Fits r := by
  unfold Backend.start
  split
  next mb _ =>
    unfold startMemory
    cases r with
    | poll => exact Bool.noConfusion hr
    | publish m =>
      dsimp only
      split
      · exact ⟨_, Call.foreseen?_of_answer? rfl, .error _ _⟩
      · exact ⟨_, Call.foreseen?_of_answer? rfl, .ok rfl⟩
    | _ => exact ⟨_, Call.foreseen?_of_answer? rfl, .ok rfl⟩
  next script _ =>
    have hfits : StorageAnswer.Fits r (script.lineFor r World.waitMillis).answer := by
      cases r with
      | poll => exact Bool.noConfusion hr
      | _ =>
        simp only [ScriptedStorage.lineFor, ScriptedStorage.reply]
        generalize ScriptedStorage.line _ _ _ = line
        cases line.answer with
        | error e => exact .error _ e
        | ok x => exact .ok rfl
    unfold startScripted
    dsimp only
    -- now or later, a scripted storage answers what is written down
    split
    next =>
      split
      · exact ⟨_, Call.foreseen?_of_answer? rfl, hfits⟩
      · exact ⟨_, by rw [Call.foreseen?], hfits⟩
    next => exact ⟨_, Call.foreseen?_of_answer? rfl, hfits⟩
  next => exact ⟨_, Call.foreseen?_of_answer? rfl, .error _ _⟩

/-- Backends answer as they should. -/
theorem Round.fits {calls : List LeafCall} {w' : World} (h : Round r calls w w')
    (hr : r.isPoll = false) : ∀ x ∈ calls, x.answer.Fits r := by
  induction h with
  | done => nofun
  | @call x rest w w₁ w' hlogs spans hanswer hrest ih =>
    obtain ⟨a, ha, hfits⟩ := exists_foreseen?_backend x.leaf.backend hr spans w₁
    rw [hanswer, Option.some_inj] at ha
    exact List.forall_mem_cons.mpr ⟨ha ▸ hfits, ih⟩

/-- If all backends answer as they should, so does the tree. -/
theorem Storage.Gathers.fits {s : Storage} {calls : List LeafCall} {a : StorageAnswer}
    (h : s.Gathers r (fun answers a => a = combineAnswers r answers) calls a)
    (hr : r.isPoll = false) (hcalls : ∀ x ∈ calls, x.answer.Fits r) : a.Fits r := by
  induction h with
  | backend b a => exact hcalls _ (List.mem_singleton_self _)
  | decorated id inside ih => exact ih hcalls
  | @multiplexer children branches a able inside joined ih =>
    rw [joined]
    refine fits_combineAnswers hr fun answer hanswer => ?_
    obtain ⟨x, hx, rfl⟩ := List.mem_map.mp hanswer
    exact ih x hx (Branch.forall_answer_iff.mp hcalls x hx)

/-- Several storages are called one after the other. -/
theorem startAll_of_fan_out {join : List (StorageId × StorageAnswer) → StorageAnswer → Prop}
    (h : ∀ child ∈ children, ∀ (spans : List LogSpan) (w : World), ∃ calls a,
      Round r calls w (child.2.start spans r w).1 ∧
        (child.2.start spans r w).2.foreseen? = some a ∧ child.2.Gathers r join calls a)
    (spans : List LogSpan) (w : World) :
    ∃ branches : List Branch, branches.map (fun x => (x.id, x.storage)) = children ∧
      Round r (branches.flatMap Branch.outer) w
        (startAll (Storage.members children) spans r w).1 ∧
      Call.allForeseen? (startAll (Storage.members children) spans r w).2 =
        some (branches.map fun x => (x.id, x.answer)) ∧
      ∀ x ∈ branches, x.storage.Gathers r join x.calls x.answer := by
  induction children generalizing w with
  | nil => exact ⟨[], rfl, .done (.refl w), rfl, nofun⟩
  | cons child children ih =>
    obtain ⟨id, s⟩ := child
    obtain ⟨calls, a, hround, hforeseen, hgathers⟩ := h (id, s) List.mem_cons_self spans w
    obtain ⟨branches, hids, hrounds, hall, hinside⟩ := ih
      (fun child hchild => h child (List.mem_cons_of_mem _ hchild)) (s.start spans r w).1
    -- the calls of the first storage come before those of the others
    refine ⟨⟨id, s, calls, a⟩ :: branches, congrArg ((id, s) :: ·) hids, ?_, ?_, ?_⟩
    · rw [Storage.members, startAll_cons]
      exact (hround.under id).append hrounds
    · rw [Storage.members, startAll_cons]
      exact Call.allForeseen?_cons hforeseen hall
    · exact List.forall_mem_cons.mpr ⟨hgathers, hinside⟩

/-- An operation that is no poll calls every backend that is able to carry it out exactly once, and
ends with the answer of the tree. -/
theorem Storage.fan_out {s : Storage} (hr : r.isPoll = false) (hable : s.isAble r = true)
    (spans : List LogSpan) (w : World) :
    ∃ calls a, Round r calls w (s.start spans r w).1 ∧
      (s.start spans r w).2.foreseen? = some a ∧
      s.Gathers r (fun answers a => a = combineAnswers r answers) calls a := by
  induction s using Storage.induct generalizing spans w with
  | backend b =>
    obtain ⟨a, ha, -⟩ := exists_foreseen?_backend b hr spans w
    rw [start]
    exact ⟨[⟨⟨[], b⟩, a⟩], a, .call (.refl w) spans ha (.done (.refl _)), ha, .backend b a⟩
  | multiplexer children ih =>
    -- only the storages that are able are called, and each of them by hypothesis fans out
    obtain ⟨branches, hids, hround, hall, hinside⟩ := startAll_of_fan_out
      (fun child hchild => ih child (List.mem_filter.mp hchild).1 (List.mem_filter.mp hchild).2)
      spans w
    rw [start, startMultiplexer_of_isAble hr hable]
    refine ⟨_, _, hround, ?_, .multiplexer hids hinside rfl⟩
    rw [Call.foreseen?_gather, hall, Option.map_some]
  | decorated id inner ih =>
    rw [isAble_decorated] at hable
    obtain ⟨calls, a, hround, hforeseen, hgathers⟩ := ih hable (w.enter spans (r.span id)) w
    rw [start, startDecorated_of_isAble hable]
    refine ⟨calls, a, hround.logs Call.logs_observe, ?_, hgathers.decorated id⟩
    rw [Call.foreseen?_observe]
    exact hforeseen

end FanOut

end LongPoll
