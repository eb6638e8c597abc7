import LongPoll.Proofs.Storage.FanOut
/-!
# Failures of several storages are masked

A multiplexer that fails gives one error that holds those of its storages, and never one of them by
itself. So what kinds of error its storages give does not show in the kind of its own error
(`Call.masked_start`), however long the operation takes (`Call.Masked.resume`).
-/

namespace LongPoll

/-- If it is a failure, then the failures of several storages are hidden in it. -/
def Masked {α : Type} (a : Except Error α) : Prop :=
  ∀ e, a = .error e → ∃ failures, e = .aggregate failures

/-- The answer of the call is going to be masked. -/
def Call.Masked : Call → Prop
  | settled a => LongPoll.Masked a
  | sleeping _ a => LongPoll.Masked a
  -- an engine that is polled does not fail, and several storages join their failures
  | polling .. => True
  | gathering .. => True
  | merging .. => True
  | observed _ inner => inner.Masked

section Answers

variable {α : Type}

theorem masked_ok (a : α) : Masked (.ok a) := nofun

/-- Failures of several storages are hidden in one. -/
theorem masked_aggregate (failures : List (StorageId × Error)) :
    Masked (.error (.aggregate failures) : Except Error α) := by
  intro e he
  exact ⟨failures, (Except.error.inj he).symm⟩

/-- Failures that are joined are hidden, and without failures there is a success. -/
theorem masked_join (failures : List (StorageId × Error)) (a : α) :
    Masked (match Error.join failures with
      | .error e => .error e
      | .ok () => .ok a) := by
  cases failures with
  | nil => exact masked_ok a
  | cons failure failures => exact masked_aggregate (failure :: failures)

/-- The joint answer of several storages is masked. -/
theorem masked_combineAnswers (r : StorageRequest) (answers : List (StorageId × StorageAnswer)) :
    Masked (combineAnswers r answers) := by
  unfold combineAnswers
  dsimp only
  -- a revoked token is an answer in spite of failures
  split
  · exact masked_ok _
  · exact masked_join _ _

/-- The answer of a merged poll is masked. -/
theorem PollMerge.masked_answer (p : PollMerge) : Masked p.answer := by
  unfold PollMerge.answer
  split
  · exact masked_join p.failures _
  · exact masked_ok _

end Answers

namespace Call

variable {c : Call} {parts : List (StorageId × Call)} {p : PollMerge} {members : List Member}

/-- A call that is masked ends with a masked answer. -/
theorem Masked.answer {a : StorageAnswer} (h : c.Masked) (ha : c.answer? = some a) :
    LongPoll.Masked a := by
  obtain rfl := eq_settled_of_answer? ha
  exact h

/-- What several storages answer together is masked. -/
theorem masked_gather (r : StorageRequest) (parts : List (StorageId × Call)) :
    (gather r parts).Masked := by
  unfold gather
  split
  · exact masked_combineAnswers r _
  · exact trivial

/-- A merged poll is masked after its last round. -/
theorem masked_afterClosing (spans : List LogSpan) (w : World) :
    (p.afterClosing spans parts w).2.Masked := by
  unfold PollMerge.afterClosing
  split
  · exact trivial
  · exact PollMerge.masked_answer _

/-- A merged poll is masked after the race. -/
theorem masked_afterRace (spans : List LogSpan) (r : Race) (w : World) :
    (PollMerge.afterRace members spans r w).2.Masked := by
  unfold PollMerge.afterRace
  split
  · exact masked_afterClosing spans _
  · split
    · exact PollMerge.masked_answer _
    · exact trivial

/-- A merged poll is masked after its first round. -/
theorem masked_afterSweep (spans : List LogSpan) (w : World) :
    (p.afterSweep members spans parts w).2.Masked := by
  unfold PollMerge.afterSweep
  split
  · exact trivial
  · dsimp only
    split
    · exact masked_afterRace spans _ _
    · exact PollMerge.masked_answer _

/-- To log a call leaves it masked. -/
theorem Masked.observe (h : c.Masked) (spans : List LogSpan) (w : World) :
    (LongPoll.observe spans c w).2.Masked := by
  unfold LongPoll.observe
  split
  next => exact h
  next reply ha => exact masked_ok reply
  next e ha => exact h.answer ha

/-- A poll of an engine is masked, since it does not fail. -/
theorem masked_polled (spans : List LogSpan) (slot : Nat) (s : PollStep) (w : World) :
    (polled spans slot s w).2.Masked := by
  unfold polled
  dsimp only
  split
  · exact masked_ok _
  · exact trivial

/-- A masked call stays so when it runs on. -/
theorem Masked.resume (h : c.Masked) (spans : List LogSpan) (w : World) :
    (c.resume spans w).2.Masked := by
  induction c using Call.induct generalizing spans w with
  | settled a =>
    rw [Call.resume]
    exact h
  | sleeping wake a =>
    rw [Call.resume]
    split <;> exact h
  | polling slot poll =>
    rw [Call.resume]
    split
    · exact masked_polled spans slot _ w
    · exact trivial
  | gathering r parts ih =>
    rw [Call.resume]
    exact masked_gather r _
  | merging phase p parts ih =>
    -- whatever comes after a phase, the failures of several storages are joined
    cases phase with
    | sweeping =>
      rw [Call.resume]
      exact masked_afterSweep spans _
    | racing =>
      rw [Call.resume]
      exact masked_afterRace spans _ _
    | closing =>
      rw [Call.resume]
      exact masked_afterClosing spans _
  | observed inside inner ih =>
    rw [Call.resume]
    exact (ih h inside w).observe inside _

/-- A multiplexer that is able to carry an operation out masks failures. -/
theorem masked_startMultiplexer {children : List (StorageId × Storage)} {r : StorageRequest}
    (able : (Storage.multiplexer children).isAble r = true) (spans : List LogSpan) (w : World) :
    (startMultiplexer (Storage.members children) spans r w).2.Masked := by
  unfold startMultiplexer
  dsimp only
  split
  next c hneeds hnobody =>
    -- somebody is able to
    rw [Storage.isAble_of_needs? hneeds, Storage.has, Storage.anyHas_eq_any,
      List.any_eq_true] at able
    obtain ⟨child, hchild, hhas⟩ := able
    rw [hneeds] at hnobody
    rw [Storage.members_eq_map, List.filter_eq_nil_iff] at hnobody
    exact absurd hhas (hnobody _ (List.mem_map_of_mem hchild))
  next =>
    split
    · exact masked_afterSweep spans _
    · exact masked_gather _ _

/-- A multiplexer that is logged masks failures, too. -/
theorem masked_start {id : StorageId} {children : List (StorageId × Storage)} {r : StorageRequest}
    (able : (Storage.decorated id (.multiplexer children)).isAble r = true) (spans : List LogSpan)
    (w : World) : ((Storage.decorated id (.multiplexer children)).start spans r w).2.Masked := by
  -- the log is written around the multiplexer
  rw [Storage.isAble_decorated] at able
  rw [Storage.start, Storage.start, startDecorated_of_isAble able]
  exact (masked_startMultiplexer able _ w).observe _ _

end Call

end LongPoll
