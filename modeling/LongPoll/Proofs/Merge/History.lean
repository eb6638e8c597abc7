import LongPoll.Proofs.Merge.Books
/-!
# Histories of merged polls

In the course of a merged poll the storages are polled one by one, in up to three rounds: all of
them at first, then those that have not failed against each other, and then those that have not won.
Each of these polls ends with messages, without any, or with a failure, or it is dropped because
another one has won the race. A history lists how they have ended, in order.

The functions that list the ends of polls follow those that run a merged poll, and look at the same
calls. Nothing is assumed of the storages and of what else happens in the world: each step of a
merged poll may meet any world (`MergedPoll`).
-/

namespace LongPoll

/-! ### Messages under different names -/

/-- Whether two messages have the same name. -/
def Message.isNamesake (m m' : Message) : Bool := decide (m.id = m'.id)

namespace PollMerge

/-- To keep the first message of each name that has not been seen is to leave out what was seen and
then all namesakes. -/
theorem distinct_eq_eraseDupsBy (seen : List MessageId) (ms : List Message) :
    distinct seen ms = (ms.filter (·.id ∉ seen)).eraseDupsBy Message.isNamesake := by
  induction ms generalizing seen with
  | nil => rfl
  | cons m ms ih =>
    rw [distinct]
    split
    next hseen =>
      have hmem : m.id ∈ seen := by simpa using hseen
      rw [ih, List.filter_cons, if_neg (by simpa using hmem)]
    next hseen =>
      have hmem : m.id ∉ seen := by simpa using hseen
      rw [ih, List.filter_cons, if_pos (by simpa using hmem), List.eraseDupsBy_cons,
        List.filter_filter]
      -- what comes later under the same name is left out, as if the name had been seen
      congr 2
      refine List.filter_congr fun m' _ => ?_
      simp [Message.isNamesake]

/-- The messages that are kept stay in order. -/
theorem distinct_sublist (seen : List MessageId) (ms : List Message) :
    (distinct seen ms).Sublist ms := by
  induction ms generalizing seen with
  | nil => exact List.Sublist.refl _
  | cons m ms ih =>
    rw [distinct]
    split
    · exact (ih seen).cons _
    · exact (ih _).cons_cons m

/-- A name is kept exactly if it occurs and has not been seen. -/
theorem mem_ids_distinct_iff {seen : List MessageId} {ms : List Message} {id : MessageId} :
    id ∈ (distinct seen ms).map (·.id) ↔ id ∈ ms.map (·.id) ∧ id ∉ seen := by
  induction ms generalizing seen with
  | nil => simp [distinct]
  | cons m ms ih =>
    rw [distinct]
    split
    next hseen =>
      -- a name that was seen is left out, and so are all later messages of it
      have hmem : m.id ∈ seen := by simpa using hseen
      rw [ih, List.map_cons, List.mem_cons]
      constructor
      · exact fun h => ⟨Or.inr h.1, h.2⟩
      · rintro ⟨rfl | h, hnot⟩
        · exact absurd hmem hnot
        · exact ⟨h, hnot⟩
    next hseen =>
      have hmem : m.id ∉ seen := by simpa using hseen
      rw [List.map_cons, List.map_cons, List.mem_cons, List.mem_cons, ih, List.mem_cons]
      constructor
      · rintro (rfl | ⟨h, hnot⟩)
        · exact ⟨Or.inl rfl, hmem⟩
        · exact ⟨Or.inr h, fun hid => hnot (Or.inr hid)⟩
      · rintro ⟨rfl | h, hnot⟩
        · exact Or.inl rfl
        · by_cases hid : id = m.id
          · exact Or.inl hid
          · exact Or.inr ⟨h, fun hor => hor.elim hid hnot⟩

/-- No name is kept twice. -/
theorem nodup_ids_distinct (seen : List MessageId) (ms : List Message) :
    ((distinct seen ms).map (·.id)).Nodup := by
  induction ms generalizing seen with
  | nil => exact List.nodup_nil
  | cons m ms ih =>
    rw [distinct]
    split
    · exact ih seen
    · rw [List.map_cons, List.nodup_cons]
      refine ⟨fun hmem => ?_, ih _⟩
      exact (mem_ids_distinct_iff.mp hmem).2 List.mem_cons_self

/-- Messages under names that have come before leave no trace. -/
theorem distinct_append {seen : List MessageId} {ms rest : List Message}
    (hnodup : (ms.map (·.id)).Nodup) (hnew : ∀ m ∈ ms, m.id ∉ seen)
    (hrest : ∀ m ∈ rest, m.id ∈ ms.map (·.id) ∨ m.id ∈ seen) :
    distinct seen (ms ++ rest) = ms := by
  induction ms generalizing seen with
  | nil =>
    -- the names of the rest have all been seen by then
    have hnone : ∀ id, id ∉ (distinct seen rest).map (·.id) := fun id hmem => by
      obtain ⟨hmem, hnot⟩ := mem_ids_distinct_iff.mp hmem
      obtain ⟨m, hm, rfl⟩ := List.mem_map.mp hmem
      exact hnot ((hrest m hm).resolve_left List.not_mem_nil)
    exact List.map_eq_nil_iff.mp (List.eq_nil_iff_forall_not_mem.mpr hnone)
  | cons m ms ih =>
    obtain ⟨hfresh, hnodup⟩ := List.nodup_cons.mp hnodup
    have hm : seen.contains m.id = false := by simpa using hnew m List.mem_cons_self
    rw [List.cons_append, distinct, hm, if_neg Bool.false_ne_true]
    refine congrArg (m :: ·) (ih hnodup (fun m' hm' hmem => ?_) fun m' hm' => ?_)
    · rcases List.mem_cons.mp hmem with heq | hold
      · have hlater : m'.id ∈ ms.map (·.id) := List.mem_map_of_mem hm'
        rw [heq] at hlater
        exact hfresh hlater
      · exact hnew m' (List.mem_cons_of_mem m hm') hold
    · rcases hrest m' hm' with hmem | hold
      · rcases List.mem_cons.mp hmem with heq | htail
        · exact Or.inr (List.mem_cons.mpr (Or.inl heq))
        · exact Or.inl htail
      · exact Or.inr (List.mem_cons_of_mem _ hold)

end PollMerge

/-! ### Histories -/

/-- How a poll of a storage has ended. -/
abbrev Ending := StorageId × StorageAnswer

/-- The messages that polls of one storage have brought. -/
def broughtBy (id : StorageId) (history : List Ending) : List Message :=
  history.flatMap fun e => if e.1 = id then StorageAnswer.delivered e.2 else []

/-- The messages that polls of several storages have brought, by the order of the storages. -/
def broughtByAll (ids : List StorageId) (history : List Ending) : List Message :=
  ids.flatMap fun id => broughtBy id history

theorem broughtBy_append (id : StorageId) (history later : List Ending) :
    broughtBy id (history ++ later) = broughtBy id history ++ broughtBy id later :=
  List.flatMap_append

/-- A storage that was polled once has brought what it answered. -/
theorem broughtBy_of_mem {id : StorageId} {history : List Ending} {a : StorageAnswer}
    (hnodup : (history.map Prod.fst).Nodup) (hmem : (id, a) ∈ history) :
    broughtBy id history = a.delivered := by
  induction history with
  | nil => exact absurd hmem List.not_mem_nil
  | cons e history ih =>
    obtain ⟨hfresh, hnodup⟩ := List.nodup_cons.mp hnodup
    rw [broughtBy, List.flatMap_cons]
    rcases List.mem_cons.mp hmem with rfl | hrest
    · rw [if_pos rfl]
      -- no later poll was of this storage
      refine List.append_right_eq_self.mpr (List.flatMap_eq_nil_iff.mpr fun e he => ?_)
      have hlater : e.1 ∈ history.map Prod.fst := List.mem_map_of_mem he
      refine if_neg fun heq => hfresh ?_
      rwa [heq] at hlater
    · have hlater : id ∈ history.map Prod.fst := List.mem_map_of_mem hrest
      have hne : ¬e.1 = id := fun heq => hfresh (heq ▸ hlater)
      rw [if_neg hne, List.nil_append]
      exact ih hnodup hrest

/-- Nothing was brought exactly if nothing was brought before and nothing later. -/
theorem broughtByAll_append_eq_nil_iff {ids : List StorageId} {history later : List Ending} :
    broughtByAll ids (history ++ later) = [] ↔
      broughtByAll ids history = [] ∧ broughtByAll ids later = [] := by
  simp only [broughtByAll, List.flatMap_eq_nil_iff, broughtBy_append, List.append_eq_nil_iff]
  exact forall₂_and

theorem failuresOf_append (history later : List Ending) :
    failuresOf (history ++ later) = failuresOf history ++ failuresOf later :=
  List.filterMap_append

/-- The failures are those of the polls that have failed. -/
theorem mem_failuresOf_iff {history : List Ending} {id : StorageId} {e : Error} :
    (id, e) ∈ failuresOf history ↔ (id, .error e) ∈ history := by
  unfold failuresOf
  rw [List.mem_filterMap]
  constructor
  · rintro ⟨⟨id', a⟩, hmem, heq⟩
    cases a with
    | ok reply => exact absurd heq (Option.some_ne_none _).symm
    | error e' =>
      obtain ⟨rfl, rfl⟩ := Prod.mk.inj (Option.some.inj heq)
      exact hmem
  · exact fun hmem => ⟨(id, .error e), hmem, rfl⟩

/-- A storage that has failed so often was polled at least so often. -/
theorem ids_failuresOf_sublist (history : List Ending) :
    ((failuresOf history).map Prod.fst).Sublist (history.map Prod.fst) := by
  induction history with
  | nil => exact List.Sublist.refl _
  | cons e history ih =>
    obtain ⟨id, a⟩ := e
    cases a with
    | ok reply => exact ih.cons _
    | error e => exact ih.cons_cons id

namespace Call

/-- How the poll of a storage has ended, if it has. -/
def ending (id : StorageId) (c : Call) : List Ending := (c.answer?.map fun a => (id, a)).toList

/-- How the polls of a round have ended, when all of them have. -/
def endings (parts : List (StorageId × Call)) : List Ending := (answers? parts).getD []

/-- A poll that has ended has one end. -/
theorem ending_of_answer? {id : StorageId} {c : Call} {a : StorageAnswer}
    (h : c.answer? = some a) : c.ending id = [(id, a)] := by
  rw [ending, h]
  rfl

/-- A poll that waits has not ended. -/
theorem ending_of_waiting {id : StorageId} {c : Call} (h : c.answer? = none) :
    c.ending id = [] := by
  rw [ending, h]
  rfl

end Call

/-- How the polls end with which members enter a race. -/
def Race.endingsOfEnter (spans : List LogSpan) : List Member → Race → World → List Ending
  | [], _, _ => []
  | m :: rest, r, w =>
    let (w, c) := m.start spans (.poll r.merge.locator r.merge.max r.merge.wait) w
    let r := r.take m.id c
    c.ending m.id ++ if r.winner.isSome then [] else endingsOfEnter spans rest r w

/-- How the polls end that have their turn in a race. -/
def Call.endingsOfRace (spans : List LogSpan) :
    List (StorageId × Call) → Race → World → List Ending
  | [], _, _ => []
  | (id, c) :: rest, r, w =>
    if r.winner.isSome then []
    else
      let (w, c) := c.resume spans w
      c.ending id ++ endingsOfRace spans rest (r.take id c) w

namespace PollMerge

/-- How the polls of the last round end that have nothing to wait for. -/
def endingsAfterRace (members : List Member) (spans : List LogSpan) (r : Race) (w : World) :
    List Ending :=
  match r.winner with
  | some winner =>
    let others := (membersNamed members r.merge.healthy).filter (·.id ≠ winner)
    Call.endings (startAll others spans r.merge.quickPoll (Call.dropAll r.pending w)).2
  | none => []

/-- How the polls of the first round have ended, and those of later rounds that have nothing to wait
for. -/
def endingsAfterSweep (p : PollMerge) (members : List Member) (spans : List LogSpan)
    (parts : List (StorageId × Call)) (w : World) : List Ending :=
  match Call.answers? parts with
  | none => []
  | some answers =>
    answers ++
      if (p.takeSweep answers).mustRace then
        let named := membersNamed members (p.takeSweep answers).healthy
        let r : Race := ⟨p.takeSweep answers, [], none⟩
        let (w', r') := Race.enter spans named r w
        Race.endingsOfEnter spans named r w ++ endingsAfterRace members spans r' w'
      else []

end PollMerge

/-- How the polls of storages end in one step of a merged poll. -/
def Call.endingsOfResume (spans : List LogSpan) : Call → World → List Ending
  | .merging .sweeping p parts, w =>
    let (w, parts) := Call.resumeAll spans parts w
    p.endingsAfterSweep (Storage.members p.members) spans parts w
  | .merging .racing p parts, w =>
    let (w', r) := Call.resumeRace spans parts ⟨p, [], none⟩ w
    Call.endingsOfRace spans parts ⟨p, [], none⟩ w ++
      PollMerge.endingsAfterRace (Storage.members p.members) spans r w'
  | .merging .closing _ parts, w => Call.endings (Call.resumeAll spans parts w).2
  | _, _ => []

namespace Storage

/-- The members of a multiplexer that can be polled. -/
def pollable (children : List (StorageId × Storage)) : List Member :=
  (members children).filter fun m => m.storage.has .pubsub

/-- A merged poll that has not begun. -/
def unasked (children : List (StorageId × Storage)) (locator : Locator) (max : Nat)
    (wait : Duration) : PollMerge :=
  let named := (pollable children).map fun m => (m.id, m.storage)
  ⟨locator, max, wait, named, named, ∅, []⟩

/-- How the polls of storages end with which a merged poll begins. -/
def endingsOfStart (children : List (StorageId × Storage)) (locator : Locator) (max : Nat)
    (wait : Duration) (spans : List LogSpan) (w : World) : List Ending :=
  let p := unasked children locator max wait
  let (w, parts) := startAll (pollable children) spans p.quickPoll w
  p.endingsAfterSweep (pollable children) spans parts w

end Storage

/-- A merged poll has come to a call, and polls of storages have ended as the history lists. Each
step meets a world of its own, so anything may have happened in between. -/
inductive MergedPoll (children : List (StorageId × Storage)) (locator : Locator) (max : Nat)
    (wait : Duration) : List Ending → Call → Prop
  /-- The poll starts. -/
  | start (spans : List LogSpan) (w : World) :
    MergedPoll children locator max wait
      (Storage.endingsOfStart children locator max wait spans w)
      ((Storage.multiplexer children).start spans (.poll locator max wait) w).2
  /-- The poll runs on until it waits again or returns. -/
  | resume {history : List Ending} {c : Call} (spans : List LogSpan) (w : World)
    (h : MergedPoll children locator max wait history c) :
    MergedPoll children locator max wait (history ++ c.endingsOfResume spans w)
      (c.resume spans w).2

end LongPoll
