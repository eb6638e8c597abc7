import LongPoll.Proofs.Storage.Leaves
/-!
# What all operations guarantee

Operations change the world through their backends, and write reports in between. So a relation that
holds between the worlds before and after every step of a backend and every report (`Guarantee`)
holds between the worlds before and after whatever a storage of any kind does: before and after it
starts an operation (`Guarantee.start`), and before and after a call runs on (`GuaranteeOn.resume`)
or is dropped (`GuaranteeOn.drop`). If backends guarantee the relation only in some operations, so
do storages (`GuaranteeOn`).
-/

namespace LongPoll

/-- The members of a multiplexer that take part in an operation. -/
def capableMembers (members : List Member) (r : StorageRequest) : List Member :=
  match r.needs? with
  | some c => members.filter fun m => m.storage.has c
  | none => members

/-- Those who take part in an operation are members. -/
theorem mem_of_mem_capableMembers {members : List Member} {r : StorageRequest} {m : Member}
    (h : m ∈ capableMembers members r) : m ∈ members := by
  unfold capableMembers at h
  split at h
  · exact (List.mem_filter.mp h).1
  · exact h

/-- Every step of a backend in the course of these operations, and every report, guarantees the
relation. -/
structure GuaranteeOn (P : StorageRequest → Prop) (R : World → World → Prop) : Prop where
  /-- To do nothing is within the guarantee. -/
  refl : ∀ w, R w w
  /-- Steps follow each other. -/
  trans : ∀ {w w' w''}, R w w' → R w' w'' → R w w''
  /-- Something is reported. -/
  report : ∀ w spans n, R w (w.report spans n)
  /-- Polls are among the operations, since a call that runs on may start some. -/
  polls : ∀ locator max wait, P (.poll locator max wait)
  /-- A backend starts an operation. -/
  backend : ∀ (b : Backend) spans r w, P r → R w (b.start spans r w).1
  /-- A poll of a memory engine runs on. -/
  polling : ∀ slot poll spans w, R w ((Call.polling slot poll).resume spans w).1
  /-- A poll of a memory engine is dropped. -/
  dropped : ∀ slot poll w, R w ((Call.polling slot poll).drop w)

/-- Every step of a backend and every report guarantees the relation. -/
abbrev Guarantee (R : World → World → Prop) : Prop := GuaranteeOn (fun _ => True) R

namespace GuaranteeOn

variable {P : StorageRequest → Prop} {R R' : World → World → Prop}

/-- Two relations that are guaranteed are so together. -/
theorem and (h : GuaranteeOn P R) (h' : GuaranteeOn P R') :
    GuaranteeOn P fun w w' => R w w' ∧ R' w w' where
  refl w := ⟨h.refl w, h'.refl w⟩
  trans hw hw' := ⟨h.trans hw.1 hw'.1, h'.trans hw.2 hw'.2⟩
  report w spans n := ⟨h.report w spans n, h'.report w spans n⟩
  polls := h.polls
  backend b spans r w hr := ⟨h.backend b spans r w hr, h'.backend b spans r w hr⟩
  polling slot poll spans w := ⟨h.polling slot poll spans w, h'.polling slot poll spans w⟩
  dropped slot poll w := ⟨h.dropped slot poll w, h'.dropped slot poll w⟩

variable (h : GuaranteeOn P R)

include h

/-- Several reports are within the guarantee. -/
theorem reportAll (w : World) (spans : List LogSpan) (ns : List Notice) :
    R w (w.reportAll spans ns) := by
  unfold World.reportAll
  induction ns generalizing w with
  | nil => exact h.refl w
  | cons n ns ih => exact h.trans (h.report w spans n) (ih _)

/-- The logging of a call is within the guarantee. -/
theorem observe (spans : List LogSpan) (c : Call) (w : World) :
    R w (LongPoll.observe spans c w).1 := by
  unfold LongPoll.observe
  split
  · exact h.refl w
  · exact h.report w spans _
  · exact h.report w spans _

/-- To drop a call is to drop the polls that wait in it. -/
theorem drop (c : Call) (w : World) : R w (c.drop w) := by
  induction c using Call.induct generalizing w with
  | settled a =>
    rw [Call.drop]
    exact h.refl w
  | sleeping wake a =>
    rw [Call.drop]
    exact h.refl w
  | polling slot poll => exact h.dropped slot poll w
  | observed spans inner ih =>
    rw [Call.drop]
    exact ih w
  | gathering r parts ih | merging phase p parts ih =>
    rw [Call.drop]
    -- the calls inside are dropped one after the other
    induction parts generalizing w with
    | nil =>
      rw [Call.dropAll]
      exact h.refl w
    | cons part parts ihparts =>
      rw [Call.dropAll]
      exact h.trans (ih part List.mem_cons_self w)
        (ihparts (fun part hpart => ih part (List.mem_cons_of_mem _ hpart)) _)

/-- To drop several calls is within the guarantee. -/
theorem dropAll (parts : List (StorageId × Call)) (w : World) : R w (Call.dropAll parts w) := by
  have hall := h.drop (.gathering .liveness parts) w
  rwa [Call.drop] at hall

section Members

variable {members : List Member}
  (hmembers : ∀ m ∈ members, ∀ spans r w, P r → R w (m.start spans r w).1)

include hmembers

/-- Members within the guarantee may start one after the other. -/
theorem startAll {r : StorageRequest} (hr : P r) (spans : List LogSpan) (w : World) :
    R w (LongPoll.startAll members spans r w).1 := by
  -- each member starts in the world that the one before has left
  induction members generalizing w with
  | nil => exact h.refl w
  | cons m members ih =>
    rw [startAll_cons]
    exact h.trans (hmembers m List.mem_cons_self spans r w hr)
      (ih (fun m' hm' => hmembers m' (List.mem_cons_of_mem m hm')) _)

/-- Members within the guarantee may enter a race. -/
theorem enter (spans : List LogSpan) (r : Race) (w : World) :
    R w (Race.enter spans members r w).1 := by
  induction members generalizing r w with
  | nil => exact h.refl w
  | cons m members ih =>
    rw [Race.enter]
    dsimp only
    have hfirst := hmembers m List.mem_cons_self spans
      (.poll r.merge.locator r.merge.max r.merge.wait) w (h.polls ..)
    split
    · -- this member has won, and the others are not asked
      exact hfirst
    · exact h.trans hfirst (ih (fun m' hm' => hmembers m' (List.mem_cons_of_mem m hm')) _ _)

omit hmembers in
/-- The end of the last round is within the guarantee, whether it comes or not. -/
theorem afterClosing (p : PollMerge) (spans : List LogSpan) (parts : List (StorageId × Call))
    (w : World) : R w (p.afterClosing spans parts w).1 := by
  unfold PollMerge.afterClosing
  split
  · exact h.refl w
  · exact h.reportAll w spans _

/-- The end of a race is within the guarantee, whether it comes or not. -/
theorem afterRace (spans : List LogSpan) (r : Race) (w : World) :
    R w (PollMerge.afterRace members spans r w).1 := by
  unfold PollMerge.afterRace
  split
  next winner _ =>
    -- those who have lost are dropped, and some members start once more
    refine h.trans (h.dropAll r.pending w) (h.trans (h.startAll (fun m hm => ?_) (h.polls ..) _ _)
      (h.afterClosing _ _ _ _))
    exact hmembers m (List.mem_filter.mp (List.mem_filter.mp hm).1).1
  next =>
    split
    · exact h.reportAll w spans _
    · exact h.refl w

/-- What follows on the first round is within the guarantee. -/
theorem afterSweep (p : PollMerge) (spans : List LogSpan) (parts : List (StorageId × Call))
    (w : World) : R w (p.afterSweep members spans parts w).1 := by
  unfold PollMerge.afterSweep
  split
  next => exact h.refl w
  next =>
    dsimp only
    split
    next =>
      -- those who have not failed race
      refine h.trans (h.enter (fun m hm => ?_) _ _ _) (h.afterRace hmembers _ _ _)
      exact hmembers m (List.mem_filter.mp hm).1
    next => exact h.reportAll w spans _

/-- A multiplexer of members within the guarantee is within it, too. -/
theorem startMultiplexer {r : StorageRequest} (hr : P r) (spans : List LogSpan) (w : World) :
    R w (LongPoll.startMultiplexer members spans r w).1 := by
  -- only polls are merged, and all other operations are started and gathered
  have hcapable : ∀ m ∈ capableMembers members r, ∀ spans r w, P r → R w (m.start spans r w).1 :=
    fun m hm => hmembers m (mem_of_mem_capableMembers hm)
  unfold LongPoll.startMultiplexer
  dsimp only
  split
  · exact h.refl w
  · split
    · exact h.trans (h.startAll hcapable (h.polls ..) _ _) (h.afterSweep hcapable _ _ _ _)
    · exact h.startAll hcapable hr _ _

end Members

/-- Every storage is within the guarantee when it starts an operation that the guarantee is about.
-/
theorem start (s : Storage) (spans : List LogSpan) {r : StorageRequest} (hr : P r) (w : World) :
    R w (s.start spans r w).1 := by
  induction s using Storage.induct generalizing spans r w with
  | backend b =>
    rw [Storage.start]
    exact h.backend b spans r w hr
  | multiplexer children ih =>
    rw [Storage.start]
    -- members are the storages inside
    refine h.startMultiplexer (fun m hm spans r w hr => ?_) hr spans w
    rw [Storage.members_eq_map] at hm
    obtain ⟨child, hchild, rfl⟩ := List.mem_map.mp hm
    exact ih child hchild spans hr w
  | decorated id inner ih =>
    rw [Storage.start]
    -- a request that is refused changes nothing
    unfold startDecorated
    split
    · split
      · exact h.trans (ih _ hr w) (h.observe _ _ _)
      · exact h.refl w
    · exact h.trans (ih _ hr w) (h.observe _ _ _)

/-- So is every member of a multiplexer. -/
theorem start_member {children : List (StorageId × Storage)} {m : Member}
    (hm : m ∈ Storage.members children) (spans : List LogSpan) {r : StorageRequest} (hr : P r)
    (w : World) : R w (m.start spans r w).1 := by
  rw [Storage.start_of_mem_members hm]
  exact h.start m.storage spans hr w

section Parts

variable {parts : List (StorageId × Call)}
  (hparts : ∀ part ∈ parts, ∀ spans w, R w (part.2.resume spans w).1)

include hparts

/-- Several calls may run on, if each of them stays within the guarantee. -/
theorem resumeAll (spans : List LogSpan) (w : World) : R w (Call.resumeAll spans parts w).1 := by
  induction parts generalizing w with
  | nil =>
    rw [Call.resumeAll]
    exact h.refl w
  | cons part parts ih =>
    obtain ⟨id, c⟩ := part
    rw [Call.resumeAll_cons]
    exact h.trans (hparts (id, c) List.mem_cons_self spans w)
      (ih (fun part hpart => hparts part (List.mem_cons_of_mem _ hpart)) _)

/-- The calls of a race may run on, if each of them stays within the guarantee. -/
theorem resumeRace (spans : List LogSpan) (r : Race) (w : World) :
    R w (Call.resumeRace spans parts r w).1 := by
  induction parts generalizing r w with
  | nil =>
    rw [Call.resumeRace]
    exact h.refl w
  | cons part parts ih =>
    obtain ⟨id, c⟩ := part
    have hrest := ih fun part hpart => hparts part (List.mem_cons_of_mem _ hpart)
    rw [Call.resumeRace]
    -- once the race is won, the rest wait
    split
    · exact hrest _ w
    · exact h.trans (hparts (id, c) List.mem_cons_self spans w) (hrest _ _)

end Parts

/-- Every call that runs on stays within the guarantee. -/
theorem resume (c : Call) (spans : List LogSpan) (w : World) : R w (c.resume spans w).1 := by
  induction c using Call.induct generalizing spans w with
  | settled a =>
    rw [Call.resume]
    exact h.refl w
  | sleeping wake a =>
    -- to wake up or to sleep on is no matter of the world
    rw [Call.resume]
    split <;> exact h.refl w
  | polling slot poll => exact h.polling slot poll spans w
  | observed inside inner ih =>
    rw [Call.resume]
    exact h.trans (ih inside w) (h.observe _ _ _)
  | gathering r parts ih =>
    rw [Call.resume]
    exact h.resumeAll ih spans w
  | merging phase p parts ih =>
    -- the next phase may start polls of any member
    have hmembers : ∀ m ∈ Storage.members p.members, ∀ spans r w,
        P r → R w (m.start spans r w).1 := fun m hm spans r w hr => h.start_member hm spans hr w
    cases phase with
    | sweeping =>
      rw [Call.resume]
      exact h.trans (h.resumeAll ih spans w) (h.afterSweep hmembers _ _ _ _)
    | racing =>
      rw [Call.resume]
      exact h.trans (h.resumeRace ih spans _ w) (h.afterRace hmembers _ _ _)
    | closing =>
      rw [Call.resume]
      exact h.trans (h.resumeAll ih spans w) (h.afterClosing _ _ _ _)

end GuaranteeOn

namespace Guarantee

variable {R : World → World → Prop} (h : Guarantee R)

include h

/-- A backend is within the guarantee, whatever it is asked for. -/
theorem backend (b : Backend) (spans : List LogSpan) (r : StorageRequest) (w : World) :
    R w (b.start spans r w).1 := GuaranteeOn.backend h b spans r w trivial

/-- Members within the guarantee may start any operation. -/
theorem startAll {members : List Member}
    (hmembers : ∀ m ∈ members, ∀ spans r w, R w (m.start spans r w).1) (spans : List LogSpan)
    (r : StorageRequest) (w : World) : R w (LongPoll.startAll members spans r w).1 :=
  GuaranteeOn.startAll h (fun m hm spans r w _ => hmembers m hm spans r w) trivial spans w

/-- Every storage is within the guarantee, whatever it is asked for. -/
theorem start (s : Storage) (spans : List LogSpan) (r : StorageRequest) (w : World) :
    R w (s.start spans r w).1 := GuaranteeOn.start h s spans trivial w

/-- So is every member of a multiplexer, whatever it is asked for. -/
theorem start_member {children : List (StorageId × Storage)} {m : Member}
    (hm : m ∈ Storage.members children) (spans : List LogSpan) (r : StorageRequest) (w : World) :
    R w (m.start spans r w).1 := GuaranteeOn.start_member h hm spans trivial w

end Guarantee

end LongPoll
