import Mathlib.Data.List.Count
import Mathlib.Data.List.Nodup
import LongPoll.Storage.Call
/-!
# Keeping books about polls

Books follow the copies of one message that are meant for one consumer through several storages:
how many of them are pending in each storage, and which calls are polls in progress there. Storages
keep the books (`Books.Kept`) if their polls are safe to drop:

* a poll takes off what is pending in its storage exactly what it answers with, and nothing as long
  as it waits;
* a waiting poll that is dropped takes nothing off;
* a poll of one storage leaves the others alone.

From this follows the same for lists of polls at different storages, be they started, resumed or
dropped one after the other (`Books.Kept.startAll`, `Books.Kept.resumeAll`, `Books.Kept.dropAll`).
-/

namespace LongPoll

namespace Storage

/-- The members of a multiplexer are its storages, which start their own operations. -/
theorem members_eq_map (children : List (StorageId × Storage)) :
    members children = children.map fun (id, s) => ⟨id, s, s.start⟩ := by
  induction children with
  | nil => rw [members, List.map_nil]
  | cons child children ih =>
    obtain ⟨id, s⟩ := child
    rw [members, ih, List.map_cons]

/-- Members have the names of their storages. -/
theorem ids_members (children : List (StorageId × Storage)) :
    (members children).map Member.id = children.map Prod.fst := by
  rw [members_eq_map, List.map_map]
  rfl

/-- A member starts operations as its storage does. -/
theorem start_of_mem_members {children : List (StorageId × Storage)} {m : Member}
    (h : m ∈ members children) : m.start = m.storage.start := by
  rw [members_eq_map] at h
  obtain ⟨child, -, rfl⟩ := List.mem_map.mp h
  rfl

/-- The members of a multiplexer can be told from their names and storages. -/
theorem members_map_of_subset {children : List (StorageId × Storage)} {some : List Member}
    (hsub : some ⊆ members children) : members (some.map fun m => (m.id, m.storage)) = some := by
  rw [members_eq_map, List.map_map]
  refine (List.map_congr_left fun m hm => ?_).trans (List.map_id some)
  have hmem := hsub hm
  rw [members_eq_map] at hmem
  obtain ⟨child, -, rfl⟩ := List.mem_map.mp hmem
  rfl

end Storage

/-- The messages that an answer hands out. -/
def StorageAnswer.delivered : StorageAnswer → List Message
  | .ok reply => reply.delivered
  | .error _ => []

namespace Call

/-- The messages that a call has handed out. -/
def handedOut (c : Call) : List Message :=
  match c.answer? with
  | some a => StorageAnswer.delivered a
  | none => []

/-- A call that has an answer has ended with it. -/
theorem eq_settled_of_answer? {c : Call} {a : StorageAnswer} (h : c.answer? = some a) :
    c = .settled a := by
  cases c with
  | settled a' => exact congrArg settled (Option.some.inj h)
  | _ => exact absurd h (Option.some_ne_none a).symm

/-- A call that has ended has handed out what its answer holds. -/
theorem handedOut_of_answer? {c : Call} {a : StorageAnswer} (h : c.answer? = some a) :
    c.handedOut = StorageAnswer.delivered a := by
  rw [handedOut, h]

theorem handedOut_of_waiting {c : Call} (h : c.answer? = none) : c.handedOut = [] := by
  rw [handedOut, h]

/-- Calls run on one after the other. -/
theorem resumeAll_cons (spans : List LogSpan) (id : StorageId) (c : Call)
    (parts : List (StorageId × Call)) (w : World) : resumeAll spans ((id, c) :: parts) w =
      ((resumeAll spans parts (c.resume spans w).1).1,
        (id, (c.resume spans w).2) :: (resumeAll spans parts (c.resume spans w).1).2) := by
  rw [resumeAll]

/-- Calls keep their names when they run on. -/
theorem ids_resumeAll (spans : List LogSpan) (parts : List (StorageId × Call)) (w : World) :
    (resumeAll spans parts w).2.map Prod.fst = parts.map Prod.fst := by
  induction parts generalizing w with
  | nil => rw [resumeAll]
  | cons part parts ih =>
    obtain ⟨id, c⟩ := part
    rw [resumeAll_cons, List.map_cons, List.map_cons, ih]

/-- The answers have the names of their calls. -/
theorem ids_answers? {parts : List (StorageId × Call)}
    {answers : List (StorageId × StorageAnswer)} (h : answers? parts = some answers) :
    answers.map Prod.fst = parts.map Prod.fst := by
  induction parts generalizing answers with
  | nil =>
    obtain rfl := Option.some.inj h
    rfl
  | cons part parts ih =>
    obtain ⟨id, c⟩ := part
    rw [answers?] at h
    split at h
    next a as ha has =>
      obtain rfl := Option.some.inj h
      rw [List.map_cons, List.map_cons, ih has]
    next => exact absurd h (Option.some_ne_none _).symm

/-- The messages that the calls under a name have handed out. -/
def handedOutBy (id : StorageId) (parts : List (StorageId × Call)) : List Message :=
  parts.flatMap fun part => if part.1 = id then part.2.handedOut else []

theorem handedOutBy_cons (id : StorageId) (part : StorageId × Call)
    (parts : List (StorageId × Call)) : handedOutBy id (part :: parts) =
      (if part.1 = id then part.2.handedOut else []) ++ handedOutBy id parts := rfl

/-- Calls that wait have handed out nothing under any name. -/
theorem handedOutBy_of_waiting {id : StorageId} {parts : List (StorageId × Call)}
    (h : ∀ part ∈ parts, part.2.answer? = none) : handedOutBy id parts = [] := by
  refine List.flatMap_eq_nil_iff.mpr fun part hpart => ?_
  rw [handedOut_of_waiting (h part hpart), ite_self]

end Call

theorem startAll_cons (m : Member) (members : List Member) (spans : List LogSpan)
    (r : StorageRequest) (w : World) : startAll (m :: members) spans r w =
      ((startAll members spans r (m.start spans r w).1).1,
        (m.id, (m.start spans r w).2) :: (startAll members spans r (m.start spans r w).1).2) := rfl

/-- The calls of members have their names. -/
theorem ids_startAll (members : List Member) (spans : List LogSpan) (r : StorageRequest)
    (w : World) : (startAll members spans r w).2.map Prod.fst = members.map Member.id := by
  induction members generalizing w with
  | nil => rfl
  | cons m members ih => rw [startAll_cons, List.map_cons, List.map_cons, ih]

/-- Books about the copies of a message that are meant for a consumer. -/
structure Books where
  /-- The message. -/
  message : Message
  /-- The consumer. -/
  locator : Locator
  /-- The worlds of which the books are kept. -/
  good : World → Prop
  /-- The number of copies that are pending in a storage. -/
  pending : StorageId → World → Nat
  /-- Whether a call is a poll of the consumer that waits at a storage. -/
  polling : StorageId → Call → World → Prop

namespace Books

variable (k : Books)

/-- What happens concerns these storages only. -/
structure Passes (ids : List StorageId) (w w' : World) : Prop where
  /-- The books are kept. -/
  good : k.good w'
  /-- In the other storages the same is pending. -/
  pending_eq : ∀ id, id ∉ ids → k.pending id w' = k.pending id w
  /-- At the other storages the same polls wait. -/
  polling : ∀ id, id ∉ ids → ∀ c, k.polling id c w → k.polling id c w'

/-- A poll of a storage begins or goes on, and takes what it answers with. -/
structure Moves (id : StorageId) (w w' : World) (c : Call) : Prop where
  /-- It concerns no other storage. -/
  passes : k.Passes [id] w w'
  /-- What is no longer pending has been handed out. -/
  total : k.pending id w' + c.handedOut.count k.message = k.pending id w
  /-- Without an answer, the poll waits. -/
  waits : c.answer? = none → k.polling id c w'

/-- The books are kept by storages whose polls are safe to drop. -/
structure Kept (members : List Member) : Prop where
  /-- A poll starts. -/
  start : ∀ m ∈ members, ∀ spans max wait w, k.good w →
    k.Moves m.id w (m.start spans (.poll k.locator max wait) w).1
      (m.start spans (.poll k.locator max wait) w).2
  /-- A waiting poll goes on. -/
  resume : ∀ id c spans w, k.good w → k.polling id c w →
    k.Moves id w (c.resume spans w).1 (c.resume spans w).2
  /-- A waiting poll is dropped, and nothing that is pending is gone. -/
  drop : ∀ id c w, k.good w → k.polling id c w →
    k.Passes [id] w (c.drop w) ∧ k.pending id (c.drop w) = k.pending id w

variable {k}

namespace Passes

variable {ids ids' : List StorageId} {w w' w'' : World}

theorem refl (h : k.good w) : k.Passes ids w w := ⟨h, fun _ _ => rfl, fun _ _ _ hc => hc⟩

theorem mono (h : k.Passes ids w w') (hsub : ids ⊆ ids') : k.Passes ids' w w' where
  good := h.good
  pending_eq id hid := h.pending_eq id fun hmem => hid (hsub hmem)
  polling id hid := h.polling id fun hmem => hid (hsub hmem)

theorem trans (h : k.Passes ids w w') (h' : k.Passes ids w' w'') : k.Passes ids w w'' where
  good := h'.good
  pending_eq id hid := (h'.pending_eq id hid).trans (h.pending_eq id hid)
  polling id hid c hc := h'.polling id hid c (h.polling id hid c hc)

end Passes

/-- The calls are polls at different storages, each of which has ended or waits. -/
structure Underway (k : Books) (parts : List (StorageId × Call)) (w : World) : Prop where
  /-- No two polls are at the same storage. -/
  nodup : (parts.map Prod.fst).Nodup
  /-- Without an answer, a poll waits. -/
  waits : ∀ part ∈ parts, part.2.answer? = none → k.polling part.1 part.2 w

namespace Underway

variable {parts : List (StorageId × Call)} {part : StorageId × Call} {w w' : World}
  {ids : List StorageId}

theorem nil : k.Underway [] w := ⟨List.nodup_nil, fun _ h => absurd h List.not_mem_nil⟩

/-- Without the first one, the polls are still in progress. -/
theorem tail (h : k.Underway (part :: parts) w) : k.Underway parts w where
  nodup := (List.nodup_cons.mp h.nodup).2
  waits part' hpart := h.waits part' (List.mem_cons_of_mem part hpart)

/-- The other polls are at other storages than the first one. -/
theorem not_head (h : k.Underway (part :: parts) w) : ∀ part' ∈ parts, part'.1 ∉ [part.1] := by
  intro part' hpart hmem
  have hfst : part'.1 ∈ parts.map Prod.fst := List.mem_map_of_mem hpart
  rw [List.mem_singleton.mp hmem] at hfst
  exact (List.nodup_cons.mp h.nodup).1 hfst

/-- What happens at other storages changes nothing for the polls. -/
theorem passes (h : k.Underway parts w) (hpasses : k.Passes ids w w')
    (hids : ∀ part ∈ parts, part.1 ∉ ids) : k.Underway parts w' where
  nodup := h.nodup
  waits part hpart hnone := hpasses.polling _ (hids part hpart) _ (h.waits part hpart hnone)

/-- One more poll may be in progress at a storage of its own. -/
theorem cons (h : k.Underway parts w) (hnew : part.1 ∉ parts.map Prod.fst)
    (hwaits : part.2.answer? = none → k.polling part.1 part.2 w) :
    k.Underway (part :: parts) w where
  nodup := List.nodup_cons.mpr ⟨hnew, h.nodup⟩
  waits part' hpart := by
    rcases List.mem_cons.mp hpart with rfl | hrest
    · exact hwaits
    · exact h.waits part' hrest

end Underway

/-- Several polls have begun or gone on at different storages. -/
structure MovesAll (k : Books) (ids : List StorageId) (before : StorageId → List Message)
    (w w' : World) (parts : List (StorageId × Call)) : Prop where
  /-- The polls are at these storages. -/
  ids_eq : parts.map Prod.fst = ids
  /-- Only these storages are concerned. -/
  passes : k.Passes ids w w'
  /-- The polls have ended or wait. -/
  underway : k.Underway parts w'
  /-- What is no longer pending has been handed out. -/
  total : ∀ id, k.pending id w' + (Call.handedOutBy id parts).count k.message =
    k.pending id w + (before id).count k.message

/-- One poll has moved, and then those at other storages. -/
theorem MovesAll.cons {ids : List StorageId} {before : StorageId → List Message} {w w₁ w₂ : World}
    {parts : List (StorageId × Call)} {id₁ : StorageId} {c : Call} {held : List Message}
    (hfresh : id₁ ∉ ids) (hpasses : k.Passes [id₁] w w₁)
    (htotal : k.pending id₁ w₁ + c.handedOut.count k.message =
      k.pending id₁ w + held.count k.message)
    (hwaits : c.answer? = none → k.polling id₁ c w₁) (hrest : k.MovesAll ids before w₁ w₂ parts) :
    k.MovesAll (id₁ :: ids) (fun id => (if id₁ = id then held else []) ++ before id) w w₂
      ((id₁, c) :: parts) where
  ids_eq := congrArg (id₁ :: ·) hrest.ids_eq
  passes := (hpasses.mono (by simp)).trans (hrest.passes.mono (by simp))
  underway := hrest.underway.cons (hrest.ids_eq ▸ hfresh) fun hnone =>
    hrest.passes.polling _ hfresh _ (hwaits hnone)
  total id := by
    -- the later polls balance their books from where the first one has left them
    have hothers := hrest.total id
    rw [Call.handedOutBy_cons, List.count_append, List.count_append]
    dsimp only
    by_cases hid : id₁ = id
    · -- the later polls are at other storages, where nothing of this one is counted
      subst hid
      rw [if_pos rfl, if_pos rfl]
      omega
    · have hone := hpasses.pending_eq id fun hmem => hid (List.mem_singleton.mp hmem).symm
      rw [if_neg hid, if_neg hid, List.count_nil]
      omega

namespace Kept

variable {all members : List Member} {parts : List (StorageId × Call)} {w : World}
  (h : k.Kept all)

include h

/-- Polls start at different storages, one after the other. -/
theorem startAll (hsub : members ⊆ all) (hnodup : (members.map Member.id).Nodup)
    (hgood : k.good w) (spans : List LogSpan) (max : Nat) (wait : Duration) :
    k.MovesAll (members.map Member.id) (fun _ => []) w
      (LongPoll.startAll members spans (.poll k.locator max wait) w).1
      (LongPoll.startAll members spans (.poll k.locator max wait) w).2 := by
  induction members generalizing w with
  | nil => exact ⟨rfl, .refl hgood, .nil, fun id => rfl⟩
  | cons m members ih =>
    obtain ⟨hfresh, hrest⟩ := List.nodup_cons.mp hnodup
    have hfirst := h.start m (hsub List.mem_cons_self) spans max wait w hgood
    have htail := ih (fun m' hm' => hsub (List.mem_cons_of_mem m hm')) hrest hfirst.passes.good
    have htotal : k.pending m.id (m.start spans (.poll k.locator max wait) w).1 +
        (m.start spans (.poll k.locator max wait) w).2.handedOut.count k.message =
          k.pending m.id w + [].count k.message := hfirst.total
    rw [startAll_cons]
    -- a poll that starts has nothing on its hands before
    simpa using MovesAll.cons hfresh hfirst.passes htotal hfirst.waits htail

/-- A poll that has ended or waits is run. -/
theorem resumeOne {id : StorageId} {c : Call} (hgood : k.good w)
    (hwaits : c.answer? = none → k.polling id c w) (spans : List LogSpan) :
    k.Passes [id] w (c.resume spans w).1 ∧
      k.pending id (c.resume spans w).1 + (c.resume spans w).2.handedOut.count k.message =
        k.pending id w + c.handedOut.count k.message ∧
      ((c.resume spans w).2.answer? = none → k.polling id (c.resume spans w).2
        (c.resume spans w).1) := by
  -- only a poll that waits has a next step
  cases hanswer : c.answer? with
  | none =>
    have hmoves := h.resume id c spans w hgood (hwaits hanswer)
    refine ⟨hmoves.passes, ?_, hmoves.waits⟩
    rw [Call.handedOut_of_waiting hanswer]
    exact hmoves.total
  | some a =>
    obtain rfl := Call.eq_settled_of_answer? hanswer
    rw [Call.resume]
    -- a poll that has ended is left as it is, with its answer on its hands
    exact ⟨.refl hgood, rfl, fun hnone => absurd hnone (Option.some_ne_none a)⟩

/-- Polls at different storages are run, one after the other. -/
theorem resumeAll (hunderway : k.Underway parts w) (hgood : k.good w) (spans : List LogSpan) :
    k.MovesAll (parts.map Prod.fst) (fun id => Call.handedOutBy id parts) w
      (Call.resumeAll spans parts w).1 (Call.resumeAll spans parts w).2 := by
  induction parts generalizing w with
  | nil =>
    rw [Call.resumeAll]
    exact ⟨rfl, .refl hgood, .nil, fun id => rfl⟩
  | cons part parts ih =>
    obtain ⟨id₁, c⟩ := part
    obtain ⟨hfresh, hrest⟩ := List.nodup_cons.mp hunderway.nodup
    obtain ⟨hpasses, htotal, hwaits⟩ := h.resumeOne hgood
      (hunderway.waits (id₁, c) List.mem_cons_self) spans
    have htail := ih (hunderway.tail.passes hpasses hunderway.not_head) hpasses.good
    rw [Call.resumeAll_cons]
    exact MovesAll.cons hfresh hpasses htotal hwaits htail

/-- Polls at different storages are dropped, and nothing that is pending is gone. -/
theorem dropAll (hunderway : k.Underway parts w) (hgood : k.good w) :
    k.good (Call.dropAll parts w) ∧
      (∀ id, k.pending id (Call.dropAll parts w) = k.pending id w) := by
  induction parts generalizing w with
  | nil =>
    rw [Call.dropAll]
    exact ⟨hgood, fun id => rfl⟩
  | cons part parts ih =>
    obtain ⟨id₁, c⟩ := part
    obtain ⟨hfresh, hrest⟩ := List.nodup_cons.mp hunderway.nodup
    -- to drop a poll that has ended does nothing to the world
    have hfirst : k.Passes [id₁] w (c.drop w) ∧ k.pending id₁ (c.drop w) = k.pending id₁ w := by
      cases hanswer : c.answer? with
      | none => exact h.drop id₁ c w hgood (hunderway.waits (id₁, c) List.mem_cons_self hanswer)
      | some a =>
        obtain rfl := Call.eq_settled_of_answer? hanswer
        rw [Call.drop]
        exact ⟨.refl hgood, rfl⟩
    obtain ⟨hpasses, hsame⟩ := hfirst
    obtain ⟨hgood', htail⟩ := ih (hunderway.tail.passes hpasses hunderway.not_head) hpasses.good
    rw [Call.dropAll]
    refine ⟨hgood', fun id => (htail id).trans ?_⟩
    by_cases hid : id = id₁
    · rw [hid, hsame]
    · exact hpasses.pending_eq id fun hmem => hid (List.mem_singleton.mp hmem)

end Kept

end Books

end LongPoll
