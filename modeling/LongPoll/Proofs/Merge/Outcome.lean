import LongPoll.Proofs.Engine.Visit
import LongPoll.Proofs.Merge.History
import LongPoll.Proofs.Merge.Merging
/-!
# What becomes of a merged poll

A merged poll holds what its history has brought: the messages of each storage, and the failures
(`PollMerge.Reflects`). The result is then a matter of the history alone
(`PollMerge.Reflects.outcome`), however the poll has come to its end.

While the poll waits, it is in one of three phases (`Stage`). What matters is that no poll is in
progress at a storage of which something is taken in already, or which has failed in the race, for
then nothing is overwritten and no failure is listed twice.
-/

namespace LongPoll

/-- The result of a merged poll of storages, by its history. -/
structure Outcome (ids : List StorageId) (history : List Ending) (a : StorageAnswer) : Prop where
  /-- Only these storages were polled. -/
  polled : ∀ e ∈ history, e.1 ∈ ids
  /-- If there are messages, the first ones of each name are returned. -/
  found : broughtByAll ids history ≠ [] →
    a = .ok (.messages ((broughtByAll ids history).eraseDupsBy Message.isNamesake))
  /-- If there are none, and nothing has failed, none are returned. -/
  nothing : broughtByAll ids history = [] → failuresOf history = [] → a = .ok (.messages [])
  /-- If there are none, and something has failed, all failures are returned, no two of them of the
  same storage. -/
  failed : broughtByAll ids history = [] → failuresOf history ≠ [] →
    a = .error (.aggregate (failuresOf history)) ∧ ((failuresOf history).map Prod.fst).Nodup

namespace PollMerge

/-- The same storages take part after answers have been taken in. -/
theorem members_takeAll (p : PollMerge) (answers : List Ending) :
    (p.takeAll answers).members = p.members := by
  induction answers generalizing p with
  | nil => rfl
  | cons e answers ih =>
    obtain ⟨id, a⟩ := e
    rw [takeAll_cons, ih, (p.take_frame id a).2]

/-- A merged poll may wait as long as before. -/
theorem wait_takeAll (p : PollMerge) (answers : List Ending) :
    (p.takeAll answers).wait = p.wait := by
  induction answers generalizing p with
  | nil => rfl
  | cons e answers ih =>
    obtain ⟨id, a⟩ := e
    rw [takeAll_cons, ih]
    rcases a with e | reply
    · rfl
    · cases reply with
      | messages ms => cases ms <;> rfl
      | _ => rfl

/-- A success is no failure. -/
theorem failures_take_ok (p : PollMerge) (id : StorageId) (reply : StorageReply) :
    (p.take id (.ok reply)).failures = p.failures := by
  cases reply with
  | messages ms => cases ms <;> rfl
  | _ => rfl

/-- A merged poll holds what its history has brought. -/
structure Reflects (p : PollMerge) (history : List Ending) : Prop where
  /-- It has taken in the messages of each storage. -/
  kept : ∀ id, p.kept id = broughtBy id history
  /-- It has taken in nothing that is empty. -/
  filled : p.Filled
  /-- It has taken in the failures. -/
  failures : p.failures = failuresOf history
  /-- Only storages that take part were polled. -/
  polled : ∀ e ∈ history, e.1 ∈ p.members.map Prod.fst

namespace Reflects

variable {p : PollMerge} {history : List Ending} {id : StorageId} {a : StorageAnswer}

/-- An answer that is taken in enters into the history. -/
theorem take (h : p.Reflects history) (hnew : p.kept id = []) (hid : id ∈ p.members.map Prod.fst) :
    (p.take id a).Reflects (history ++ [(id, a)]) where
  kept id' := by
    rw [kept_take hnew, h.kept, broughtBy_append]
    simp [broughtBy]
  filled := filled_take h.filled
  failures := by
    rw [failuresOf_append, ← h.failures]
    cases a with
    | error e => rfl
    | ok reply =>
      -- only failures are written down as such
      have hnone : failuresOf [(id, .ok reply)] = [] := rfl
      rw [failures_take_ok, hnone, List.append_nil]
  polled e he := by
    rw [(p.take_frame id a).2]
    rcases List.mem_append.mp he with hold | hnew
    · exact h.polled e hold
    · rw [List.mem_singleton.mp hnew]
      exact hid

/-- Each storage answers once in a round. -/
theorem takeAll {answers : List Ending} (h : p.Reflects history)
    (hnodup : (answers.map Prod.fst).Nodup) (hnew : ∀ id ∈ answers.map Prod.fst, p.kept id = [])
    (hids : ∀ id ∈ answers.map Prod.fst, id ∈ p.members.map Prod.fst) :
    (p.takeAll answers).Reflects (history ++ answers) := by
  induction answers generalizing p history with
  | nil =>
    rw [List.append_nil]
    exact h
  | cons e answers ih =>
    obtain ⟨id, a⟩ := e
    obtain ⟨hfresh, hrest⟩ := List.nodup_cons.mp hnodup
    rw [takeAll_cons, ← List.singleton_append, ← List.append_assoc]
    -- the first answer is taken in, and the others come from other storages
    refine ih (h.take (hnew id List.mem_cons_self) (hids id List.mem_cons_self)) hrest ?_ ?_
    · intro id' hid'
      have hne : ¬id = id' := fun heq => hfresh (heq ▸ hid')
      rw [kept_take (hnew id List.mem_cons_self), if_neg hne, List.append_nil]
      exact hnew id' (List.mem_cons_of_mem _ hid')
    · intro id' hid'
      rw [(p.take_frame id a).2]
      exact hids id' (List.mem_cons_of_mem _ hid')

/-- Messages are taken in exactly if the history has brought some. -/
theorem isEmpty_iff (h : p.Reflects history) :
    p.batches.isEmpty = true ↔ broughtByAll (p.members.map Prod.fst) history = [] := by
  rw [batches_isEmpty_iff h.filled, broughtByAll, List.flatMap_eq_nil_iff]
  constructor
  · exact fun hkept id _ => (h.kept id).symm.trans (hkept id)
  · intro hnothing id
    rw [h.kept]
    by_cases hid : id ∈ p.members.map Prod.fst
    · exact hnothing id hid
    · -- a storage that takes no part has not been polled
      refine List.flatMap_eq_nil_iff.mpr fun e he => if_neg fun heq => hid ?_
      exact heq ▸ h.polled e he

/-- The answer of a merged poll is the outcome of its history. -/
theorem outcome (h : p.Reflects history)
    (hnodup : p.batches.isEmpty = true → (p.failures.map Prod.fst).Nodup) :
    Outcome (p.members.map Prod.fst) history p.answer := by
  have hempty := h.isEmpty_iff
  refine ⟨h.polled, fun hfound => ?_, fun hnothing hnone => ?_, fun hnothing hsome => ?_⟩
  · have hmerged : p.merged = distinct [] (broughtByAll (p.members.map Prod.fst) history) := by
      rw [broughtByAll, List.flatMap_map]
      exact congrArg _ (List.flatMap_congr fun member _ => h.kept member.1)
    rw [answer, if_neg fun hbatches => hfound (hempty.mp hbatches), hmerged,
      distinct_eq_eraseDupsBy]
    simp
  · rw [answer, if_pos (hempty.mpr hnothing), h.failures, hnone]
    rfl
  · rw [answer, if_pos (hempty.mpr hnothing), h.failures]
    refine ⟨?_, h.failures ▸ hnodup (hempty.mpr hnothing)⟩
    rw [Error.join, if_neg (by simpa using hsome)]

end Reflects

end PollMerge

/-! ### Phases -/

/-- A merged poll waits. Only the names of the polls in progress matter, not how they stand. -/
structure Stage (members : List Member) (history : List Ending) (phase : MergePhase)
    (p : PollMerge) (ids : List StorageId) : Prop where
  /-- The poll holds what its history has brought. -/
  reflects : p.Reflects history
  /-- These members take part. -/
  members_eq : p.members = members.map fun m => (m.id, m.storage)
  /-- No two polls are at the same storage. -/
  nodup : ids.Nodup
  /-- The polls are at members. -/
  subset : ids ⊆ members.map Member.id
  /-- Nothing was taken in of a storage whose poll is in progress. -/
  fresh : ∀ id ∈ ids, p.kept id = []
  /-- In the first round, nothing has ended. -/
  sweeping : phase = .sweeping → history = []
  /-- In the race, nothing is taken in, and storages that have failed take no part any more. -/
  racing : phase = .racing →
    p.batches.isEmpty = true ∧ (p.failures.map Prod.fst ++ ids).Nodup
  /-- After the race something is taken in. -/
  closing : phase = .closing → p.batches.isEmpty = false

/-- Where a merged poll stands whose history is given. -/
def Advanced (members : List Member) (history : List Ending) : Call → Prop
  | .settled a => Outcome (members.map Member.id) history a
  | .merging phase p parts => Stage members history phase p (parts.map Prod.fst)
  | _ => False

/-- A merged poll is in the middle of its race, and the polls of the storages in `rest` have yet to
have their turn. -/
structure Race.Stands (r : Race) (members : List Member) (history : List Ending)
    (rest : List StorageId) : Prop where
  /-- The poll holds what its history has brought. -/
  reflects : r.merge.Reflects history
  /-- These members take part. -/
  members_eq : r.merge.members = members.map fun m => (m.id, m.storage)
  /-- The polls are at members. -/
  subset : r.pending.map Prod.fst ++ rest ⊆ members.map Member.id
  /-- A storage that has failed has had its turn. -/
  nodup : (r.merge.failures.map Prod.fst ++ (r.pending.map Prod.fst ++ rest)).Nodup
  /-- The race is won as soon as something is taken in. -/
  winner_eq : r.winner.isSome = !r.merge.batches.isEmpty
  /-- Only messages of the winner are taken in. -/
  kept_eq_nil : ∀ id, r.winner ≠ some id → r.merge.kept id = []

section Advance

variable {members : List Member} {history : List Ending} {p : PollMerge}
  {parts : List (StorageId × Call)} {w : World}

/-- The storages that take part have the names of the members. -/
theorem ids_eq (h : p.members = members.map fun m => (m.id, m.storage)) :
    p.members.map Prod.fst = members.map Member.id := by
  rw [h, List.map_map]
  rfl

/-- A merged poll that ends has the outcome of its history. -/
theorem PollMerge.Reflects.advanced_finish (h : p.Reflects history)
    (hmembers : p.members = members.map fun m => (m.id, m.storage))
    (hnodup : p.batches.isEmpty = true → (p.failures.map Prod.fst).Nodup) (spans : List LogSpan) :
    Advanced members history (p.finish spans w).2 := by
  have houtcome := h.outcome hnodup
  rwa [ids_eq hmembers] at houtcome

/-- When a round has ended, its answers are part of the history. -/
theorem Stage.reflects_takeAll {phase : MergePhase}
    (h : Stage members history phase p (parts.map Prod.fst)) {answers : List Ending}
    (hanswers : Call.answers? parts = some answers) :
    (p.takeAll answers).Reflects (history ++ answers) := by
  have hids := Call.ids_answers? hanswers
  refine h.reflects.takeAll (hids ▸ h.nodup) (hids ▸ h.fresh) fun id hid => ?_
  rw [ids_eq h.members_eq]
  exact h.subset (hids ▸ hid)

/-- The last round goes on. -/
theorem Stage.advanced_afterClosing (h : Stage members history .closing p (parts.map Prod.fst))
    (spans : List LogSpan) : Advanced members (history ++ Call.endings parts)
      (p.afterClosing spans parts w).2 := by
  unfold PollMerge.afterClosing Call.endings
  split
  next hnone =>
    rw [hnone, Option.getD_none, List.append_nil]
    exact h
  next answers hanswers =>
    rw [hanswers, Option.getD_some]
    have hreflects := h.reflects_takeAll hanswers
    have hmembers := (p.members_takeAll answers).trans h.members_eq
    refine hreflects.advanced_finish hmembers (fun hempty => ?_) spans
    -- what the winner has brought is still there, so the failures do not matter
    have hbrought : broughtByAll (p.members.map Prod.fst) history ≠ [] := fun hnil => by
      have hopen := h.closing rfl
      rw [h.reflects.isEmpty_iff.mpr hnil] at hopen
      exact Bool.noConfusion hopen
    rw [hreflects.isEmpty_iff, p.members_takeAll, broughtByAll_append_eq_nil_iff] at hempty
    exact absurd hempty.1 hbrought

/-- If nobody has to wait after the first round, the poll has its outcome. -/
theorem Stage.outcome_takeSweep (h : Stage members history .sweeping p (parts.map Prod.fst))
    {answers : List Ending} (hanswers : Call.answers? parts = some answers) :
    Outcome (members.map Member.id) (history ++ answers) (p.takeSweep answers).answer := by
  have hreflects := h.reflects_takeAll hanswers
  have hfailures := hreflects.failures
  rw [h.sweeping rfl, List.nil_append] at hfailures
  have houtcome := PollMerge.Reflects.outcome (p := p.takeSweep answers)
    ⟨hreflects.kept, hreflects.filled, hreflects.failures, hreflects.polled⟩ fun _ => by
      -- each storage has answered once
      show ((p.takeAll answers).failures.map Prod.fst).Nodup
      rw [hfailures]
      refine List.Nodup.sublist (ids_failuresOf_sublist answers) ?_
      rw [Call.ids_answers? hanswers]
      exact h.nodup
  rwa [show (p.takeSweep answers).members = p.members from p.members_takeAll answers,
    ids_eq h.members_eq] at houtcome

/-- The poll of a storage has had its turn in the race. -/
theorem Race.Stands.take {r : Race} {id : StorageId} {c : Call} {rest : List StorageId}
    (h : r.Stands members history (id :: rest)) (hopen : r.winner = none) :
    (r.take id c).Stands members (history ++ c.ending id) rest := by
  have hkept : ∀ id', r.merge.kept id' = [] := fun id' =>
    h.kept_eq_nil id' (by rw [hopen]; exact (Option.some_ne_none id').symm)
  have hid : id ∈ members.map Member.id := h.subset (by simp)
  unfold Race.take
  cases hanswer : c.answer? with
  | none =>
    -- the poll goes on waiting, after those that have had their turn
    rw [Call.ending_of_waiting hanswer, List.append_nil]
    refine { h with subset := ?_, nodup := ?_ }
    · rw [List.map_append, List.append_assoc]
      exact h.subset
    · rw [List.map_append, List.append_assoc]
      exact h.nodup
  | some a =>
    rw [Call.ending_of_answer? hanswer]
    have hframe := (r.merge.take_frame id a).2
    have hreflects := h.reflects.take (a := a) (hkept id) (by rwa [ids_eq h.members_eq])
    refine ⟨hreflects, hframe.trans h.members_eq, ?_, ?_, ?_, ?_⟩
    · intro id' hid'
      refine h.subset ?_
      rw [List.mem_append] at hid' ⊢
      exact hid'.imp_right (List.mem_cons_of_mem id)
    · -- a storage that fails moves from those that wait to those that have failed
      have hnodup := h.nodup
      have hswap : (r.pending.map Prod.fst ++ id :: rest).Perm
          (id :: (r.pending.map Prod.fst ++ rest)) := List.perm_middle
      cases a with
      | error e =>
        show ((r.merge.failures ++ [(id, e)]).map Prod.fst ++ _).Nodup
        rw [List.map_append, List.append_assoc]
        exact ((hswap.append_left _).nodup_iff).mp hnodup
      | ok reply =>
        rw [show (r.merge.take id (.ok reply)).failures = r.merge.failures from
          r.merge.failures_take_ok id reply]
        refine hnodup.sublist (List.Sublist.append_left ?_ _)
        exact List.Sublist.append_left (List.sublist_cons_self _ _) _
    · show (if (r.merge.take id a).batches.isEmpty then none else some id).isSome = _
      cases (r.merge.take id a).batches.isEmpty <;> rfl
    · intro id' hne
      rw [PollMerge.kept_take (hkept id), hkept, List.nil_append]
      refine ite_eq_right_iff.mpr fun heq => ?_
      subst heq
      -- had the poll brought anything, its storage were the winner
      by_contra hdelivered
      refine hne (if_neg fun hempty => hdelivered ?_)
      have hnil := (PollMerge.batches_isEmpty_iff hreflects.filled).mp hempty id
      rwa [PollMerge.kept_take (hkept id), if_pos rfl, hkept, List.nil_append] at hnil

/-- Storages that have not begun to race may be left out. -/
theorem Race.Stands.forget {r : Race} {rest : List StorageId} (h : r.Stands members history rest) :
    r.Stands members history [] := by
  have hsub : (r.pending.map Prod.fst ++ []).Sublist (r.pending.map Prod.fst ++ rest) :=
    List.Sublist.append_left (List.nil_sublist rest) _
  exact { h with
    subset := fun id hid => h.subset (hsub.subset hid)
    nodup := h.nodup.sublist (List.Sublist.append_left hsub _) }

/-- Members enter the race. -/
theorem Race.Stands.enter {r : Race} {entering : List Member}
    (h : r.Stands members history (entering.map Member.id)) (hopen : r.winner = none)
    (spans : List LogSpan) : (Race.enter spans entering r w).2.Stands members
      (history ++ Race.endingsOfEnter spans entering r w) [] := by
  induction entering generalizing r history w with
  | nil =>
    rw [Race.enter, Race.endingsOfEnter, List.append_nil]
    exact h
  | cons m entering ih =>
    -- who has won ends the race before the others enter
    have htake := h.take (c := (m.start spans
      (.poll r.merge.locator r.merge.max r.merge.wait) w).2) hopen
    rw [Race.enter, Race.endingsOfEnter, ← List.append_assoc]
    dsimp only
    split
    next =>
      rw [List.append_nil]
      exact htake.forget
    next hnone => exact ih htake (Option.not_isSome_iff_eq_none.mp hnone)

/-- When the race is won, no poll has its turn any more. -/
theorem Call.endingsOfRace_of_won {r : Race} (hwon : r.winner.isSome = true)
    (spans : List LogSpan) : Call.endingsOfRace spans parts r w = [] := by
  cases parts with
  | nil => rfl
  | cons part parts =>
    obtain ⟨id, c⟩ := part
    rw [Call.endingsOfRace, if_pos hwon]

/-- The polls in the race have their turns. -/
theorem Race.Stands.resumeRace {r : Race} (h : r.Stands members history (parts.map Prod.fst))
    (spans : List LogSpan) : (Call.resumeRace spans parts r w).2.Stands members
      (history ++ Call.endingsOfRace spans parts r w) [] := by
  induction parts generalizing r history w with
  | nil =>
    rw [Call.resumeRace, Call.endingsOfRace, List.append_nil]
    exact h
  | cons part parts ih =>
    obtain ⟨id, c⟩ := part
    rw [Call.resumeRace]
    split
    next hwon =>
      -- the race is won, and the poll keeps waiting
      have hrest : { r with pending := r.pending ++ [(id, c)] }.Stands members history
          (parts.map Prod.fst) := by
        refine { h with subset := ?_, nodup := ?_ }
        · rw [List.map_append, List.append_assoc]
          exact h.subset
        · rw [List.map_append, List.append_assoc]
          exact h.nodup
      have hlater := ih (w := w) hrest
      rw [Call.endingsOfRace_of_won (r := { r with pending := r.pending ++ [(id, c)] }) hwon]
        at hlater
      rw [Call.endingsOfRace_of_won hwon]
      exact hlater
    next hopen =>
      rw [Call.endingsOfRace, if_neg hopen, ← List.append_assoc]
      exact ih (h.take (Option.not_isSome_iff_eq_none.mp hopen))

variable (hnodup : (members.map Member.id).Nodup)

include hnodup

/-- The race goes on, or has been won. -/
theorem Race.Stands.advanced_afterRace {r : Race} (h : r.Stands members history [])
    (spans : List LogSpan) :
    Advanced members (history ++ PollMerge.endingsAfterRace members spans r w)
      (PollMerge.afterRace members spans r w).2 := by
  have hwinner := h.winner_eq
  have hids := h.nodup
  rw [List.append_nil] at hids
  unfold PollMerge.afterRace PollMerge.endingsAfterRace
  cases hwon : r.winner with
  | some winner =>
    rw [hwon] at hwinner
    have hothers : ((membersNamed members r.merge.healthy).filter (·.id ≠ winner)).Sublist
        members := List.filter_sublist.trans List.filter_sublist
    refine Stage.advanced_afterClosing ?_ spans
    rw [ids_startAll]
    refine ⟨h.reflects, h.members_eq, hnodup.sublist (hothers.map Member.id),
      (hothers.map Member.id).subset, ?_, nofun, nofun, fun _ => ?_⟩
    · intro id hid
      obtain ⟨m, hm, rfl⟩ := List.mem_map.mp hid
      have hne : m.id ≠ winner := by simpa using (List.mem_filter.mp hm).2
      refine h.kept_eq_nil _ fun heq => hne ?_
      rw [hwon] at heq
      exact (Option.some.inj heq).symm
    · exact (Bool.not_eq_true' _).mp hwinner.symm
  | none =>
    rw [hwon] at hwinner
    have hempty : r.merge.batches.isEmpty = true := (Bool.not_eq_false' _).mp hwinner.symm
    dsimp only
    rw [List.append_nil]
    -- nobody has won: either all polls have ended, or the rest of them wait
    split
    · exact h.reflects.advanced_finish h.members_eq
        (fun _ => (List.nodup_append.mp hids).1) spans
    · refine ⟨h.reflects, h.members_eq, (List.nodup_append.mp hids).2.1, fun id hid => ?_,
        fun id _ => ?_, nofun, fun _ => ⟨hempty, hids⟩, nofun⟩
      · exact h.subset (List.mem_append_left _ hid)
      · exact h.kept_eq_nil id (by rw [hwon]; exact (Option.some_ne_none id).symm)

omit hnodup in
/-- The polls in a race that goes on have yet to have their turns. -/
theorem Stage.stands (h : Stage members history .racing p (parts.map Prod.fst)) :
    Race.Stands ⟨p, [], none⟩ members history (parts.map Prod.fst) := by
  obtain ⟨hempty, hids⟩ := h.racing rfl
  refine ⟨h.reflects, h.members_eq, h.subset, hids, ?_, fun id _ => ?_⟩
  · rw [hempty]
    rfl
  · exact (PollMerge.batches_isEmpty_iff h.reflects.filled).mp hempty id

/-- When all members have answered in the first round and have to wait, those that have not failed
race. -/
theorem Stage.stands_takeSweep (h : Stage members history .sweeping p (parts.map Prod.fst))
    {answers : List Ending} (hanswers : Call.answers? parts = some answers)
    (hempty : (p.takeSweep answers).batches.isEmpty = true) :
    Race.Stands ⟨p.takeSweep answers, [], none⟩ members (history ++ answers)
      ((membersNamed members (p.takeSweep answers).healthy).map Member.id) := by
  have hreflects := h.reflects_takeAll hanswers
  -- nothing had failed before the first round
  have hfailures : (p.takeSweep answers).failures = failuresOf answers := by
    have heq := hreflects.failures
    rwa [h.sweeping rfl, List.nil_append] at heq
  have hnamed : (membersNamed members (p.takeSweep answers).healthy).Sublist members :=
    List.filter_sublist
  refine ⟨⟨hreflects.kept, hreflects.filled, hreflects.failures, hreflects.polled⟩,
    (p.members_takeAll answers).trans h.members_eq, (hnamed.map Member.id).subset, ?_, ?_,
    fun id _ => (PollMerge.batches_isEmpty_iff hreflects.filled).mp hempty id⟩
  · rw [hfailures]
    refine List.nodup_append.mpr ⟨?_, hnodup.sublist (hnamed.map Member.id), ?_⟩
    · refine List.Nodup.sublist (ids_failuresOf_sublist answers) ?_
      rw [Call.ids_answers? hanswers]
      exact h.nodup
    · -- a member that has failed is not among those that race
      rintro id hfailed id' hraces rfl
      obtain ⟨⟨_, e⟩, hmem, rfl⟩ := List.mem_map.mp hfailed
      obtain ⟨m, hm, heq⟩ := List.mem_map.mp hraces
      obtain ⟨named, hhealthy, hname⟩ := List.any_eq_true.mp (List.mem_filter.mp hm).2
      have hsound := (List.mem_filter.mp hhealthy).2
      rw [Bool.not_eq_true', List.any_eq_false] at hsound
      rw [← hfailures] at hmem
      refine hsound _ hmem ?_
      rw [decide_eq_true_eq] at hname ⊢
      exact (hname.trans heq).symm
  · rw [hempty]
    rfl

/-- The first round goes on, or the race begins. -/
theorem Stage.advanced_afterSweep (h : Stage members history .sweeping p (parts.map Prod.fst))
    (spans : List LogSpan) :
    Advanced members (history ++ p.endingsAfterSweep members spans parts w)
      (p.afterSweep members spans parts w).2 := by
  unfold PollMerge.afterSweep PollMerge.endingsAfterSweep
  cases hanswers : Call.answers? parts with
  | none =>
    rw [List.append_nil]
    exact h
  | some answers =>
    dsimp only
    rw [← List.append_assoc]
    split
    next hrace =>
      -- there is a race only if nothing was brought
      rw [PollMerge.mustRace, Bool.and_eq_true, Bool.and_eq_true] at hrace
      have hentered := (h.stands_takeSweep hnodup hanswers hrace.1.1).enter (w := w) rfl spans
      rw [← List.append_assoc]
      exact hentered.advanced_afterRace hnodup spans
    next =>
      rw [List.append_nil]
      exact h.outcome_takeSweep hanswers

/-- A merged poll runs on. -/
theorem Advanced.resume {c : Call} (h : Advanced members history c)
    (hmembers : Storage.members (members.map fun m => (m.id, m.storage)) = members)
    (spans : List LogSpan) :
    Advanced members (history ++ c.endingsOfResume spans w) (c.resume spans w).2 := by
  cases c with
  | settled a =>
    simp only [Call.resume, Call.endingsOfResume, List.append_nil]
    exact h
  | merging phase p parts =>
    -- the names of the parts stay the same while they run on
    have hstage : Stage members history phase p (parts.map Prod.fst) := h
    cases phase with
    | sweeping =>
      rw [Call.resume, Call.endingsOfResume]
      dsimp only
      rw [hstage.members_eq, hmembers]
      refine Stage.advanced_afterSweep hnodup ?_ spans
      rw [Call.ids_resumeAll]
      exact hstage
    | racing =>
      rw [Call.resume, Call.endingsOfResume]
      dsimp only
      rw [hstage.members_eq, hmembers, ← List.append_assoc]
      exact (hstage.stands.resumeRace spans).advanced_afterRace hnodup spans
    | closing =>
      rw [Call.resume, Call.endingsOfResume]
      refine Stage.advanced_afterClosing ?_ spans
      rw [Call.ids_resumeAll]
      exact hstage
  | _ => exact h.elim

end Advance

section Course

variable {children : List (StorageId × Storage)} {locator : Locator} {max : Nat} {wait : Duration}

/-- If several storages can be polled, one of them can. -/
theorem Storage.pollable_ne_nil (h : (Storage.multiplexer children).has .pubsub = true) :
    pollable children ≠ [] := by
  rw [Storage.has] at h
  induction children with
  | nil => exact Bool.noConfusion h
  | cons child children ih =>
    obtain ⟨id, s⟩ := child
    rw [Storage.anyHas, Bool.or_eq_true] at h
    rw [pollable, Storage.members, List.filter_cons]
    split
    next => exact List.cons_ne_nil _ _
    next hnot => exact ih (h.resolve_left hnot)

theorem Storage.pollable_sublist : (pollable children).Sublist (Storage.members children) :=
  List.filter_sublist

/-- No two storages that can be polled have the same name. -/
theorem Storage.nodup_pollable (h : (children.map Prod.fst).Nodup) :
    ((pollable children).map Member.id).Nodup := by
  refine List.Nodup.sublist (pollable_sublist.map Member.id) ?_
  rwa [Storage.ids_members]

/-- A poll of several storages begins by asking those that can be polled. -/
theorem startMultiplexer_poll (h : Storage.pollable children ≠ []) (locator : Locator) (max : Nat)
    (wait : Duration) (spans : List LogSpan) (w : World) :
    startMultiplexer (Storage.members children) spans (.poll locator max wait) w =
      (Storage.unasked children locator max wait).afterSweep (Storage.pollable children) spans
        (startAll (Storage.pollable children) spans
          (Storage.unasked children locator max wait).quickPoll w).2
        (startAll (Storage.pollable children) spans
          (Storage.unasked children locator max wait).quickPoll w).1 := by
  rw [startMultiplexer]
  dsimp only [StorageRequest.needs?]
  split
  next hnone => exact absurd hnone h
  next => rfl

/-- If nobody may wait and all answer at once, the first round is the last one. -/
theorem startMultiplexer_quickPoll (h : Storage.pollable children ≠ []) {locator : Locator}
    {max : Nat} {spans : List LogSpan} {w : World} {answers : List Ending}
    (hanswers : Call.answers? (startAll (Storage.pollable children) spans
      (.poll locator max Duration.zero) w).2 = some answers) :
    startMultiplexer (Storage.members children) spans (.poll locator max Duration.zero) w =
      ((Storage.unasked children locator max Duration.zero).takeSweep answers).finish spans
        (startAll (Storage.pollable children) spans (.poll locator max Duration.zero) w).1 := by
  have hend : ((Storage.unasked children locator max Duration.zero).takeSweep answers).mustRace =
      false := by
    rw [PollMerge.mustRace, show PollMerge.wait _ = Duration.zero from
      PollMerge.wait_takeAll _ answers]
    exact Bool.and_false _
  have hsweep : Call.answers? (startAll (Storage.pollable children) spans
      (Storage.unasked children locator max Duration.zero).quickPoll w).2 = some answers := hanswers
  rw [startMultiplexer_poll h, PollMerge.afterSweep]
  simp only [hsweep, hend, Bool.false_eq_true, if_false]
  rfl

/-- A publish goes to all storages that can be polled. -/
theorem startMultiplexer_publish (h : Storage.pollable children ≠ []) (message : Message)
    (spans : List LogSpan) (w : World) :
    startMultiplexer (Storage.members children) spans (.publish message) w =
      ((startAll (Storage.pollable children) spans (.publish message) w).1,
        gather (.publish message)
          (startAll (Storage.pollable children) spans (.publish message) w).2) := by
  unfold startMultiplexer
  dsimp only [StorageRequest.needs?]
  split
  next hnone => exact absurd hnone h
  next => rfl

/-- A merged poll begins with the first round, and has taken in nothing. -/
theorem stage_start (hnodup : (children.map Prod.fst).Nodup) (locator : Locator) (max : Nat)
    (wait : Duration) (spans : List LogSpan) (w : World) :
    Stage (Storage.pollable children) [] .sweeping (Storage.unasked children locator max wait)
      ((startAll (Storage.pollable children) spans
        (Storage.unasked children locator max wait).quickPoll w).2.map Prod.fst) := by
  rw [ids_startAll]
  exact ⟨⟨fun _ => rfl, nofun, rfl, nofun⟩, rfl, Storage.nodup_pollable hnodup,
    List.Subset.refl _, fun _ _ => rfl, fun _ => rfl, nofun, nofun⟩

/-- A merged poll starts. -/
theorem advanced_start (hnodup : (children.map Prod.fst).Nodup)
    (hpolled : (Storage.multiplexer children).has .pubsub = true) (spans : List LogSpan)
    (w : World) : Advanced (Storage.pollable children)
      (Storage.endingsOfStart children locator max wait spans w)
      ((Storage.multiplexer children).start spans (.poll locator max wait) w).2 := by
  rw [Storage.start, startMultiplexer_poll (Storage.pollable_ne_nil hpolled)]
  exact (stage_start hnodup locator max wait spans w).advanced_afterSweep
    (Storage.nodup_pollable hnodup) spans

/-- Every course of a merged poll is one of these stages. -/
theorem MergedPoll.advanced (hnodup : (children.map Prod.fst).Nodup)
    (hpolled : (Storage.multiplexer children).has .pubsub = true) {history : List Ending} {c : Call}
    (h : MergedPoll children locator max wait history c) :
    Advanced (Storage.pollable children) history c := by
  -- the storages that take part are fixed at the start, whatever worlds the steps meet
  induction h with
  | start spans w => exact advanced_start hnodup hpolled spans w
  | resume spans w h ih =>
    exact ih.resume (Storage.nodup_pollable hnodup)
      (Storage.members_map_of_subset Storage.pollable_sublist.subset) spans

end Course

/-- A merged poll that returns, of storages in the order of their names, returns what their polls
have brought in the order of the storages, and of the messages of one name the first. If they have
brought nothing, it returns nothing if none of them has failed, and otherwise the failures of all
that have failed, once each. -/
theorem merged_poll_outcome {children : List (StorageId × Storage)}
    (hsorted : (children.map Prod.fst).Pairwise fun id id' => id.text < id'.text)
    (hpolled : (Storage.multiplexer children).has .pubsub = true) {locator : Locator} {max : Nat}
    {wait : Duration} {history : List Ending} {a : StorageAnswer}
    (h : MergedPoll children locator max wait history (.settled a)) :
    (∀ e ∈ history, e.1 ∈ (Storage.pollable children).map Member.id) ∧
    (broughtByAll ((Storage.pollable children).map Member.id) history ≠ [] →
      ∃ ms, a = .ok (.messages ms) ∧
        ms = (broughtByAll ((Storage.pollable children).map Member.id) history).eraseDupsBy
          Message.isNamesake ∧
        (ms.map (·.id)).Nodup ∧
        ms.Sublist (broughtByAll ((Storage.pollable children).map Member.id) history) ∧
        ∀ m ∈ broughtByAll ((Storage.pollable children).map Member.id) history,
          m.id ∈ ms.map (·.id)) ∧
    (broughtByAll ((Storage.pollable children).map Member.id) history = [] →
      ((∀ id e, (id, .error e) ∉ history) → a = .ok (.messages [])) ∧
      ((∃ id e, (id, .error e) ∈ history) →
        ∃ failures, a = .error (.aggregate failures) ∧ (failures.map Prod.fst).Nodup ∧
          ∀ id e, (id, e) ∈ failures ↔ (id, .error e) ∈ history)) := by
  have hnodup : (children.map Prod.fst).Nodup := hsorted.imp fun hlt heq => by
    rw [heq] at hlt
    exact String.lt_irrefl _ hlt
  -- the invariant of the merge at its end is the outcome, up to how duplicates are removed
  obtain ⟨hasked, hfound, hnothing, hfailed⟩ := h.advanced hnodup hpolled
  refine ⟨hasked, fun hsome => ?_, fun hnone => ⟨fun hall => ?_, ?_⟩⟩
  · have hdistinct := PollMerge.distinct_eq_eraseDupsBy []
      (broughtByAll ((Storage.pollable children).map Member.id) history)
    rw [List.filter_eq_self.mpr (by simp)] at hdistinct
    refine ⟨_, hfound hsome, rfl, ?_, ?_, fun m hm => ?_⟩ <;> rw [← hdistinct]
    · exact PollMerge.nodup_ids_distinct _ _
    · exact PollMerge.distinct_sublist _ _
    · exact PollMerge.mem_ids_distinct_iff.mpr ⟨List.mem_map_of_mem hm, List.not_mem_nil⟩
  · refine hnothing hnone (List.eq_nil_iff_forall_not_mem.mpr fun e he => ?_)
    exact hall e.1 e.2 (mem_failuresOf_iff.mp he)
  · rintro ⟨id, e, he⟩
    have hmem := mem_failuresOf_iff.mpr he
    obtain ⟨hanswer, hnames⟩ := hfailed hnone (List.ne_nil_of_mem hmem)
    exact ⟨_, hanswer, hnames, fun id' e' => mem_failuresOf_iff⟩

namespace Sample

/-- A storage that is broken, one in memory, and one that answers polls as it likes. -/
def trio : List (StorageId × Storage) :=
  [(⟨"broken"⟩, .backend ⟨2, "broken", 0, true, false⟩),
    (⟨"quick"⟩, .backend ⟨0, "memory", 0, true, true⟩),
    (⟨"slow"⟩, .backend ⟨1, "slow", 0, true, false⟩)]

/-- Another message of the same name. -/
def namesake : Message := { greeting with content := ⟨#[104, 101, 121]⟩ }

/-- Nothing is in memory, and the last storage has messages only when it is asked for the third
time. -/
def trioWorld : World where
  clock := .clamp 0
  time := 0
  directory := ⟨.uniform (.seconds 60), false, 0, none⟩
  backends :=
    [.memory ⟨.default, .empty, none⟩,
      .scripted ⟨⟨[], [⟨none, .ok []⟩, ⟨some 1000, .ok []⟩,
        ⟨none, .ok [(namesake.id, namesake.content), (parting.id, parting.content)]⟩],
          [], [], [], [], []⟩, []⟩,
      .scripted ⟨⟨[], [⟨none, .error (.storage "down")⟩], [], [], [], [], []⟩, []⟩]
  nextTicket := 0
  nextMessage := 1
  filter := ⟨"off", []⟩
  filterEra := 0
  events := []

/-- A poll of all three that comes to wait. -/
def trioPoll : World × Call :=
  (Storage.multiplexer trio).start [] (.poll reader 5 (.seconds 5)) trioWorld

/-- A message is published to the storage in memory in the meantime. -/
def trioPublished : World :=
  ((Storage.backend ⟨0, "memory", 0, true, true⟩).start [] (.publish greeting) trioPoll.1).1

/-- How the polls of the three have ended. -/
def trioHistory : List Ending :=
  Storage.endingsOfStart trio reader 5 (.seconds 5) [] trioWorld ++
    trioPoll.2.endingsOfResume [] trioPublished

end Sample

/-- One storage fails, two bring messages, and of the two messages of one name the first is
returned. -/
theorem merged_poll_outcome_trio :
    (∃ ms, (Sample.trioPoll.2.resume [] Sample.trioPublished).2.answer? =
        some (.ok (.messages ms)) ∧ (ms.map (·.id)).Nodup) ∧
      (Sample.trioPoll.2.resume [] Sample.trioPublished).2.handedOut =
        [Sample.greeting, Sample.parting] ∧
      broughtByAll ((Storage.pollable Sample.trio).map Member.id) Sample.trioHistory =
        [Sample.greeting, Sample.namesake, Sample.parting] ∧
      (failuresOf Sample.trioHistory).map Prod.fst = [⟨"broken"⟩] := by
  have hbrought : broughtByAll ((Storage.pollable Sample.trio).map Member.id) Sample.trioHistory =
      [Sample.greeting, Sample.namesake, Sample.parting] := by decide +kernel
  have hcourse : MergedPoll Sample.trio Sample.reader 5 (.seconds 5) Sample.trioHistory
      (Sample.trioPoll.2.resume [] Sample.trioPublished).2 :=
    .resume [] Sample.trioPublished (.start [] Sample.trioWorld)
  obtain ⟨a, ha⟩ : ∃ a, (Sample.trioPoll.2.resume [] Sample.trioPublished).2.answer? = some a :=
    Option.isSome_iff_exists.mp (by decide +kernel)
  rw [Call.eq_settled_of_answer? ha] at hcourse
  obtain ⟨-, hfound, -⟩ := merged_poll_outcome (by decide +kernel) (by decide +kernel) hcourse
  obtain ⟨ms, rfl, -, hnodup, -⟩ := hfound (by rw [hbrought]; exact List.cons_ne_nil _ _)
  exact ⟨⟨ms, ha, hnodup⟩, by decide +kernel, hbrought, by decide +kernel⟩

end LongPoll
