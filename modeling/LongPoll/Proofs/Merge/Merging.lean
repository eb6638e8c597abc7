import LongPoll.Proofs.Merge.Books
/-!
# The books of a merged poll

A poll of several storages passes through three phases, and the poll of each storage in turn may
begin, go on and be dropped in any of them. What a merged poll has on its hands
(`PollMerge.kept` and `Call.handedOutBy`) and what is pending in the storages is together always
what was owed: `Books.Holding` says so of a merged poll that waits, and `Books.Running` of one in
the middle of its race. All ways on keep this (`Books.Kept.accounts_start`,
`Books.Kept.accounts_resume`).
-/

namespace LongPoll

namespace PollMerge

/-- The messages of a storage that a merged poll has taken in. -/
def kept (p : PollMerge) (id : StorageId) : List Message := (p.batches.get? id).getD []

/-- A merged poll takes nothing in that is empty. -/
def Filled (p : PollMerge) : Prop := ∀ id ms, p.batches.get? id = some ms → ms ≠ []

section Take

variable {p : PollMerge} {id : StorageId} {a : StorageAnswer}

/-- Nothing is taken in exactly if there is nothing of any storage. -/
theorem batches_isEmpty_iff (h : p.Filled) :
    p.batches.isEmpty = true ↔ ∀ id, p.kept id = [] := by
  rw [Table.isEmpty_iff]
  constructor
  · intro hnone id
    rw [kept, hnone id]
    rfl
  · intro hkept id
    cases hget : p.batches.get? id with
    | none => rfl
    | some ms =>
      have hnil := hkept id
      rw [kept, hget] at hnil
      exact absurd hnil (h id ms hget)

/-- An answer is taken in whole, or there is nothing to take in. -/
theorem take_cases (p : PollMerge) (id : StorageId) (a : StorageAnswer) :
    (a.delivered = [] ∧ (p.take id a).batches = p.batches) ∨
      (a.delivered ≠ [] ∧ (p.take id a).batches = p.batches.insert id a.delivered) := by
  cases a with
  | error e => exact Or.inl ⟨rfl, rfl⟩
  | ok reply =>
    cases reply with
    | messages ms =>
      cases ms with
      | nil => exact Or.inl ⟨rfl, rfl⟩
      | cons m ms => exact Or.inr ⟨List.cons_ne_nil m ms, rfl⟩
    | _ => exact Or.inl ⟨rfl, rfl⟩

/-- What a storage answers is taken in under its name. -/
theorem kept_take (h : p.kept id = []) (id' : StorageId) :
    (p.take id a).kept id' = p.kept id' ++ if id = id' then a.delivered else [] := by
  rcases p.take_cases id a with ⟨hnil, hbatches⟩ | ⟨-, hbatches⟩
  · rw [kept, hbatches, hnil, ite_self, List.append_nil]
    rfl
  · rw [kept, hbatches, Table.get?_insert]
    by_cases hid : id = id'
    · subst hid
      rw [if_pos rfl, if_pos rfl, h]
      rfl
    · rw [if_neg hid, if_neg hid, List.append_nil]
      rfl

/-- Nothing that is empty is taken in. -/
theorem filled_take (h : p.Filled) : (p.take id a).Filled := by
  rcases p.take_cases id a with ⟨-, hbatches⟩ | ⟨hne, hbatches⟩
  · intro id' ms hget
    rw [hbatches] at hget
    exact h id' ms hget
  · intro id' ms hget
    rw [hbatches, Table.get?_insert] at hget
    split at hget
    · exact Option.some.inj hget ▸ hne
    · exact h id' ms hget

/-- Taking an answer in leaves alone what was asked for. -/
theorem take_frame (p : PollMerge) (id : StorageId) (a : StorageAnswer) :
    (p.take id a).locator = p.locator ∧ (p.take id a).members = p.members := by
  cases a with
  | error e => exact ⟨rfl, rfl⟩
  | ok reply =>
    cases reply with
    | messages ms => cases ms <;> exact ⟨rfl, rfl⟩
    | _ => exact ⟨rfl, rfl⟩

theorem takeAll_cons (p : PollMerge) (id : StorageId) (a : StorageAnswer)
    (answers : List (StorageId × StorageAnswer)) :
    p.takeAll ((id, a) :: answers) = (p.take id a).takeAll answers := rfl

/-- Taking in the answers of several calls leaves nothing on their hands. -/
theorem takeAll_spec (h : p.Filled) {parts : List (StorageId × Call)}
    (hnodup : (parts.map Prod.fst).Nodup) (hnew : ∀ part ∈ parts, p.kept part.1 = [])
    {answers : List (StorageId × StorageAnswer)} (hanswers : Call.answers? parts = some answers) :
    (∀ id, (p.takeAll answers).kept id = p.kept id ++ Call.handedOutBy id parts) ∧
      (p.takeAll answers).Filled ∧ (p.takeAll answers).locator = p.locator ∧
      (p.takeAll answers).members = p.members := by
  induction parts generalizing p answers with
  | nil =>
    obtain rfl := Option.some.inj hanswers
    exact ⟨fun id => (List.append_nil _).symm, h, rfl, rfl⟩
  | cons part parts ih =>
    obtain ⟨id₁, c⟩ := part
    obtain ⟨hfresh, hrest⟩ := List.nodup_cons.mp hnodup
    rw [Call.answers?] at hanswers
    split at hanswers
    next a as ha has =>
      obtain rfl := Option.some.inj hanswers
      -- each storage answers once, so nothing of it was taken in before
      have hfirst : p.kept id₁ = [] := hnew (id₁, c) List.mem_cons_self
      have hnew' : ∀ part ∈ parts, (p.take id₁ a).kept part.1 = [] := fun part hpart => by
        have hmem : part.1 ∈ parts.map Prod.fst := List.mem_map_of_mem hpart
        have hne : ¬id₁ = part.1 := fun heq => hfresh (heq ▸ hmem)
        rw [kept_take hfirst, if_neg hne, List.append_nil]
        exact hnew part (List.mem_cons_of_mem _ hpart)
      obtain ⟨hkept, hfilled, hlocator, hmembers⟩ := ih (filled_take h) hrest hnew' has
      rw [takeAll_cons]
      refine ⟨fun id => ?_, hfilled, hlocator.trans (p.take_frame id₁ a).1,
        hmembers.trans (p.take_frame id₁ a).2⟩
      rw [hkept, kept_take hfirst, Call.handedOutBy_cons, Call.handedOut_of_answer? ha,
        List.append_assoc]
    next => exact absurd hanswers (Option.some_ne_none _).symm

end Take

end PollMerge

namespace Books

/-- A merged poll waits: what is pending in the storages and what the poll has on its hands is
together what is owed. -/
structure Holding (k : Books) (all : List Member) (owed : StorageId → Nat) (phase : MergePhase)
    (p : PollMerge) (parts : List (StorageId × Call)) (w : World) : Prop where
  /-- The books are kept. -/
  good : k.good w
  /-- The polls of the storages have ended or wait. -/
  underway : k.Underway parts w
  /-- The poll is for the consumer of the books. -/
  locator_eq : p.locator = k.locator
  /-- The storages that take part keep the books. -/
  members_subset : Storage.members p.members ⊆ all
  /-- No storage takes part twice. -/
  members_nodup : ((Storage.members p.members).map Member.id).Nodup
  /-- Nothing that is empty was taken in. -/
  filled : p.Filled
  /-- What is owed is pending or on the hands of the poll. -/
  total : ∀ id, k.pending id w + (p.kept id ++ Call.handedOutBy id parts).count k.message = owed id
  /-- Before the race is won, nothing is taken in. -/
  before : phase ≠ .closing → p.batches.isEmpty = true
  /-- While the race lasts, no poll has ended. -/
  racing : phase = .racing → ∀ part ∈ parts, part.2.answer? = none
  /-- After the race is won, something is taken in. -/
  after : phase = .closing → p.batches.isEmpty = false

/-- The books about a merged poll, as long as it waits. -/
def Accounts (k : Books) (all : List Member) (owed : StorageId → Nat) (w : World) : Call → Prop
  | .settled _ => True
  | .merging phase p parts => k.Holding all owed phase p parts w
  | _ => False

/-- A merged poll is in the middle of its race, and the polls in `rest` have yet to have their
turn. -/
structure Running (k : Books) (all : List Member) (owed : StorageId → Nat) (r : Race)
    (rest : List (StorageId × Call)) (w : World) : Prop where
  /-- The books are kept. -/
  good : k.good w
  /-- The polls of the storages are at different ones. -/
  underway : k.Underway (r.pending ++ rest) w
  /-- All of them wait. -/
  waiting : ∀ part ∈ r.pending ++ rest, part.2.answer? = none
  /-- The poll is for the consumer of the books. -/
  locator_eq : r.merge.locator = k.locator
  /-- The storages that take part keep the books. -/
  members_subset : Storage.members r.merge.members ⊆ all
  /-- No storage takes part twice. -/
  members_nodup : ((Storage.members r.merge.members).map Member.id).Nodup
  /-- Nothing that is empty was taken in. -/
  filled : r.merge.Filled
  /-- What is owed is pending or taken in. -/
  total : ∀ id, k.pending id w + (r.merge.kept id).count k.message = owed id
  /-- The race is won as soon as something is taken in. -/
  winner_eq : r.winner.isSome = !r.merge.batches.isEmpty

section Perm

variable {k : Books} {parts parts' : List (StorageId × Call)} {w : World}

theorem Underway.perm (h : k.Underway parts w) (hperm : parts.Perm parts') :
    k.Underway parts' w where
  nodup := (hperm.map Prod.fst).nodup_iff.mp h.nodup
  waits part hpart := h.waits part (hperm.mem_iff.mpr hpart)

end Perm

section Race

variable {k : Books} {all : List Member} {owed : StorageId → Nat} {r : Race}
  {rest : List (StorageId × Call)} {w w' : World} {id : StorageId} {c : Call}

/-- As long as the race is open, nothing is taken in. -/
theorem Running.kept_eq_nil (h : k.Running all owed r rest w) (hopen : r.winner = none)
    (id : StorageId) : r.merge.kept id = [] := by
  have hempty : r.merge.batches.isEmpty = true := by
    have hwinner := h.winner_eq
    rw [hopen] at hwinner
    simpa using hwinner
  exact (PollMerge.batches_isEmpty_iff h.filled).mp hempty id

/-- The polls that have not moved are where they were. -/
theorem Running.underway_of_moves (h : k.Running all owed r rest w)
    (hnew : id ∉ (r.pending ++ rest).map Prod.fst) (hmoves : k.Moves id w w' c) :
    k.Underway (r.pending ++ rest) w' := by
  refine h.underway.passes hmoves.passes fun part hpart hmem => ?_
  exact hnew (List.mem_singleton.mp hmem ▸ List.mem_map_of_mem hpart)

/-- What a poll hands out while the race is open is gone from its storage, and from no other. -/
theorem Running.pending_of_moves (h : k.Running all owed r rest w) (hopen : r.winner = none)
    (hmoves : k.Moves id w w' c) (id' : StorageId) :
    k.pending id' w' + (if id = id' then c.handedOut else []).count k.message = owed id' := by
  have htotal := h.total id'
  rw [h.kept_eq_nil hopen, List.count_nil] at htotal
  by_cases hid : id = id'
  · subst hid
    have hmoved := hmoves.total
    rw [if_pos rfl]
    omega
  · have hsame := hmoves.passes.pending_eq id' fun hmem => hid (List.mem_singleton.mp hmem).symm
    rw [if_neg hid, List.count_nil]
    omega

/-- A poll that had to wait has had its turn in the race. -/
theorem Running.take (h : k.Running all owed r rest w) (hopen : r.winner = none)
    (hnew : id ∉ (r.pending ++ rest).map Prod.fst) (hmoves : k.Moves id w w' c) :
    k.Running all owed (r.take id c) rest w' := by
  have hkept := h.kept_eq_nil hopen
  have hunderway := h.underway_of_moves hnew hmoves
  have hpending := h.pending_of_moves hopen hmoves
  unfold Race.take
  cases hanswer : c.answer? with
  | none =>
    -- it goes on waiting, after those that have had their turn
    have hperm : ((id, c) :: (r.pending ++ rest)).Perm ((r.pending ++ [(id, c)]) ++ rest) := by
      rw [List.append_assoc]
      exact List.perm_middle.symm
    refine { h with good := hmoves.passes.good, underway := ?_, waiting := ?_, total := ?_ }
    · exact (hunderway.cons hnew fun hnone => hmoves.waits hnone).perm hperm
    · intro part hpart
      rcases List.mem_cons.mp (hperm.mem_iff.mpr hpart) with rfl | hold
      · exact hanswer
      · exact h.waiting part hold
    · intro id'
      have hcount := hpending id'
      rw [Call.handedOut_of_waiting hanswer, ite_self, List.count_nil] at hcount
      dsimp only
      rw [hkept, List.count_nil]
      exact hcount
  | some a =>
    -- it has ended, and wins the race if it has handed anything out
    obtain ⟨hlocator, hmembers⟩ := r.merge.take_frame id a
    refine ⟨hmoves.passes.good, hunderway, h.waiting, hlocator.trans h.locator_eq, ?_, ?_,
      PollMerge.filled_take h.filled, ?_, ?_⟩
    · rw [hmembers]
      exact h.members_subset
    · rw [hmembers]
      exact h.members_nodup
    · intro id'
      have hcount := hpending id'
      rw [Call.handedOut_of_answer? hanswer] at hcount
      rw [PollMerge.kept_take (hkept id), hkept, List.nil_append]
      exact hcount
    · dsimp only
      cases (r.merge.take id a).batches.isEmpty <;> rfl

end Race

namespace Kept

variable {k : Books} {all members : List Member} {owed : StorageId → Nat} {w : World}
  (h : k.Kept all)

include h

/-- The storages enter the race. -/
theorem enter {r : Race} (hrun : k.Running all owed r [] w) (hopen : r.winner = none)
    (hsub : members ⊆ all)
    (hnodup : (r.pending.map Prod.fst ++ members.map Member.id).Nodup) (spans : List LogSpan) :
    k.Running all owed (Race.enter spans members r w).2 [] (Race.enter spans members r w).1 := by
  induction members generalizing r w with
  | nil => exact hrun
  | cons m members ih =>
    have hnew : m.id ∉ (r.pending ++ []).map Prod.fst := by
      rw [List.append_nil]
      exact fun hmem => (List.nodup_append.mp hnodup).2.2 _ hmem _ List.mem_cons_self rfl
    have hmoves := h.start m (hsub List.mem_cons_self) spans r.merge.max r.merge.wait w hrun.good
    rw [← hrun.locator_eq] at hmoves
    have htake := hrun.take hopen hnew hmoves
    -- no poll is entered twice, whether this one is pending or has ended
    have hids : ((r.take m.id (m.start spans
        (.poll r.merge.locator r.merge.max r.merge.wait) w).2).pending.map Prod.fst ++
          members.map Member.id).Nodup := by
      unfold Race.take
      split
      · rw [List.map_append, List.append_assoc]
        exact hnodup
      · exact hnodup.sublist (List.Sublist.append_left (List.sublist_cons_self _ _) _)
    rw [Race.enter]
    dsimp only
    split
    next => exact htake
    next hnone =>
      exact ih htake (Option.not_isSome_iff_eq_none.mp hnone)
        (fun m' hm' => hsub (List.mem_cons_of_mem m hm')) hids

/-- The storages in the race have their turns. -/
theorem resumeRace {parts : List (StorageId × Call)} {r : Race}
    (hrun : k.Running all owed r parts w) (spans : List LogSpan) :
    k.Running all owed (Call.resumeRace spans parts r w).2 []
      (Call.resumeRace spans parts r w).1 := by
  induction parts generalizing r w with
  | nil =>
    rw [Call.resumeRace]
    exact hrun
  | cons part parts ih =>
    obtain ⟨id, c⟩ := part
    have hperm : (r.pending ++ (id, c) :: parts).Perm ((id, c) :: (r.pending ++ parts)) :=
      List.perm_middle
    have hahead := hrun.underway.perm hperm
    have hmem : (id, c) ∈ r.pending ++ (id, c) :: parts :=
      List.mem_append_right _ List.mem_cons_self
    rw [Call.resumeRace]
    split
    next =>
      -- the race is won, and the storage keeps waiting
      refine ih { hrun with underway := ?_, waiting := ?_ }
      · rw [List.append_assoc]
        exact hrun.underway
      · rw [List.append_assoc]
        exact hrun.waiting
    next hopen =>
      have hnone := hrun.waiting (id, c) hmem
      have hmoves := h.resume id c spans w hrun.good
        (hrun.underway.waits (id, c) hmem hnone)
      have hrest : k.Running all owed r parts w :=
        { hrun with
          underway := hahead.tail
          waiting := fun part hpart =>
            hrun.waiting part (hperm.mem_iff.mpr (List.mem_cons_of_mem _ hpart)) }
      exact ih (hrest.take (Option.not_isSome_iff_eq_none.mp hopen)
        (List.nodup_cons.mp hahead.nodup).1 hmoves)

end Kept

section Phases

variable {k : Books} {all members : List Member} {owed : StorageId → Nat} {p : PollMerge}
  {parts : List (StorageId × Call)} {w : World}

/-- The last round of asking goes on. -/
theorem Holding.afterClosing (hholding : k.Holding all owed .closing p parts w)
    (spans : List LogSpan) :
    k.Accounts all owed (p.afterClosing spans parts w).1 (p.afterClosing spans parts w).2 := by
  unfold PollMerge.afterClosing
  split
  · exact hholding
  · exact trivial

/-- When all storages have answered in the first round and none of them had anything, everything is
still pending, and the race is open. -/
theorem Holding.running_takeSweep (hholding : k.Holding all owed .sweeping p parts w)
    {answers : List (StorageId × StorageAnswer)} (hanswers : Call.answers? parts = some answers)
    (hempty : (p.takeSweep answers).batches.isEmpty = true) :
    k.Running all owed ⟨p.takeSweep answers, [], none⟩ [] w := by
  have hbefore := hholding.before (fun hphase => MergePhase.noConfusion hphase)
  have hkept := (PollMerge.batches_isEmpty_iff hholding.filled).mp hbefore
  obtain ⟨htaken, hfilled, hlocator, hmembers⟩ := PollMerge.takeAll_spec hholding.filled
    hholding.underway.nodup (fun part _ => hkept part.1) hanswers
  have hnothing : ∀ id, (p.takeSweep answers).kept id = [] :=
    (PollMerge.batches_isEmpty_iff hfilled).mp hempty
  -- what the parts have handed out has been taken in, and that is nothing
  have hhands : ∀ id, Call.handedOutBy id parts = [] := by
    intro id
    have hnil : (p.takeAll answers).kept id = [] := hnothing id
    rw [htaken, hkept, List.nil_append] at hnil
    exact hnil
  refine ⟨hholding.good, .nil, fun _ hpart => absurd hpart List.not_mem_nil,
    hlocator.trans hholding.locator_eq, ?_, ?_, hfilled, ?_, ?_⟩
  · rw [show (p.takeSweep answers).members = p.members from hmembers]
    exact hholding.members_subset
  · rw [show (p.takeSweep answers).members = p.members from hmembers]
    exact hholding.members_nodup
  · intro id
    have htotal := hholding.total id
    rw [hkept, hhands] at htotal
    rw [hnothing]
    exact htotal
  · rw [hempty]
    rfl

variable (h : k.Kept all) (hsub : members ⊆ all) (hnodup : (members.map Member.id).Nodup)

include h hsub hnodup

/-- The race goes on, or has been won. -/
theorem Running.afterRace {r : Race} (hrun : k.Running all owed r [] w) (spans : List LogSpan) :
    k.Accounts all owed (PollMerge.afterRace members spans r w).1
      (PollMerge.afterRace members spans r w).2 := by
  have hunderway : k.Underway r.pending w := by
    have hall := hrun.underway
    rwa [List.append_nil] at hall
  have hwinner := hrun.winner_eq
  unfold PollMerge.afterRace
  split
  next winner hsome =>
    rw [hsome] at hwinner
    -- the polls that have lost are dropped, and their storages are asked once more
    obtain ⟨hgood, hsame⟩ := h.dropAll hunderway hrun.good
    have hothers : ((membersNamed members r.merge.healthy).filter (·.id ≠ winner)).Sublist
        members := List.filter_sublist.trans List.filter_sublist
    have hmoves := h.startAll (fun m hm => hsub (hothers.subset hm))
      (hnodup.sublist (hothers.map Member.id)) hgood spans r.merge.max Duration.zero
    rw [← hrun.locator_eq] at hmoves
    refine Holding.afterClosing ⟨hmoves.passes.good, hmoves.underway, hrun.locator_eq,
      hrun.members_subset, hrun.members_nodup, hrun.filled, ?_, fun hphase => absurd rfl hphase,
      fun hphase => MergePhase.noConfusion hphase, ?_⟩ spans
    · intro id
      have htotal := hrun.total id
      have hmoved := hmoves.total id
      rw [List.count_nil, hsame] at hmoved
      rw [List.count_append]
      omega
    · intro _
      exact (Bool.not_eq_true' _).mp hwinner.symm
  next hnone =>
    rw [hnone] at hwinner
    -- nobody has won: either all polls have ended, or the rest of them wait
    split
    · exact trivial
    · refine ⟨hrun.good, hunderway, hrun.locator_eq, hrun.members_subset, hrun.members_nodup,
        hrun.filled, ?_, ?_, ?_, fun hphase => MergePhase.noConfusion hphase⟩
      · intro id
        have hwaiting : ∀ part ∈ r.pending, part.2.answer? = none := fun part hpart =>
          hrun.waiting part (List.mem_append_left _ hpart)
        rw [Call.handedOutBy_of_waiting hwaiting, List.append_nil]
        exact hrun.total id
      · intro _
        exact (Bool.not_eq_false' _).mp hwinner.symm
      · intro _ part hpart
        exact hrun.waiting part (List.mem_append_left _ hpart)

/-- The first round of asking goes on, or the race begins. -/
theorem Holding.afterSweep (hholding : k.Holding all owed .sweeping p parts w)
    (spans : List LogSpan) :
    k.Accounts all owed (p.afterSweep members spans parts w).1
      (p.afterSweep members spans parts w).2 := by
  unfold PollMerge.afterSweep
  split
  next => exact hholding
  next answers hanswers =>
    dsimp only
    split
    next hrace =>
      have hempty : (p.takeSweep answers).batches.isEmpty = true := by
        rw [PollMerge.mustRace, Bool.and_eq_true, Bool.and_eq_true] at hrace
        exact hrace.1.1
      -- those that race are some of those that were asked
      have hnamed : (membersNamed members (p.takeSweep answers).healthy).Sublist members :=
        List.filter_sublist
      have hentered := h.enter (hholding.running_takeSweep hanswers hempty) rfl
        (fun m hm => hsub (hnamed.subset hm)) (hnodup.sublist (hnamed.map Member.id)) spans
      exact Running.afterRace h hsub hnodup hentered spans
    next => exact trivial

end Phases

end Books

end LongPoll
