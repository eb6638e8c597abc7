import LongPoll.Proofs.Merge.Backends
import LongPoll.Proofs.Merge.Merging
/-!
# Dropping a merged poll

Somebody polls several storages as one, and drops the poll while it waits. In the meantime other
things have happened: messages have arrived, expired, or gone to other polls, in any order and
between any two steps of the poll (`Books.Course`). The storages are such that their own polls are
safe to drop (`Books.Kept`).

The merged poll is not safe to drop. It loses what it holds at that moment, and no more: what
storages have handed out that were quick to answer while the others had to be waited for. In the
race it holds nothing (`Books.Holding.holds_eq_nil`); afterwards it always holds what the winner has
handed out (`Books.Holding.exists_holds_ne_nil`).
-/

namespace LongPoll

/-- The messages of a storage that a poll has on its hands and has not returned. -/
def Call.holds (id : StorageId) : Call → List Message
  | .merging _ p parts => p.kept id ++ handedOutBy id parts
  | _ => []

namespace Books

variable {k : Books} {all : List Member} {owed : StorageId → Nat} {w w' : World} {c : Call}

/-- What happens apart from the poll: copies arrive in the storages, and others expire or go to
somebody else. -/
structure Elsewhere (k : Books) (arrived gone : StorageId → Nat) (w w' : World) : Prop where
  /-- The books are kept. -/
  good : k.good w'
  /-- The copies that arrived are pending, and those that are gone are not. -/
  pending_eq : ∀ id, k.pending id w' + gone id = k.pending id w + arrived id
  /-- The polls that wait go on waiting. -/
  polling : ∀ id c, k.polling id c w → k.polling id c w'

/-- A poll of a storage has come from the world `w₀` as far as it has, and copies have arrived and
gone since. -/
inductive Course (k : Books) (s : Storage) (max : Nat) (wait : Duration) (w₀ : World) :
    World → Call → (StorageId → Nat) → (StorageId → Nat) → Prop
  /-- The poll starts. -/
  | start (spans : List LogSpan) :
    Course k s max wait w₀ (s.start spans (.poll k.locator max wait) w₀).1
      (s.start spans (.poll k.locator max wait) w₀).2 (fun _ => 0) (fun _ => 0)
  /-- The poll runs on until it waits again or returns. -/
  | resume {w : World} {c : Call} {arrived gone : StorageId → Nat} (spans : List LogSpan)
    (h : Course k s max wait w₀ w c arrived gone) :
    Course k s max wait w₀ (c.resume spans w).1 (c.resume spans w).2 arrived gone
  /-- Something else happens. -/
  | elsewhere {w w' : World} {c : Call} {arrived gone arrived' gone' : StorageId → Nat}
    (h : Course k s max wait w₀ w c arrived gone) (helse : k.Elsewhere arrived' gone' w w') :
    Course k s max wait w₀ w' c (fun id => arrived id + arrived' id)
      (fun id => gone id + gone' id)

/-- A round of asking goes on. -/
theorem Holding.resumeAll {phase : MergePhase} {p : PollMerge} {parts : List (StorageId × Call)}
    (h : k.Holding all owed phase p parts w) (hkept : k.Kept all) (hphase : phase ≠ .racing)
    (spans : List LogSpan) : k.Holding all owed phase p (Call.resumeAll spans parts w).2
      (Call.resumeAll spans parts w).1 := by
  have hmoves := hkept.resumeAll h.underway h.good spans
  refine { h with
    good := hmoves.passes.good
    underway := hmoves.underway
    total := fun id => ?_
    racing := fun heq => absurd heq hphase }
  have htotal := h.total id
  have hmoved := hmoves.total id
  rw [List.count_append] at htotal ⊢
  omega

/-- The race goes on. -/
theorem Holding.running {p : PollMerge} {parts : List (StorageId × Call)}
    (h : k.Holding all owed .racing p parts w) : k.Running all owed ⟨p, [], none⟩ parts w where
  good := h.good
  underway := h.underway
  waiting := h.racing rfl
  locator_eq := h.locator_eq
  members_subset := h.members_subset
  members_nodup := h.members_nodup
  filled := h.filled
  total id := by
    have htotal := h.total id
    rwa [Call.handedOutBy_of_waiting (h.racing rfl), List.append_nil] at htotal
  winner_eq := by
    rw [h.before fun heq => MergePhase.noConfusion heq]
    rfl

/-- In the race nothing is taken in, and no poll has ended. -/
theorem Holding.holds_eq_nil {p : PollMerge} {parts : List (StorageId × Call)}
    (h : k.Holding all owed .racing p parts w) (id : StorageId) :
    (Call.merging .racing p parts).holds id = [] := by
  have hempty := h.before fun hphase => MergePhase.noConfusion hphase
  have hkept := (PollMerge.batches_isEmpty_iff h.filled).mp hempty id
  rw [Call.holds, hkept, Call.handedOutBy_of_waiting (h.racing rfl), List.nil_append]

/-- After the race the batch of the winner is taken in, and batches are not empty. -/
theorem Holding.exists_holds_ne_nil {p : PollMerge} {parts : List (StorageId × Call)}
    (h : k.Holding all owed .closing p parts w) :
    ∃ id, (Call.merging .closing p parts).holds id ≠ [] := by
  by_contra hnone
  have hempty : p.batches.isEmpty = true := by
    rw [PollMerge.batches_isEmpty_iff h.filled]
    intro id
    have hnil : p.kept id ++ Call.handedOutBy id parts = [] := not_not.mp (not_exists.mp hnone id)
    exact (List.append_eq_nil_iff.mp hnil).1
  rw [h.after rfl] at hempty
  exact Bool.false_ne_true hempty

namespace Kept

/-- A merged poll that starts keeps the books. -/
theorem accounts_start {children : List (StorageId × Storage)}
    (h : k.Kept (Storage.members children)) (hnodup : (children.map Prod.fst).Nodup)
    (hgood : k.good w) (spans : List LogSpan) (max : Nat) (wait : Duration) :
    k.Accounts (Storage.members children) (fun id => k.pending id w)
      ((Storage.multiplexer children).start spans (.poll k.locator max wait) w).1
      ((Storage.multiplexer children).start spans (.poll k.locator max wait) w).2 := by
  -- the poll starts with nothing on its hands and asks the storages that can be polled
  rw [Storage.start, startMultiplexer]
  dsimp only [StorageRequest.needs?]
  have hcapable : ((Storage.members children).filter fun m => m.storage.has .pubsub).Sublist
      (Storage.members children) := List.filter_sublist
  generalize (Storage.members children).filter (fun m => m.storage.has .pubsub) = capable
    at hcapable
  have hids : (capable.map Member.id).Nodup := by
    refine List.Nodup.sublist (hcapable.map Member.id) ?_
    rwa [Storage.ids_members]
  split
  next => exact trivial
  next =>
    have hmoves := h.startAll hcapable.subset hids hgood spans max Duration.zero
    have hmembers := Storage.members_map_of_subset hcapable.subset
    refine Holding.afterSweep h hcapable.subset hids ⟨hmoves.passes.good, hmoves.underway, rfl, ?_,
      ?_, ?_, ?_, fun _ => rfl, fun hphase => MergePhase.noConfusion hphase, fun hphase =>
      MergePhase.noConfusion hphase⟩ spans
    · rw [hmembers]
      exact hcapable.subset
    · rw [hmembers]
      exact hids
    · exact fun id ms hget => absurd hget (Option.some_ne_none ms).symm
    · intro id
      have hmoved := hmoves.total id
      rw [List.count_nil] at hmoved
      exact hmoved

/-- A merged poll that runs on keeps the books. -/
theorem accounts_resume (h : k.Kept all) (haccounts : k.Accounts all owed w c)
    (spans : List LogSpan) :
    k.Accounts all owed (c.resume spans w).1 (c.resume spans w).2 := by
  cases c with
  | settled a =>
    rw [Call.resume]
    exact trivial
  | merging phase p parts =>
    have hholding : k.Holding all owed phase p parts w := haccounts
    -- each phase keeps the books while its polls run on and while the merge takes them in
    cases phase with
    | sweeping =>
      rw [Call.resume]
      have hresumed := hholding.resumeAll h (fun heq => MergePhase.noConfusion heq) spans
      exact hresumed.afterSweep h hholding.members_subset hholding.members_nodup spans
    | racing =>
      rw [Call.resume]
      have hresumed := h.resumeRace hholding.running spans
      exact Running.afterRace h hholding.members_subset hholding.members_nodup hresumed spans
    | closing =>
      rw [Call.resume]
      have hresumed := hholding.resumeAll h (fun heq => MergePhase.noConfusion heq) spans
      exact hresumed.afterClosing spans
  | _ => exact haccounts.elim

end Kept

/-- Whatever else happens changes what is owed by what has arrived and gone. -/
theorem Accounts.elsewhere {arrived gone : StorageId → Nat} (h : k.Accounts all owed w c)
    (helse : k.Elsewhere arrived gone w w') (hwaits : c.answer? = none) :
    ∃ owed', k.Accounts all owed' w' c ∧ ∀ id, owed' id + gone id = owed id + arrived id := by
  cases c with
  | settled a => exact absurd hwaits (Option.some_ne_none a)
  | merging phase p parts =>
    have hholding : k.Holding all owed phase p parts w := h
    -- what is owed now is what is there now, since the poll itself has not moved
    refine ⟨fun id => k.pending id w' + (p.kept id ++ Call.handedOutBy id parts).count k.message,
      { hholding with
        good := helse.good
        underway := ⟨hholding.underway.nodup, fun part hpart hnone =>
          helse.polling _ _ (hholding.underway.waits part hpart hnone)⟩
        total := fun id => rfl }, fun id => ?_⟩
    have htotal := hholding.total id
    have hpending := helse.pending_eq id
    dsimp only
    omega
  | _ => exact h.elim

/-- In the course of a poll of several storages, the books are kept as long as it waits. -/
theorem Course.accounts {children : List (StorageId × Storage)}
    (hnodup : (children.map Prod.fst).Nodup) (hkept : k.Kept (Storage.members children))
    {max : Nat} {wait : Duration} {w₀ : World} (hgood : k.good w₀) {arrived gone : StorageId → Nat}
    (h : k.Course (.multiplexer children) max wait w₀ w c arrived gone)
    (hwaits : c.answer? = none) :
    ∃ owed, k.Accounts (Storage.members children) owed w c ∧
      ∀ id, owed id + gone id = k.pending id w₀ + arrived id := by
  induction h with
  | start spans => exact ⟨_, hkept.accounts_start hnodup hgood spans max wait, fun id => rfl⟩
  | @resume w c arrived gone spans h ih =>
    cases hanswer : c.answer? with
    | none =>
      obtain ⟨owed, haccounts, htotal⟩ := ih hanswer
      exact ⟨owed, hkept.accounts_resume haccounts spans, htotal⟩
    | some a =>
      -- a poll that has returned does not wait any more
      obtain rfl := Call.eq_settled_of_answer? hanswer
      rw [Call.resume] at hwaits
      exact absurd hwaits (Option.some_ne_none a)
  | elsewhere h helse ih =>
    obtain ⟨owed, haccounts, htotal⟩ := ih hwaits
    obtain ⟨owed', haccounts', htotal'⟩ := haccounts.elsewhere helse hwaits
    refine ⟨owed', haccounts', fun id => ?_⟩
    have hbefore := htotal id
    have hafter := htotal' id
    dsimp only
    omega

end Books

/-- A poll of several storages that is dropped while it waits loses what it holds, and no more: of
the copies of a message that were pending when it started or have arrived since, all are still
pending that have not expired or gone to another poll, except those that it holds. Hence it loses
none exactly if it holds none. In the race it holds nothing at all, and after the race something. -/
theorem dropped_poll_loses_what_it_holds {k : Books} {children : List (StorageId × Storage)}
    (hnodup : (children.map Prod.fst).Nodup) (hkept : k.Kept (Storage.members children))
    {max : Nat} {wait : Duration} {w₀ w : World} (hgood : k.good w₀) {c : Call}
    {arrived gone : StorageId → Nat}
    (hcourse : k.Course (.multiplexer children) max wait w₀ w c arrived gone)
    (hwaits : c.answer? = none) :
    k.good (c.drop w) ∧
    (∀ id, k.pending id (c.drop w) + (c.holds id).count k.message + gone id =
      k.pending id w₀ + arrived id) ∧
    (∀ id, k.pending id (c.drop w) + gone id = k.pending id w₀ + arrived id ↔
      k.message ∉ c.holds id) ∧
    (∀ p parts, c = .merging .racing p parts → ∀ id, c.holds id = []) ∧
    (∀ p parts, c = .merging .closing p parts → ∃ id, c.holds id ≠ []) := by
  obtain ⟨owed, haccounts, htotal⟩ := hcourse.accounts hnodup hkept hgood hwaits
  cases c with
  | settled a => exact absurd hwaits (Option.some_ne_none a)
  | merging phase p parts =>
    have hholding : k.Holding (Storage.members children) owed phase p parts w := haccounts
    -- dropping the parts moves nothing, so what is missing is what the merge has in hand
    obtain ⟨hdropped, hsame⟩ := hkept.dropAll hholding.underway hholding.good
    rw [Call.drop]
    have hequal : ∀ id, k.pending id (Call.dropAll parts w) +
        (p.kept id ++ Call.handedOutBy id parts).count k.message + gone id =
          k.pending id w₀ + arrived id := fun id => by
      rw [hsame, hholding.total, htotal]
    refine ⟨hdropped, hequal, ?_, ?_, ?_⟩
    · intro id
      have hid := hequal id
      rw [← List.count_eq_zero]
      show _ ↔ (p.kept id ++ Call.handedOutBy id parts).count k.message = 0
      omega
    · rintro p' parts' heq id
      obtain ⟨rfl, rfl, rfl⟩ := Call.merging.inj heq
      exact hholding.holds_eq_nil id
    · rintro p' parts' heq
      obtain ⟨rfl, rfl, rfl⟩ := Call.merging.inj heq
      exact hholding.exists_holds_ne_nil
  | _ => exact haccounts.elim

namespace Sample

/-- A storage in memory, and one that takes its time. -/
def quickAndSlow : List (StorageId × Backend) :=
  [(⟨"quick"⟩, ⟨0, "memory", 0, true, true⟩), (⟨"slow"⟩, ⟨1, "slow", 0, true, false⟩)]

/-- A message waits in the first storage, and the second one answers polls after a second, without
messages. -/
def loaded : World where
  clock := .clamp 0
  time := 0
  directory := ⟨.uniform (.seconds 60), false, 0, none⟩
  backends :=
    [.memory ⟨.default,
        (Memory.empty.publish (.clamp 0) ⟨room, .seconds 60, none⟩ greeting).1, none⟩,
      .scripted ⟨⟨[], [⟨some 1000, .ok []⟩], [], [], [], [], []⟩, []⟩]
  nextTicket := 0
  nextMessage := 1
  filter := ⟨"off", []⟩
  filterEra := 0
  events := []

/-- A poll of both storages that is not to wait. -/
def pollBoth (w : World) : World × Call :=
  (Storage.multiplexer (asStorages quickAndSlow)).start [] (.poll reader 1 .zero) w

/-- The books of the sample world can be kept. -/
theorem good_loaded : (backendBooks quickAndSlow greeting reader).good loaded := by
  refine ⟨Directory.promises_start (.uniform (.seconds 60)) false 0 none, fun e he => ?_⟩
  simp only [quickAndSlow, List.mem_cons, List.not_mem_nil, or_false] at he
  rcases he with rfl | rfl
  · exact ⟨_, rfl, trivial⟩
  · refine ⟨_, rfl, fun line hline ms hms => ?_⟩
    obtain rfl := List.mem_singleton.mp hline
    exact (Except.ok.inj hms).symm

end Sample

/-- The poll holds the message of the storage that answers at once, and loses it when it is
dropped. -/
theorem dropped_poll_loses_what_it_holds_loaded :
    (backendBooks Sample.quickAndSlow Sample.greeting Sample.reader).pending ⟨"quick"⟩
        ((Sample.pollBoth Sample.loaded).2.drop (Sample.pollBoth Sample.loaded).1) +
      ((Sample.pollBoth Sample.loaded).2.holds ⟨"quick"⟩).count Sample.greeting + 0 =
        (backendBooks Sample.quickAndSlow Sample.greeting Sample.reader).pending ⟨"quick"⟩
          Sample.loaded + 0 ∧
    (Sample.pollBoth Sample.loaded).2.holds ⟨"quick"⟩ = [Sample.greeting] := by
  have hkept : (backendBooks Sample.quickAndSlow Sample.greeting Sample.reader).Kept
      (Storage.members (asStorages Sample.quickAndSlow)) :=
    kept_backendBooks (by decide +kernel) (by decide +kernel) _ _
  have hcourse : (backendBooks Sample.quickAndSlow Sample.greeting Sample.reader).Course
      (.multiplexer (asStorages Sample.quickAndSlow)) 1 .zero Sample.loaded
      (Sample.pollBoth Sample.loaded).1 (Sample.pollBoth Sample.loaded).2 (fun _ => 0)
      (fun _ => 0) := .start []
  have hloss := dropped_poll_loses_what_it_holds (by decide +kernel) hkept Sample.good_loaded
    hcourse (by decide +kernel)
  exact ⟨hloss.2.1 ⟨"quick"⟩, by decide +kernel⟩

/-- A message is pending, a poll of both storages is dropped that has not returned it, and no later
poll returns it. -/
theorem message_lost_by_dropped_poll :
    (backendBooks Sample.quickAndSlow Sample.greeting Sample.reader).pending ⟨"quick"⟩
      Sample.loaded = 1 ∧
    (Sample.pollBoth Sample.loaded).2.answer?.isNone ∧
    (Sample.pollBoth ((Sample.pollBoth Sample.loaded).2.drop
      (Sample.pollBoth Sample.loaded).1)).2.answer?.map StorageAnswer.delivered = some [] := by
  decide +kernel

end LongPoll
