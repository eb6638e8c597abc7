import LongPoll.Proofs.Merge.Outcome
import LongPoll.Proofs.Storage.Losses
/-!
# What merged polls take and return

A merged poll of backends returns the names of all messages that its polls have taken from anybody
(`Call.Minds.listed`), whatever has happened to the backends and the directory between its steps.
What a poll of a backend takes it hands out; what is handed out is on the hands of the merged poll
until all polls of a round have ended, and then it is part of the history of the poll; and all
messages of the history are among those returned, or other ones of the same names
(`Outcome.mem_ids`).
-/

namespace LongPoll

/-! ### Polls of backends -/

/-- The storage is a backend, perhaps a logged one. -/
inductive Storage.Plain : Storage → Prop
  /-- A backend. -/
  | backend (b : Backend) : Plain (.backend b)
  /-- A logged backend. -/
  | decorated (id : StorageId) {inner : Storage} (h : Plain inner) : Plain (.decorated id inner)

/-- The call is one of a backend, perhaps of a logged one. -/
inductive Call.Plain : Call → Prop
  /-- It has ended. -/
  | settled (a : StorageAnswer) : Plain (.settled a)
  /-- A scripted storage takes its time. -/
  | sleeping (wake : Nat) (a : StorageAnswer) : Plain (.sleeping wake a)
  /-- A poll waits at an engine. -/
  | polling (slot : Nat) (poll : WaitingPoll) : Plain (.polling slot poll)
  /-- The call is logged. -/
  | observed (spans : List LogSpan) {inner : Call} (h : Plain inner) : Plain (.observed spans inner)

/-- A poll of a backend has moved, and has taken nothing but what it hands out. -/
structure Call.Fair (w w' : World) (c : Call) : Prop where
  /-- It is a call of a backend. -/
  plain : c.Plain
  /-- What it has taken it hands out. -/
  gives : w.Gives w' c.handedOut

namespace Call

variable {w w' : World} {c : Call} {spans : List LogSpan}

theorem handedOut_observe : (observe spans c w).2.handedOut = c.handedOut := by
  rw [handedOut, handedOut, answer?_observe]

/-- A call of a backend may be logged. -/
theorem Plain.observe (h : c.Plain) : (observe spans c w).2.Plain := by
  unfold LongPoll.observe
  split
  · exact .observed spans h
  · exact .settled _
  · exact .settled _

/-- To log a poll takes nothing. -/
theorem Fair.observe (h : Fair w w' c) :
    Fair w (LongPoll.observe spans c w').1 (LongPoll.observe spans c w').2 where
  plain := h.plain.observe
  gives := by
    rw [handedOut_observe]
    exact h.gives.logs logs_observe

/-- A poll of an engine is a call of a backend. -/
theorem plain_call (slot : Nat) (s : PollProgress) : (s.call slot).Plain := by
  cases s with
  | answered ms => exact .settled _
  | waiting p => exact .polling slot p

/-- A poll that has ended stays as it is. -/
theorem handedOut_subset_resume (c : Call) (spans : List LogSpan) (w : World) :
    c.handedOut ⊆ (c.resume spans w).2.handedOut := by
  cases hanswer : c.answer? with
  | none =>
    rw [handedOut_of_waiting hanswer]
    exact List.nil_subset _
  | some a =>
    rw [eq_settled_of_answer? hanswer, resume]
    exact List.Subset.refl _

/-- A call of a backend that runs on takes nothing but what it hands out. -/
theorem Plain.resume (h : c.Plain) (spans : List LogSpan) (w : World) :
    Fair w (c.resume spans w).1 (c.resume spans w).2 := by
  induction h generalizing spans w with
  | settled a =>
    rw [Call.resume]
    exact ⟨.settled a, World.gives_of_eq rfl rfl⟩
  | sleeping wake a =>
    rw [Call.resume]
    split
    · exact ⟨.settled a, World.gives_of_eq rfl rfl⟩
    · exact ⟨.sleeping wake a, World.gives_of_eq rfl rfl⟩
  | polling slot poll =>
    refine ⟨?_, gives_polling slot poll spans w⟩
    rw [Call.resume]
    split
    next b _ =>
      -- the poll wakes up at its engine and looks again
      obtain ⟨events, heq⟩ := polled_eq spans slot (b.memory.resumePoll w.clock w.time poll) w
      rw [heq]
      exact plain_call slot _
    next => exact .polling slot poll
  | observed inside h ih =>
    rw [Call.resume]
    exact (ih inside w).observe

/-- A poll of a backend that is dropped has taken nothing. -/
theorem Plain.drop (h : c.Plain) (w : World) {ms : List Message} : w.Gives (c.drop w) ms := by
  induction h with
  | polling slot poll => exact gives_drop_polling slot poll w
  | observed spans h ih =>
    rw [Call.drop]
    exact ih
  | _ =>
    rw [Call.drop]
    exact World.gives_of_eq rfl rfl

end Call

/-- A poll that a backend starts is a call of a backend. -/
theorem plain_backend_poll (b : Backend) (spans : List LogSpan) (locator : Locator) (max : Nat)
    (wait : Duration) (w : World) : (b.start spans (.poll locator max wait) w).2.Plain := by
  unfold Backend.start
  split
  next mb _ =>
    cases hfind : (w.directory.find w.clock locator.channel).answer with
    | error e =>
      obtain ⟨events, heq⟩ := startMemory_poll_of_error b.slot mb spans hfind max wait
      rw [heq]
      exact .settled _
    | ok channel =>
      obtain ⟨events, heq⟩ := startMemory_poll_of_ok b.slot mb spans hfind max wait
      rw [heq]
      exact Call.plain_call b.slot _
  next script _ =>
    -- a script answers at once or after a while, and takes nothing
    unfold startScripted
    dsimp only
    split
    next =>
      split
      · exact .settled _
      · exact .sleeping _ _
    next => exact .settled _
  next => exact .settled _

/-- A backend that is polled takes nothing but what it hands out. -/
theorem Storage.Plain.start {s : Storage} (h : s.Plain) (spans : List LogSpan) (locator : Locator)
    (max : Nat) (wait : Duration) (w : World) :
    Call.Fair w (s.start spans (.poll locator max wait) w).1
      (s.start spans (.poll locator max wait) w).2 := by
  induction h generalizing spans w with
  | backend b =>
    rw [Storage.start]
    exact ⟨plain_backend_poll b spans locator max wait w, gives_backend_poll b spans _ _ _ w⟩
  | @decorated id inner h ih =>
    rw [Storage.start, startDecorated]
    dsimp only [StorageRequest.needs?]
    split
    · exact (ih _ w).observe
    · exact ⟨.settled _, World.gives_of_eq rfl rfl⟩

/-! ### Rounds of polls -/

/-- The messages that polls have brought, whatever the storages. -/
def brought (history : List Ending) : List Message :=
  history.flatMap fun e => StorageAnswer.delivered e.2

theorem brought_append (history later : List Ending) :
    brought (history ++ later) = brought history ++ brought later := List.flatMap_append

namespace Call

/-- The messages that several calls have handed out. -/
def allHandedOut (parts : List (StorageId × Call)) : List Message :=
  parts.flatMap fun part => part.2.handedOut

/-- When a call ends, it brings what it has handed out, and until then nothing. -/
theorem brought_ending (id : StorageId) (c : Call) : brought (c.ending id) = c.handedOut := by
  cases hanswer : c.answer? with
  | none =>
    rw [ending_of_waiting hanswer, handedOut_of_waiting hanswer]
    rfl
  | some a =>
    rw [ending_of_answer? hanswer, handedOut_of_answer? hanswer]
    exact List.append_nil _

/-- When all calls have ended, what they have handed out is what their ends have brought. -/
theorem brought_answers? {parts : List (StorageId × Call)} {answers : List Ending}
    (h : answers? parts = some answers) : brought answers = allHandedOut parts := by
  induction parts generalizing answers with
  | nil =>
    obtain rfl := Option.some.inj h
    rfl
  | cons part parts ih =>
    obtain ⟨id, c⟩ := part
    rw [answers?] at h
    split at h
    next a as ha has =>
      obtain rfl := Option.some.inj h
      have hrest := ih has
      rw [brought, List.flatMap_cons, allHandedOut, List.flatMap_cons, handedOut_of_answer? ha]
      exact congrArg _ hrest
    next => exact absurd h (Option.some_ne_none _).symm

/-- Calls that wait have handed out nothing. -/
theorem allHandedOut_of_waiting {parts : List (StorageId × Call)}
    (h : ∀ part ∈ parts, part.2.answer? = none) : allHandedOut parts = [] :=
  List.flatMap_eq_nil_iff.mpr fun part hpart => handedOut_of_waiting (h part hpart)

/-- Polls of backends that have moved. -/
structure AllFair (w w' : World) (parts : List (StorageId × Call)) : Prop where
  /-- They are calls of backends. -/
  plain : ∀ part ∈ parts, part.2.Plain
  /-- What they have taken they hand out. -/
  gives : w.Gives w' (allHandedOut parts)

variable {parts : List (StorageId × Call)}

/-- Calls of backends run on and take nothing but what they hand out. What they had handed out
before stays handed out. -/
theorem allFair_resumeAll (h : ∀ part ∈ parts, part.2.Plain) (spans : List LogSpan) (w : World) :
    AllFair w (resumeAll spans parts w).1 (resumeAll spans parts w).2 ∧
      allHandedOut parts ⊆ allHandedOut (resumeAll spans parts w).2 := by
  induction parts generalizing w with
  | nil =>
    rw [resumeAll]
    exact ⟨⟨h, World.gives_of_eq rfl rfl⟩, List.Subset.refl _⟩
  | cons part parts ih =>
    obtain ⟨id, c⟩ := part
    obtain ⟨hc, hrest⟩ := List.forall_mem_cons.mp h
    obtain ⟨hfair, hsub⟩ := ih hrest (c.resume spans w).1
    have hfirst := hc.resume spans w
    rw [resumeAll_cons]
    exact ⟨⟨List.forall_mem_cons.mpr ⟨hfirst.plain, hfair.plain⟩, hfirst.gives.trans hfair.gives⟩,
      fun x hx => List.mem_append.mpr ((List.mem_append.mp hx).imp
        (fun hmem => handedOut_subset_resume c spans w hmem) fun hmem => hsub hmem)⟩

/-- To drop calls of backends takes nothing. -/
theorem gives_dropAll (h : ∀ part ∈ parts, part.2.Plain) (w : World) {ms : List Message} :
    w.Gives (dropAll parts w) ms := by
  induction parts generalizing w with
  | nil =>
    rw [dropAll]
    exact World.gives_of_eq rfl rfl
  | cons part parts ih =>
    obtain ⟨hc, hrest⟩ := List.forall_mem_cons.mp h
    rw [dropAll]
    exact (hc.drop w).chain (ih hrest (part.2.drop w))

end Call

section Members

variable {members : List Member}

/-- Members are backends, perhaps logged ones. -/
def Member.AllPlain (members : List Member) : Prop :=
  ∀ m ∈ members, m.storage.Plain ∧ m.start = m.storage.start

theorem Member.AllPlain.mono {some : List Member} (h : AllPlain members) (hsub : some ⊆ members) :
    AllPlain some := fun m hm => h m (hsub hm)

/-- A member that is polled takes nothing but what it hands out. -/
theorem Member.AllPlain.fair (h : AllPlain members) {m : Member} (hm : m ∈ members)
    (spans : List LogSpan) (locator : Locator) (max : Nat) (wait : Duration) (w : World) :
    Call.Fair w (m.start spans (.poll locator max wait) w).1
      (m.start spans (.poll locator max wait) w).2 := by
  obtain ⟨hplain, hstart⟩ := h m hm
  rw [hstart]
  exact hplain.start spans locator max wait w

/-- Members that are polled one after the other take nothing but what they hand out. -/
theorem Member.AllPlain.startAll (h : AllPlain members) (spans : List LogSpan) (locator : Locator)
    (max : Nat) (wait : Duration) (w : World) :
    Call.AllFair w (LongPoll.startAll members spans (.poll locator max wait) w).1
      (LongPoll.startAll members spans (.poll locator max wait) w).2 := by
  induction members generalizing w with
  | nil => exact ⟨nofun, World.gives_of_eq rfl rfl⟩
  | cons m members ih =>
    have hfirst := h.fair List.mem_cons_self spans locator max wait w
    have hrest := ih (h.mono (List.subset_cons_self m members))
      (m.start spans (.poll locator max wait) w).1
    rw [startAll_cons]
    exact ⟨List.forall_mem_cons.mpr ⟨hfirst.plain, hrest.plain⟩, hfirst.gives.trans hrest.gives⟩

/-- Members of a multiplexer whose storages are backends. -/
theorem Member.allPlain_pollable {children : List (StorageId × Storage)}
    (h : ∀ child ∈ children, child.2.Plain) : AllPlain (Storage.pollable children) := by
  intro m hm
  have hmem := Storage.pollable_sublist.subset hm
  refine ⟨?_, Storage.start_of_mem_members hmem⟩
  rw [Storage.members_eq_map] at hmem
  obtain ⟨child, hchild, rfl⟩ := List.mem_map.mp hmem
  exact h child hchild

end Members

/-! ### Races -/

/-- The polls that wait in a race are polls of backends. -/
def Race.Tidy (r : Race) : Prop := ∀ part ∈ r.pending, part.2.Plain ∧ part.2.answer? = none

namespace Race.Tidy

variable {r : Race} {members : List Member} {parts : List (StorageId × Call)}

/-- One more poll of a backend may wait. -/
theorem pend (h : r.Tidy) (id : StorageId) {c : Call} (hc : c.Plain) (hnone : c.answer? = none) :
    Race.Tidy { r with pending := r.pending ++ [(id, c)] } := by
  intro part hpart
  rcases List.mem_append.mp hpart with hold | hnew
  · exact h part hold
  · rw [List.mem_singleton.mp hnew]
    exact ⟨hc, hnone⟩

/-- One more poll of a backend may enter the race. -/
theorem take (h : r.Tidy) {c : Call} (hc : c.Plain) (id : StorageId) : (r.take id c).Tidy := by
  unfold Race.take
  cases hanswer : c.answer? with
  | none => exact h.pend id hc hanswer
  | some a => exact h

/-- Backends enter a race. -/
theorem enter (h : r.Tidy) (hmembers : Member.AllPlain members) (spans : List LogSpan) (w : World) :
    (Race.enter spans members r w).2.Tidy ∧
      w.Gives (Race.enter spans members r w).1
        (brought (Race.endingsOfEnter spans members r w)) := by
  induction members generalizing r w with
  | nil => exact ⟨h, World.gives_of_eq rfl rfl⟩
  | cons m members ih =>
    have hfirst := hmembers.fair List.mem_cons_self spans r.merge.locator r.merge.max
      r.merge.wait w
    -- the first one enters; if it has won, no other one does
    have htake := h.take hfirst.plain m.id
    rw [Race.enter, Race.endingsOfEnter]
    dsimp only
    rw [brought_append, Call.brought_ending]
    split
    · exact ⟨htake, hfirst.gives.mono (List.subset_append_left _ _)⟩
    · obtain ⟨htidy, hgives⟩ := ih htake (hmembers.mono (List.subset_cons_self m members))
        (m.start spans (.poll r.merge.locator r.merge.max r.merge.wait) w).1
      exact ⟨htidy, hfirst.gives.trans hgives⟩

/-- The polls in a race have their turns. -/
theorem resumeRace (h : r.Tidy) (hparts : ∀ part ∈ parts, part.2.Plain ∧ part.2.answer? = none)
    (spans : List LogSpan) (w : World) : (Call.resumeRace spans parts r w).2.Tidy ∧
      w.Gives (Call.resumeRace spans parts r w).1
        (brought (Call.endingsOfRace spans parts r w)) := by
  induction parts generalizing r w with
  | nil =>
    rw [Call.resumeRace]
    exact ⟨h, World.gives_of_eq rfl rfl⟩
  | cons part parts ih =>
    obtain ⟨id, c⟩ := part
    obtain ⟨⟨hc, hnone⟩, hrest⟩ := List.forall_mem_cons.mp hparts
    rw [Call.resumeRace]
    split
    next hwon =>
      -- the race is won, and nobody else is polled
      obtain ⟨htidy, hgives⟩ := ih (h.pend id hc hnone) hrest w
      rw [Call.endingsOfRace_of_won (r := { r with pending := r.pending ++ [(id, c)] }) hwon]
        at hgives
      rw [Call.endingsOfRace_of_won hwon]
      exact ⟨htidy, hgives⟩
    next hopen =>
      have hfirst := hc.resume spans w
      obtain ⟨htidy, hgives⟩ := ih (h.take hfirst.plain id) hrest (c.resume spans w).1
      rw [Call.endingsOfRace, if_neg hopen, brought_append, Call.brought_ending]
      exact ⟨htidy, hfirst.gives.trans hgives⟩

end Race.Tidy

/-! ### Merged polls -/

/-- The calls in a merged poll are polls of backends, and in the race none of them has ended. -/
def Call.Tidy : Call → Prop
  | .merging phase _ parts =>
    ∀ part ∈ parts, part.2.Plain ∧ (phase = .racing → part.2.answer? = none)
  | _ => True

/-- What polls have handed out to a merged poll in a round that has not ended. -/
def Call.onHand : Call → List Message
  | .merging _ _ parts => Call.allHandedOut parts
  | _ => []

/-- A merged poll has moved while polls have ended. What was taken these have brought, or it is on
the hands of the merged poll. -/
structure Call.Accounted (w w' : World) (endings : List Ending) (c : Call) : Prop where
  /-- The calls in it are polls of backends. -/
  tidy : c.Tidy
  /-- Nothing else was taken. -/
  gives : w.Gives w' (brought endings ++ c.onHand)

section Accounted

variable {w₀ w : World} {p : PollMerge} {parts : List (StorageId × Call)} {members : List Member}
  {spans : List LogSpan}

theorem PollMerge.logs_finish (p : PollMerge) (spans : List LogSpan) (w : World) :
    w.Logs (p.finish spans w).1 := w.reportAll_eq spans p.notices

/-- The end of a merged poll takes nothing. -/
theorem PollMerge.accounted_finish (p : PollMerge) (endings : List Ending)
    (h : w₀.Gives w (brought endings)) :
    Call.Accounted w₀ (p.finish spans w).1 endings (p.finish spans w).2 :=
  ⟨trivial, (h.logs (p.logs_finish spans w)).mono (List.subset_append_left _ _)⟩

/-- What the last round has handed out is part of the history when the round has ended, and on the
hands of the merged poll until then. -/
theorem PollMerge.subset_afterClosing (p : PollMerge) (spans : List LogSpan)
    (parts : List (StorageId × Call)) (w : World) : Call.allHandedOut parts ⊆
      brought (Call.endings parts) ++ (p.afterClosing spans parts w).2.onHand := by
  unfold PollMerge.afterClosing Call.endings
  split
  next => exact List.subset_append_right _ _
  next answers hanswers =>
    rw [hanswers, Option.getD_some, Call.brought_answers? hanswers]
    exact List.subset_append_left _ _

/-- The last round has taken nothing but what is brought or on the hands of the merged poll. -/
theorem PollMerge.accounted_afterClosing (p : PollMerge) (h : Call.AllFair w₀ w parts) :
    Call.Accounted w₀ (p.afterClosing spans parts w).1 (Call.endings parts)
      (p.afterClosing spans parts w).2 := by
  have hsub := p.subset_afterClosing spans parts w
  unfold PollMerge.afterClosing at hsub ⊢
  split
  next hnone =>
    exact ⟨fun part hpart => ⟨h.plain part hpart, fun heq => MergePhase.noConfusion heq⟩,
      h.gives.mono (List.subset_append_right _ _)⟩
  next answers hanswers =>
    refine PollMerge.accounted_finish _ _ ?_
    rw [Call.endings, hanswers, Option.getD_some, Call.brought_answers? hanswers]
    exact h.gives

/-- The losers of a race are dropped, which takes nothing, and asked once more. -/
theorem Race.Tidy.afterRace {r : Race} (h : r.Tidy) (hmembers : Member.AllPlain members)
    (spans : List LogSpan) (w : World) : Call.Accounted w (PollMerge.afterRace members spans r w).1
      (PollMerge.endingsAfterRace members spans r w)
      (PollMerge.afterRace members spans r w).2 := by
  unfold PollMerge.afterRace PollMerge.endingsAfterRace
  cases r.winner with
  | some winner =>
    -- those who wait hold nothing yet
    have hdropped : w.Gives (Call.dropAll r.pending w) [] :=
      Call.gives_dropAll (fun part hpart => (h part hpart).1) w
    have hothers : Member.AllPlain
        ((membersNamed members r.merge.healthy).filter (·.id ≠ winner)) :=
      hmembers.mono (List.filter_sublist.trans List.filter_sublist).subset
    have hround := hothers.startAll spans r.merge.locator r.merge.max Duration.zero
      (Call.dropAll r.pending w)
    exact r.merge.accounted_afterClosing ⟨hround.plain, hdropped.trans hround.gives⟩
  | none =>
    dsimp only
    split
    · exact r.merge.accounted_finish [] (World.gives_of_eq rfl rfl)
    · exact ⟨fun part hpart => ⟨(h part hpart).1, fun _ => (h part hpart).2⟩,
        World.gives_of_eq rfl rfl⟩

/-- The first round and all that follows take nothing but what is brought or on the hands of the
merged poll. -/
theorem PollMerge.accounted_afterSweep (p : PollMerge) (h : Call.AllFair w₀ w parts)
    (hmembers : Member.AllPlain members) (spans : List LogSpan) :
    Call.Accounted w₀ (p.afterSweep members spans parts w).1
      (p.endingsAfterSweep members spans parts w) (p.afterSweep members spans parts w).2 ∧
    Call.allHandedOut parts ⊆ brought (p.endingsAfterSweep members spans parts w) ++
      (p.afterSweep members spans parts w).2.onHand := by
  unfold PollMerge.afterSweep PollMerge.endingsAfterSweep
  cases hanswers : Call.answers? parts with
  | none =>
    exact ⟨⟨fun part hpart => ⟨h.plain part hpart, fun heq => MergePhase.noConfusion heq⟩,
      h.gives⟩, List.Subset.refl _⟩
  | some answers =>
    -- what the parts hand out is what their answers bring
    have hbrought := Call.brought_answers? hanswers
    have hgives : w₀.Gives w (brought answers) := hbrought ▸ h.gives
    dsimp only
    split
    · -- nobody had a message, and all members race that did not fail
      have hnamed : Member.AllPlain (membersNamed members (p.takeSweep answers).healthy) :=
        hmembers.mono List.filter_sublist.subset
      have hstart : Race.Tidy ⟨p.takeSweep answers, [], none⟩ := fun _ hpart =>
        absurd hpart List.not_mem_nil
      obtain ⟨htidy, hentered⟩ := hstart.enter hnamed spans w
      have hraced := htidy.afterRace hmembers spans
        (Race.enter spans (membersNamed members (p.takeSweep answers).healthy)
          ⟨p.takeSweep answers, [], none⟩ w).1
      rw [brought_append, brought_append, ← hbrought, List.append_assoc, List.append_assoc]
      exact ⟨⟨hraced.tidy, by
        rw [brought_append, brought_append, List.append_assoc, List.append_assoc]
        exact hgives.trans (hentered.trans hraced.gives)⟩, List.subset_append_left _ _⟩
    · rw [List.append_nil]
      exact ⟨PollMerge.accounted_finish _ _ hgives, hbrought ▸ List.subset_append_left _ _⟩

/-- Whatever a merged poll takes in one step ends up in its history or on its hands, and nothing
gets lost that was on its hands. -/
theorem Advanced.accounted {history : List Ending} {c : Call} (h : Advanced members history c)
    (htidy : c.Tidy) (hmembers : Member.AllPlain members)
    (hnames : Storage.members (members.map fun m => (m.id, m.storage)) = members)
    (spans : List LogSpan) (w : World) :
    Call.Accounted w (c.resume spans w).1 (c.endingsOfResume spans w) (c.resume spans w).2 ∧
      c.onHand ⊆ brought (c.endingsOfResume spans w) ++ (c.resume spans w).2.onHand := by
  cases c with
  | settled a =>
    rw [Call.resume]
    exact ⟨⟨trivial, World.gives_of_eq rfl rfl⟩, List.nil_subset _⟩
  | merging phase p parts =>
    -- the phase decides who is polled next
    have hstage : Stage members history phase p (parts.map Prod.fst) := h
    have hplain : ∀ part ∈ parts, part.2.Plain := fun part hpart => (htidy part hpart).1
    cases phase with
    | sweeping =>
      rw [Call.resume, Call.endingsOfResume]
      dsimp only
      rw [hstage.members_eq, hnames]
      obtain ⟨hfair, hkept⟩ := Call.allFair_resumeAll hplain spans w
      obtain ⟨haccounted, hsub⟩ := p.accounted_afterSweep hfair hmembers spans
      exact ⟨haccounted, List.Subset.trans hkept hsub⟩
    | racing =>
      have hwaiting : ∀ part ∈ parts, part.2.Plain ∧ part.2.answer? = none := fun part hpart =>
        ⟨hplain part hpart, (htidy part hpart).2 rfl⟩
      have hstart : Race.Tidy ⟨p, [], none⟩ := fun _ hpart => absurd hpart List.not_mem_nil
      rw [Call.resume, Call.endingsOfResume]
      dsimp only
      rw [hstage.members_eq, hnames]
      obtain ⟨hrace, hgives⟩ := hstart.resumeRace hwaiting spans w
      have hraced := hrace.afterRace hmembers spans (Call.resumeRace spans parts ⟨p, [], none⟩ w).1
      refine ⟨⟨hraced.tidy, ?_⟩, ?_⟩
      · rw [brought_append, List.append_assoc]
        exact hgives.trans hraced.gives
      · -- no poll in the race had ended
        rw [Call.onHand, Call.allHandedOut_of_waiting fun part hpart => (hwaiting part hpart).2]
        exact List.nil_subset _
    | closing =>
      rw [Call.resume, Call.endingsOfResume]
      obtain ⟨hfair, hkept⟩ := Call.allFair_resumeAll hplain spans w
      exact ⟨p.accounted_afterClosing hfair,
        List.Subset.trans hkept (p.subset_afterClosing spans _ _)⟩
  | _ => exact h.elim

end Accounted

/-! ### What is returned -/

/-- All messages of the history are returned, or others of the same names. -/
theorem Outcome.mem_ids {ids : List StorageId} {history : List Ending} {a : StorageAnswer}
    (h : Outcome ids history a) {x : Message} (hx : x ∈ brought history) :
    x.id ∈ (StorageAnswer.delivered a).map (·.id) := by
  obtain ⟨e, he, hmem⟩ := List.mem_flatMap.mp hx
  -- whoever has brought it is one of the storages
  have hbrought : x ∈ broughtByAll ids history :=
    List.mem_flatMap.mpr ⟨e.1, h.polled e he, List.mem_flatMap.mpr ⟨e, he, by rwa [if_pos rfl]⟩⟩
  have hdistinct := PollMerge.distinct_eq_eraseDupsBy [] (broughtByAll ids history)
  rw [List.filter_eq_self.mpr (by simp)] at hdistinct
  rw [h.found (List.ne_nil_of_mem hbrought), ← hdistinct]
  exact PollMerge.mem_ids_distinct_iff.mpr ⟨List.mem_map_of_mem hbrought, List.not_mem_nil⟩

/-- A merged poll minds what was lost: it is part of its history, or it is on its hands. -/
structure Call.Minds (members : List Member) (lost : Message → Prop) (c : Call) : Prop where
  /-- The calls in it are polls of backends. -/
  tidy : c.Tidy
  /-- What was lost is part of its history or on its hands. -/
  advanced : ∃ history, Advanced members history c ∧
    ∀ x, lost x → x ∈ brought history ++ c.onHand

namespace Call.Minds

variable {members : List Member} {lost : Message → Prop} {c : Call} {w : World}

/-- A merged poll that ends lists what was lost. -/
theorem listed {a : StorageAnswer} (h : (Call.settled a).Minds members lost) {x : Message}
    (hx : lost x) : x.id ∈ (StorageAnswer.delivered a).map (·.id) := by
  obtain ⟨history, houtcome, hlost⟩ := h.advanced
  have hmem : x ∈ brought history ++ [] := hlost x hx
  rw [List.append_nil] at hmem
  exact Outcome.mem_ids houtcome hmem

/-- A merged poll minds what it takes from the start. -/
theorem start {children : List (StorageId × Storage)} (hnodup : (children.map Prod.fst).Nodup)
    (hpolled : (Storage.multiplexer children).has .pubsub = true)
    (hplain : ∀ child ∈ children, child.2.Plain) (locator : Locator) (max : Nat) (wait : Duration)
    (spans : List LogSpan) (w : World) :
    ((Storage.multiplexer children).start spans (.poll locator max wait) w).2.Minds
      (Storage.pollable children)
      (w.Loses ((Storage.multiplexer children).start spans (.poll locator max wait) w).1) := by
  have hadvanced : Advanced (Storage.pollable children)
      (Storage.endingsOfStart children locator max wait spans w)
      ((Storage.multiplexer children).start spans (.poll locator max wait) w).2 :=
    advanced_start hnodup hpolled spans w
  have hmembers := Member.allPlain_pollable hplain
  have hround := hmembers.startAll spans locator max Duration.zero w
  obtain ⟨haccounted, -⟩ :=
    (Storage.unasked children locator max wait).accounted_afterSweep hround hmembers spans
  rw [Storage.start, startMultiplexer_poll (Storage.pollable_ne_nil hpolled)] at hadvanced ⊢
  exact ⟨haccounted.tidy, _, hadvanced, haccounted.gives⟩

/-- A merged poll that runs on minds what it takes. -/
theorem resume (h : c.Minds members lost) (hnodup : (members.map Member.id).Nodup)
    (hmembers : Member.AllPlain members)
    (hnames : Storage.members (members.map fun m => (m.id, m.storage)) = members)
    (spans : List LogSpan) (w : World) :
    (c.resume spans w).2.Minds members fun x => lost x ∨ w.Loses (c.resume spans w).1 x := by
  obtain ⟨history, hadvanced, hlost⟩ := h.advanced
  obtain ⟨haccounted, hsub⟩ := hadvanced.accounted h.tidy hmembers hnames spans w
  refine ⟨haccounted.tidy, _, hadvanced.resume hnodup hnames spans, fun x hx => ?_⟩
  rw [brought_append, List.append_assoc]
  -- what was on its hands before the step is brought or still there afterwards
  rcases hx with hbefore | hnow
  · refine (List.mem_append.mp (hlost x hbefore)).elim (List.mem_append_left _) fun hheld => ?_
    exact List.mem_append_right _ (hsub hheld)
  · exact List.mem_append_right _ (haccounted.gives x hnow)

theorem mono {fewer : Message → Prop} (h : c.Minds members lost) (hsub : ∀ x, fewer x → lost x) :
    c.Minds members fewer := by
  obtain ⟨history, hadvanced, hlost⟩ := h.advanced
  exact ⟨h.tidy, history, hadvanced, fun x hx => hlost x (hsub x hx)⟩

end Call.Minds

/-- A merged poll that is logged minds what was lost until it ends, and then lists it. -/
inductive Call.Carries (members : List Member) (lost : Message → Prop) : Call → Prop
  /-- It has ended, and returns what was lost or messages of the same names. -/
  | ended {a : StorageAnswer}
    (listed : ∀ x, lost x → x.id ∈ (StorageAnswer.delivered a).map (·.id)) :
    Carries members lost (.settled a)
  /-- The merged poll inside minds what was lost. -/
  | observed (spans : List LogSpan) {c : Call} (minds : c.Minds members lost) :
    Carries members lost (.observed spans c)

namespace Call

variable {members : List Member} {lost : Message → Prop} {c : Call} {w : World}

/-- A merged poll that minds what was lost does so when it is logged. -/
theorem Minds.carries (h : c.Minds members lost) (spans : List LogSpan) (w : World) :
    (observe spans c w).2.Carries members lost := by
  unfold LongPoll.observe
  cases hanswer : c.answer? with
  | none => exact .observed spans h
  | some a =>
    -- the poll inside has just ended
    rw [eq_settled_of_answer? hanswer] at h
    cases a <;> exact .ended fun x hx => h.listed hx

/-- Who carries what was lost carries any part of it. -/
theorem Carries.mono {fewer : Message → Prop} (h : c.Carries members lost)
    (hsub : ∀ x, fewer x → lost x) : c.Carries members fewer := by
  cases h with
  | ended listed => exact .ended fun x hx => listed x (hsub x hx)
  | observed spans minds => exact .observed spans (minds.mono hsub)

/-- A logged poll that runs on carries what it takes, too. -/
theorem Carries.resume (h : c.Carries members lost) (hnodup : (members.map Member.id).Nodup)
    (hmembers : Member.AllPlain members)
    (hnames : Storage.members (members.map fun m => (m.id, m.storage)) = members)
    (spans : List LogSpan) (w : World) :
    (c.resume spans w).2.Carries members fun x => lost x ∨ w.Loses (c.resume spans w).1 x := by
  cases h with
  | ended listed =>
    rw [Call.resume]
    exact .ended fun x hx => listed x (hx.resolve_right fun hnow => hnow.not_of_logs (.refl w))
  | @observed inside inner minds =>
    rw [Call.resume]
    -- the report at the end takes nothing from anybody
    exact ((minds.resume hnodup hmembers hnames inside w).carries inside _).mono
      fun x hx => hx.imp_right fun hnow => hnow.before_logs logs_observe

end Call

section Logged

variable {entries : List (StorageId × Backend)}

/-- Logged backends are backends. -/
theorem plain_logged : ∀ child ∈ Storage.logged entries, child.2.Plain := by
  intro child hchild
  obtain ⟨e, -, rfl⟩ := List.mem_map.mp hchild
  exact .decorated e.1 (.backend e.2)

variable (hnames : (entries.map Prod.fst).Nodup)

include hnames

/-- Several backends that are logged are polled as one. -/
theorem carries_start {locator : Locator} {max : Nat} {wait : Duration}
    (hable : (Storage.assembled entries).isAble (.poll locator max wait) = true) (w : World) :
    ((Storage.assembled entries).start [] (.poll locator max wait) w).2.Carries
      (Storage.pollable (Storage.logged entries))
      (w.Loses ((Storage.assembled entries).start [] (.poll locator max wait) w).1) := by
  rw [Storage.assembled, Storage.isAble_decorated] at hable
  rw [← Storage.ids_logged] at hnames
  have hminds := Call.Minds.start hnames hable plain_logged locator max wait
    (w.enter [] ((StorageRequest.poll locator max wait).span Storage.rootId)) w
  rw [Storage.assembled, Storage.start, startDecorated_of_isAble hable]
  exact (hminds.carries _ _).mono fun x hx => hx.before_logs Call.logs_observe

/-- The same for a poll of logged backends under different names. -/
theorem Call.Carries.resume_logged {lost : Message → Prop} {c : Call}
    (h : c.Carries (Storage.pollable (Storage.logged entries)) lost) (w : World) :
    (c.resume [] w).2.Carries (Storage.pollable (Storage.logged entries))
      fun x => lost x ∨ w.Loses (c.resume [] w).1 x := by
  rw [← Storage.ids_logged] at hnames
  exact h.resume (Storage.nodup_pollable hnames) (Member.allPlain_pollable plain_logged)
    (Storage.members_map_of_subset Storage.pollable_sublist.subset) [] w

end Logged

end LongPoll
