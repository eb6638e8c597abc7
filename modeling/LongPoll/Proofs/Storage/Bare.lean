import LongPoll.Proofs.Merge.Outcome
import LongPoll.Proofs.Storage.Steady
/-!
# Storages without their decoration

A storage whose operations are logged does what the storage inside does. To say so, decoration is
taken off: off a storage at every place in the tree (`Storage.bare`), and off a call that is in
progress there (`Call.bare`). The log, in which alone decoration shows, is left out
(`World.muted`).

* `Matches`: a world and a call that differ from others in decoration and in the log only.
* `Backend.matches_start`: a backend that starts an operation in such worlds comes to such worlds
  and calls.
* `Matches.observe`: to log an operation changes neither its answer nor anything but the log.
* `PollMerge.bare_takeSweep`, `Race.matches_take`: answers are taken in and combined without a
  regard to decoration.
-/

namespace LongPoll

/-! ### Taking decoration off -/

mutual

/-- A storage with the decoration taken off, its own and that of the storages inside. -/
def Storage.bare : Storage → Storage
  | backend b => .backend b
  | multiplexer children => .multiplexer (allBare children)
  | decorated _ inner => inner.bare

/-- Several storages with the decoration taken off. -/
def Storage.allBare : List (StorageId × Storage) → List (StorageId × Storage)
  | [] => []
  | (id, s) :: rest => (id, s.bare) :: allBare rest

end

/-- Whether a storage consists of several storages that act as one, decorated or not. -/
def Storage.isMultiplexer : Storage → Bool
  | backend _ => false
  | multiplexer _ => true
  | decorated _ inner => inner.isMultiplexer

/-- Whether a storage can be asked to do an operation. One that consists of several storages can
always be asked, and refuses what none of them is able to do. -/
def Storage.offers (s : Storage) (r : StorageRequest) : Bool := s.isAble r || s.isMultiplexer

/-- A poll of several storages with the decoration taken off. -/
def PollMerge.bare (p : PollMerge) : PollMerge :=
  { p with members := Storage.allBare p.members, healthy := Storage.allBare p.healthy }

mutual

/-- A call with the decoration taken off. -/
def Call.bare : Call → Call
  | settled a => .settled a
  | sleeping wake a => .sleeping wake a
  | polling slot poll => .polling slot poll
  | gathering r parts => .gathering r (allBare parts)
  | merging phase p parts => .merging phase p.bare (allBare parts)
  | observed _ inner => inner.bare

/-- Several calls with the decoration taken off. -/
def Call.allBare : List (StorageId × Call) → List (StorageId × Call)
  | [] => []
  | (id, c) :: rest => (id, c.bare) :: allBare rest

end

/-- A race with the decoration taken off. -/
def Race.bare (r : Race) : Race :=
  { r with merge := r.merge.bare, pending := Call.allBare r.pending }

/-- A world without its log. -/
def World.muted (w : World) : World := { w with events := [] }

/-- The members of a poll of several storages are able to take part in it. -/
def PollMerge.Fit (p : PollMerge) : Prop := ∀ child ∈ p.members, child.2.has .pubsub = true

mutual

/-- The members of every poll of several storages in a call are able to take part in it, and what
is logged in it has not ended. -/
def Call.Fit : Call → Prop
  | settled _ => True
  | sleeping .. => True
  | polling .. => True
  | gathering _ parts => AllFit parts
  | merging _ p parts => p.Fit ∧ AllFit parts
  | observed _ inner => inner.answer? = none ∧ inner.Fit

/-- So they are in several calls. -/
def Call.AllFit : List (StorageId × Call) → Prop
  | [] => True
  | (_, c) :: rest => c.Fit ∧ AllFit rest

end

/-- An operation has come to the same world and call as another one, apart from the log and from
decoration, which the other one does without. -/
structure Matches (p p' : World × Call) : Prop where
  /-- The worlds differ in the log only. -/
  world : p.1.muted = p'.1.muted
  /-- The calls differ in decoration only. -/
  call : p.2.bare = p'.2
  /-- The call is one that can arise. -/
  fit : p.2.Fit

/-- Several operations have come to the same as others, apart from the log and from decoration. -/
structure AllMatch (p p' : World × List (StorageId × Call)) : Prop where
  /-- The worlds differ in the log only. -/
  world : p.1.muted = p'.1.muted
  /-- The calls differ in decoration only. -/
  calls : Call.allBare p.2 = p'.2
  /-- The calls are ones that can arise. -/
  fit : Call.AllFit p.2

/-- A race has come to the same as another one, apart from the log and from decoration. -/
structure RacesMatch (p p' : World × Race) : Prop where
  /-- The worlds differ in the log only. -/
  world : p.1.muted = p'.1.muted
  /-- The standings differ in decoration only. -/
  race : p.2.bare = p'.2
  /-- The members are able to take part. -/
  merge_fit : p.2.merge.Fit
  /-- The calls that wait are ones that can arise. -/
  pending_fit : Call.AllFit p.2.pending

/-- A way to start an operation leads to the same as another one that does without decoration,
whatever is logged before and around it. -/
def Starter.Matches (r : StorageRequest) (start start' : Starter) : Prop :=
  ∀ spans spans' {w w' : World}, w.muted = w'.muted →
    LongPoll.Matches (start spans r w) (start' spans' r w')

/-! ### Storages -/

namespace Storage

/-- Decoration is taken off each of several storages, which keep their names. -/
theorem allBare_eq_map (children : List (StorageId × Storage)) :
    allBare children = children.map fun child => (child.1, child.2.bare) := by
  induction children with
  | nil => rw [allBare, List.map_nil]
  | cons child children ih => rw [allBare, ih, List.map_cons]

/-- Decoration changes no capability. -/
@[simp]
theorem has_bare (c : Capability) (s : Storage) : s.bare.has c = s.has c := by
  induction s using Storage.induct with
  | backend b => rw [bare]
  | multiplexer children ih =>
    rw [bare, has, has]
    induction children with
    | nil => rw [allBare]
    | cons child children ihchildren =>
      obtain ⟨hchild, hrest⟩ := List.forall_mem_cons.mp ih
      rw [allBare, anyHas, anyHas, hchild, ihchildren hrest]
  | decorated id inner ih => rw [bare, has, ih]

/-- A storage is able to do the same without its decoration. -/
theorem isAble_bare (r : StorageRequest) (s : Storage) : s.bare.isAble r = s.isAble r := by
  unfold isAble
  split
  · exact has_bare _ s
  · rfl

/-- Decoration makes no multiplexer and hides none. -/
theorem isMultiplexer_bare (s : Storage) : s.bare.isMultiplexer = s.isMultiplexer := by
  induction s using Storage.induct with
  | backend b => rw [bare]
  | multiplexer children ih => rw [bare, isMultiplexer, isMultiplexer]
  | decorated id inner ih => rw [bare, isMultiplexer, ih]

theorem offers_bare (s : Storage) (r : StorageRequest) : s.bare.offers r = s.offers r := by
  rw [offers, offers, isAble_bare, isMultiplexer_bare]

/-- Decoration holds no descriptors. -/
theorem descriptors_bare (s : Storage) : s.bare.descriptors = s.descriptors := by
  induction s using Storage.induct with
  | backend b => rw [bare]
  | multiplexer children ih =>
    rw [bare, descriptors, descriptors]
    induction children with
    | nil => rw [allBare]
    | cons child children ihchildren =>
      obtain ⟨hchild, hrest⟩ := List.forall_mem_cons.mp ih
      rw [allBare, allDescriptors, allDescriptors, hchild, ihchildren hrest]
  | decorated id inner ih => rw [bare, descriptors, ih]

/-- Decoration leaves every backend where it is. -/
theorem leaves_bare (s : Storage) : s.bare.leaves = s.leaves := by
  induction s using Storage.induct with
  | backend b => rw [bare]
  | multiplexer children ih =>
    rw [bare, leaves, leaves]
    induction children with
    | nil => rw [allBare]
    | cons child children ihchildren =>
      obtain ⟨hchild, hrest⟩ := List.forall_mem_cons.mp ih
      rw [allBare, allLeaves, allLeaves, hchild, ihchildren hrest]
  | decorated id inner ih => rw [bare, leaves, ih]

/-- Decoration does not change what a storage is called. -/
theorem display_bare (s : Storage) : s.bare.display = s.display := by
  induction s using Storage.induct with
  | backend b => rw [bare]
  | multiplexer children ih =>
    rw [bare, display, display, allBare_eq_map, List.map_map]
    rfl
  | decorated id inner ih => rw [bare, display, ih]

end Storage

/-! ### Worlds -/

namespace World

variable {w w' : World}

/-- A report shows in the log only. -/
@[simp]
theorem muted_report (w : World) (spans : List LogSpan) (n : Notice) :
    (w.report spans n).muted = w.muted := by
  obtain ⟨events, heq⟩ := w.report_eq spans n
  rw [heq]
  rfl

/-- Reports show in the log only. -/
@[simp]
theorem muted_reportAll (w : World) (spans : List LogSpan) (ns : List Notice) :
    (w.reportAll spans ns).muted = w.muted := by
  obtain ⟨events, heq⟩ := w.reportAll_eq spans ns
  rw [heq]
  rfl

/-- What does not depend on the log is the same in worlds that differ in the log only. -/
theorem eq_of_muted {α : Type} (h : w.muted = w'.muted) (f : World → α)
    (hf : ∀ v : World, f v.muted = f v) : f w = f w' := by
  rw [← hf w, h, hf w']

theorem clock_eq_of_muted (h : w.muted = w'.muted) : w.clock = w'.clock :=
  eq_of_muted h World.clock fun _ => rfl

theorem time_eq_of_muted (h : w.muted = w'.muted) : w.time = w'.time :=
  eq_of_muted h World.time fun _ => rfl

theorem memory?_eq_of_muted (h : w.muted = w'.muted) (slot : Nat) :
    w.memory? slot = w'.memory? slot :=
  eq_of_muted h (World.memory? · slot) fun _ => rfl

/-- Worlds differ in the log only if they did before an engine was changed in both. -/
theorem muted_setMemory (h : w.muted = w'.muted) (slot : Nat) (m : Memory) :
    (w.setMemory slot m).muted = (w'.setMemory slot m).muted := by
  unfold setMemory
  rw [memory?_eq_of_muted h slot]
  split
  · exact congrArg (World.setBackend · slot _) h
  · exact h

/-- Looking a channel up leads to the same, whatever is logged. -/
theorem muted_findChannel (h : w.muted = w'.muted) (spans spans' : List LogSpan)
    (id : ChannelId) : (w.findChannel spans id).1.muted = (w'.findChannel spans' id).1.muted ∧
      (w.findChannel spans id).2 = (w'.findChannel spans' id).2 := by
  obtain ⟨events, heq⟩ := w.findChannel_eq spans id
  obtain ⟨events', heq'⟩ := w'.findChannel_eq spans' id
  have hfound := congrArg (fun v : World => v.directory.find v.clock id) h
  rw [heq, heq']
  refine ⟨?_, congrArg Lookup.answer hfound⟩
  exact congrArg₂ (fun (v : World) directory => { v with directory := directory }) h
    (congrArg Lookup.directory hfound)

end World

/-! ### Backends -/

section Backend

variable {w w' : World}

theorem matches_settled (h : w.muted = w'.muted) (a : StorageAnswer) :
    Matches (w, .settled a) (w', .settled a) := ⟨h, rfl, trivial⟩

/-- A poll at an engine is not decorated. -/
theorem bare_call (slot : Nat) (progress : PollProgress) :
    (progress.call slot).bare = progress.call slot ∧ (progress.call slot).Fit := by
  cases progress <;> simp [PollProgress.call, Call.bare, Call.Fit]

/-- A poll that has looked stands the same, whatever is logged. -/
theorem matches_polled (h : w.muted = w'.muted) (spans spans' : List LogSpan) (slot : Nat)
    (s : PollStep) : Matches (polled spans slot s w) (polled spans' slot s w') := by
  obtain ⟨events, heq⟩ := polled_eq spans slot s w
  obtain ⟨events', heq'⟩ := polled_eq spans' slot s w'
  obtain ⟨hbare, hfit⟩ := bare_call slot s.progress
  rw [heq, heq']
  exact ⟨World.muted_setMemory h slot s.memory, hbare, hfit⟩

/-- A memory engine publishes the same, whatever is logged. -/
theorem matches_startMemory_publish (slot : Nat) (b : MemoryBackend) (message : Message) :
    (startMemory slot b).Matches (.publish message) (startMemory slot b) := by
  intro spans spans' w w' h
  obtain ⟨hworld, hanswer⟩ := World.muted_findChannel h spans spans' message.channel
  rw [startMemory, startMemory]
  generalize w.findChannel spans message.channel = found at hworld hanswer
  generalize w'.findChannel spans' message.channel = found' at hworld hanswer
  obtain ⟨w₁, answer⟩ := found
  obtain ⟨w₁', answer'⟩ := found'
  obtain rfl : answer = answer' := hanswer
  -- the same channel is found, or the same failure
  cases answer with
  | error e => exact matches_settled hworld _
  | ok channel =>
    dsimp only at hworld ⊢
    rw [World.clock_eq_of_muted hworld]
    refine matches_settled ?_ _
    rw [World.muted_report, World.muted_report]
    exact World.muted_setMemory hworld slot _

/-- A memory engine starts the same poll, whatever is logged. -/
theorem matches_startMemory_poll (slot : Nat) (b : MemoryBackend) (locator : Locator) (max : Nat)
    (wait : Duration) :
    (startMemory slot b).Matches (.poll locator max wait) (startMemory slot b) := by
  intro spans spans' w w' h
  have hfound : w.directory.find w.clock locator.channel =
      w'.directory.find w'.clock locator.channel :=
    World.eq_of_muted h (fun v => v.directory.find v.clock locator.channel) fun _ => rfl
  cases hfind : (w.directory.find w.clock locator.channel).answer with
  | error e =>
    obtain ⟨events, heq⟩ := startMemory_poll_of_error slot b spans hfind max wait
    rw [hfound] at hfind
    obtain ⟨events', heq'⟩ := startMemory_poll_of_error slot b spans' hfind max wait
    rw [heq, heq', hfound]
    exact matches_settled (congrArg (fun v : World => { v with
      directory := (w'.directory.find w'.clock locator.channel).directory }) h) _
  | ok channel =>
    obtain ⟨events, heq⟩ := startMemory_poll_of_ok slot b spans hfind max wait
    rw [hfound] at hfind
    obtain ⟨events', heq'⟩ := startMemory_poll_of_ok slot b spans' hfind max wait
    -- the poll itself is the same one
    have hstep : b.memory.startPoll w.clock w.time (w.order channel locator max wait) =
        b.memory.startPoll w'.clock w'.time (w'.order channel locator max wait) :=
      World.eq_of_muted h (fun v => b.memory.startPoll v.clock v.time
        (v.order channel locator max wait)) fun _ => rfl
    have hticket : w.nextTicket = w'.nextTicket :=
      World.eq_of_muted h World.nextTicket fun _ => rfl
    rw [heq, heq', hstep, hfound, hticket]
    obtain ⟨hbare, hfit⟩ := bare_call slot
      (b.memory.startPoll w'.clock w'.time (w'.order channel locator max wait)).progress
    exact ⟨congrArg (fun v : World => { v with
      directory := (w'.directory.find w'.clock locator.channel).directory
      nextTicket := w'.nextTicket + 1 }) (World.muted_setMemory h slot _), hbare, hfit⟩

/-- A memory engine starts the same operation, whatever is logged. -/
theorem matches_startMemory (slot : Nat) (b : MemoryBackend) (r : StorageRequest) :
    (startMemory slot b).Matches r (startMemory slot b) := by
  intro spans spans' w w' h
  cases r with
  | publish message => exact matches_startMemory_publish slot b message spans spans' h
  | poll locator max wait => exact matches_startMemory_poll slot b locator max wait spans spans' h
  | revoke exp jti =>
    refine matches_settled ?_ _
    rw [World.muted_report, World.muted_report]
    exact World.muted_setMemory h slot _
  | shutdown =>
    refine matches_settled ?_ _
    rw [World.muted_report, World.muted_report]
    exact congrArg (World.setBackend · slot _) h
  | _ => exact matches_settled h _

/-- A scripted storage starts the same operation, whatever is logged. -/
theorem matches_startScripted (slot : Nat) (s : ScriptedStorage) (r : StorageRequest) :
    (startScripted slot s).Matches r (startScripted slot s) := by
  intro spans spans' w w' h
  have hrecorded : (w.setBackend slot (.scripted (s.record r))).muted =
      (w'.setBackend slot (.scripted (s.record r))).muted :=
    congrArg (World.setBackend · slot _) h
  unfold startScripted
  dsimp only
  rw [World.time_eq_of_muted hrecorded]
  split
  · split
    · exact matches_settled hrecorded _
    · exact ⟨hrecorded, rfl, trivial⟩
  · exact matches_settled hrecorded _

/-- A backend starts the same operation, whatever is logged. -/
theorem Backend.matches_start (b : Backend) (r : StorageRequest) :
    b.start.Matches r b.start := by
  intro spans spans' w w' h
  have hbackend : w.backend? b.slot = w'.backend? b.slot :=
    World.eq_of_muted h (World.backend? · b.slot) fun _ => rfl
  unfold Backend.start
  rw [hbackend]
  split
  · exact matches_startMemory b.slot _ r spans spans' h
  · exact matches_startScripted b.slot _ r spans spans' h
  · exact matches_settled h _

end Backend

/-! ### Answers -/

namespace Call

/-- Decoration does not hide that a call has ended. -/
theorem answer?_bare {c : Call} (h : c.Fit) : c.bare.answer? = c.answer? := by
  induction c using Call.induct with
  | observed spans inner ih =>
    rw [bare, ih h.2, h.1]
    rfl
  | _ => simp only [bare, answer?]

/-- Decoration is taken off one call after the other. -/
theorem allBare_append (parts parts' : List (StorageId × Call)) :
    allBare (parts ++ parts') = allBare parts ++ allBare parts' := by
  induction parts with
  | nil => rw [allBare, List.nil_append, List.nil_append]
  | cons part parts ih => rw [List.cons_append, allBare, allBare, ih, List.cons_append]

/-- Calls that can arise can do so side by side. -/
theorem allFit_append {parts parts' : List (StorageId × Call)} (h : AllFit parts)
    (h' : AllFit parts') : AllFit (parts ++ parts') := by
  induction parts with
  | nil => exact h'
  | cons part parts ih => exact ⟨h.1, ih h.2⟩

/-- Decoration does not hide that several calls have ended. -/
theorem answers?_allBare {parts : List (StorageId × Call)} (h : AllFit parts) :
    answers? (allBare parts) = answers? parts := by
  induction parts with
  | nil => rw [allBare]
  | cons part parts ih => rw [allBare, answers?, answers?, ih h.2, answer?_bare h.1]

/-- Answers are combined without a regard to decoration. -/
theorem bare_gather (r : StorageRequest) {parts : List (StorageId × Call)} (h : AllFit parts) :
    (gather r parts).bare = gather r (allBare parts) := by
  unfold gather
  rw [answers?_allBare h]
  split <;> rw [bare]

/-- Calls that can arise are gathered to one that can. -/
theorem fit_gather (r : StorageRequest) {parts : List (StorageId × Call)} (h : AllFit parts) :
    (gather r parts).Fit := by
  unfold gather
  split
  · trivial
  · exact h

end Call

/-- To wait for a logged operation is to wait for the operation, apart from what is logged. -/
theorem Matches.observe {p p' : World × Call} (h : Matches p p') (spans : List LogSpan) :
    Matches (observe spans p.2 p.1) p' := by
  have hsettled : ∀ {a}, p.2.answer? = some a → p'.2 = .settled a := fun ha =>
    Call.eq_settled_of_answer? (h.call ▸ (Call.answer?_bare h.fit).trans ha)
  unfold LongPoll.observe
  split
  -- an operation in progress is wrapped up with its log, and one that has ended is not
  next hnone =>
    refine ⟨h.world, ?_, hnone, h.fit⟩
    rw [Call.bare, h.call]
  next reply ha =>
    refine ⟨(World.muted_report ..).trans h.world, ?_, trivial⟩
    rw [hsettled ha, Call.bare]
  next e ha =>
    refine ⟨(World.muted_report ..).trans h.world, ?_, trivial⟩
    rw [hsettled ha, Call.bare]

/-! ### Polls of several storages -/

namespace PollMerge

variable {w w' : World}

/-- An answer is taken in without a regard to decoration. -/
theorem bare_take (p : PollMerge) (id : StorageId) (a : StorageAnswer) :
    (p.take id a).bare = p.bare.take id a := by
  cases a with
  | error e => rfl
  | ok reply =>
    cases reply with
    | messages ms => simp only [take]; split <;> rfl
    | _ => rfl

/-- Several answers are taken in without a regard to decoration. -/
theorem bare_takeAll (p : PollMerge) (answers : List (StorageId × StorageAnswer)) :
    (p.takeAll answers).bare = p.bare.takeAll answers := by
  induction answers generalizing p with
  | nil => rfl
  | cons x answers ih =>
    have hrest := ih (p.take x.1 x.2)
    rw [bare_take] at hrest
    exact hrest

/-- Members are told by their names. -/
theorem bare_takeSweep (p : PollMerge) (answers : List (StorageId × StorageAnswer)) :
    (p.takeSweep answers).bare = p.bare.takeSweep answers := by
  unfold takeSweep
  dsimp only
  rw [← bare_takeAll]
  simp only [bare, Storage.allBare_eq_map, List.filter_map, Function.comp_def]

/-- The members of a poll are the same after a sweep. -/
theorem fit_takeSweep {p : PollMerge} (h : p.Fit) (answers : List (StorageId × StorageAnswer)) :
    (p.takeSweep answers).Fit := by
  unfold Fit takeSweep
  dsimp only
  rw [members_takeAll]
  exact h

theorem merged_bare (p : PollMerge) : p.bare.merged = p.merged := by
  simp only [merged, bare, Storage.allBare_eq_map, List.flatMap_map]

theorem answer_bare (p : PollMerge) : p.bare.answer = p.answer := by
  unfold answer
  rw [merged_bare]
  rfl

theorem mustRace_bare (p : PollMerge) : p.bare.mustRace = p.mustRace := by
  simp only [mustRace, bare, Storage.allBare_eq_map, List.isEmpty_map]

/-- A poll of several storages ends the same without their decoration. -/
theorem matches_finish (p : PollMerge) (h : w.muted = w'.muted) (spans spans' : List LogSpan) :
    Matches (p.finish spans w) (p.bare.finish spans' w') := by
  rw [finish, finish, answer_bare]
  refine matches_settled ?_ _
  rw [World.muted_reportAll, World.muted_reportAll, h]

/-- A poll of several storages goes on the same after its last sweep without their decoration. -/
theorem matches_afterClosing {p : PollMerge} (hp : p.Fit)
    {q q' : World × List (StorageId × Call)} (h : AllMatch q q') (spans spans' : List LogSpan) :
    Matches (p.afterClosing spans q.2 q.1) (p.bare.afterClosing spans' q'.2 q'.1) := by
  unfold afterClosing
  rw [← h.calls, Call.answers?_allBare h.fit]
  split
  · exact ⟨h.world, rfl, hp, h.fit⟩
  · rw [← bare_takeAll]
    exact matches_finish _ h.world spans spans'

end PollMerge

namespace Race

/-- A race takes in how a member stands without a regard to decoration. -/
theorem bare_take (r : Race) (id : StorageId) {c : Call} (hc : c.Fit) :
    (r.take id c).bare = r.bare.take id c.bare := by
  unfold take
  rw [Call.answer?_bare hc]
  cases c.answer? with
  | none => simp [bare, Call.allBare_append, Call.allBare]
  | some a =>
    have hmerge : r.bare.merge.take id a = (r.merge.take id a).bare :=
      (r.merge.bare_take id a).symm
    dsimp only
    rw [hmerge]
    rfl

/-- A race takes in how a member stands. -/
theorem matches_take {r : Race} (hmerge : r.merge.Fit) (hpending : Call.AllFit r.pending)
    (id : StorageId) {p p' : World × Call} (h : Matches p p') :
    RacesMatch (p.1, r.take id p.2) (p'.1, r.bare.take id p'.2) := by
  refine ⟨h.world, (r.bare_take id h.fit).trans (congrArg (r.bare.take id) h.call), ?_, ?_⟩
  · unfold take PollMerge.Fit
    split
    · exact hmerge
    · rw [(r.merge.take_frame id _).2]
      exact hmerge
  · unfold take
    split
    · exact Call.allFit_append hpending ⟨h.fit, trivial⟩
    · exact hpending

end Race

/-- Races that match are won at the same time. -/
theorem RacesMatch.unlessWon {p p' q q' : World × Race} (h : RacesMatch p p')
    (hq : RacesMatch q q') :
    RacesMatch (if p.2.winner.isSome then p else q) (if p'.2.winner.isSome then p' else q') := by
  rw [← h.race, Race.bare]
  split
  · exact h
  · exact hq

end LongPoll
