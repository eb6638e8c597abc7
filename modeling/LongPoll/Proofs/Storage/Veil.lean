import LongPoll.Proofs.Storage.Steady
/-!
# Operations with veiled errors

A storage that fails gives an error. Which one makes no difference to what operations do: it is
kept, joined with others and reported, but no operation goes another way because of it. To say so,
errors are veiled, which makes all of them the same, and the log, in which they are reported, is
left out.

* `World.Alike`: worlds that differ in the errors of scripted backends and in the log only.
* `Call.veiled`: a call with its errors veiled. Calls are alike if they are the same then.
* `Alike`: a world and a call that differ from others in no more than that.
* `Backend.blind_start`: a backend that starts an operation in worlds that are alike comes to worlds
  and calls that are alike.
* `Call.veiled_gather`, `PollMerge.alike_afterClosing`: so do several storages when their answers
  are combined.
-/

namespace LongPoll

/-! ### Veils -/

/-- An answer with its error veiled. -/
def veil {α : Type} : Except Error α → Except Error α
  | .ok a => .ok a
  | .error _ => .error default

@[simp]
theorem veil_ok {α : Type} (a : α) : veil (.ok a) = .ok a := rfl

@[simp]
theorem veil_error {α : Type} (e : Error) : veil (.error e : Except Error α) = .error default := rfl

@[simp]
theorem veil_veil {α : Type} (a : Except Error α) : veil (veil a) = veil a := by
  cases a <;> rfl

@[simp]
theorem veil_map {α β : Type} (f : α → β) (a : Except Error α) :
    veil (a.map f) = (veil a).map f := by
  cases a <;> rfl

/-- Answers that differ in their errors at most are the same success or two failures. -/
theorem veil_cases {α : Type} {a a' : Except Error α} (h : veil a = veil a') :
    (∃ x, a = .ok x ∧ a' = .ok x) ∨ ∃ e e', a = .error e ∧ a' = .error e' := by
  cases a <;> cases a' <;> simp_all

/-- Answers of several storages with their errors veiled. -/
def veilAll (answers : List (StorageId × StorageAnswer)) : List (StorageId × StorageAnswer) :=
  answers.map fun x => (x.1, veil x.2)

/-- Failures of several storages with their errors veiled. -/
def veilFailures (failures : List (StorageId × Error)) : List (StorageId × Error) :=
  failures.map fun x => (x.1, default)

/-- A line of a script with its error veiled. -/
def ScriptLine.veiled {α : Type} (l : ScriptLine α) : ScriptLine α :=
  { l with answer := veil l.answer }

/-- A script with its errors veiled. -/
def Script.veiled (s : Script) : Script where
  publish := s.publish.map .veiled
  poll := s.poll.map .veiled
  revoke := s.revoke.map .veiled
  isRevoked := s.isRevoked.map .veiled
  liveness := s.liveness.map .veiled
  readiness := s.readiness.map .veiled
  shutdown := s.shutdown.map .veiled

/-- A scripted storage with its errors veiled. -/
def ScriptedStorage.veiled (s : ScriptedStorage) : ScriptedStorage :=
  { s with script := s.script.veiled }

/-- The contents of a backend with its errors veiled. -/
def BackendState.veiled : BackendState → BackendState
  | memory m => .memory m
  | scripted s => .scripted s.veiled

/-- A poll of several storages with its errors veiled. -/
def PollMerge.veiled (p : PollMerge) : PollMerge := { p with failures := veilFailures p.failures }

mutual

/-- A call with its errors veiled. -/
def Call.veiled : Call → Call
  | settled a => .settled (veil a)
  | sleeping wake a => .sleeping wake (veil a)
  | polling slot poll => .polling slot poll
  | gathering r parts => .gathering r (allVeiled parts)
  | merging phase p parts => .merging phase p.veiled (allVeiled parts)
  | observed spans inner => .observed spans inner.veiled

/-- Several calls with their errors veiled. -/
def Call.allVeiled : List (StorageId × Call) → List (StorageId × Call)
  | [] => []
  | (id, c) :: rest => (id, c.veiled) :: allVeiled rest

end

/-- A race with its errors veiled. -/
def Race.veiled (r : Race) : Race :=
  { r with merge := r.merge.veiled, pending := Call.allVeiled r.pending }

/-- Worlds that differ in errors and in the log only. -/
structure World.Alike (w w' : World) : Prop where
  /-- The wall clock shows the same. -/
  clock_eq : w.clock = w'.clock
  /-- As much time has passed. -/
  time_eq : w.time = w'.time
  /-- Channels are looked up in the same directory. -/
  directory_eq : w.directory = w'.directory
  /-- The contents of backends differ in errors only. -/
  backends_eq : w.backends.map BackendState.veiled = w'.backends.map BackendState.veiled
  /-- The next poll gets the same ticket. -/
  nextTicket_eq : w.nextTicket = w'.nextTicket
  /-- The next message without a name gets the same one. -/
  nextMessage_eq : w.nextMessage = w'.nextMessage
  /-- The same events are recorded. -/
  filter_eq : w.filter = w'.filter
  /-- That was changed as often. -/
  filterEra_eq : w.filterEra = w'.filterEra

/-- An operation has come to worlds and calls that differ in errors and in the log only. -/
structure Alike (p p' : World × Call) : Prop where
  /-- The worlds are alike. -/
  world : p.1.Alike p'.1
  /-- The calls are alike. -/
  call : p.2.veiled = p'.2.veiled

/-- Operations have come to worlds and calls that differ in errors and in the log only. -/
structure AllAlike (p p' : World × List (StorageId × Call)) : Prop where
  /-- The worlds are alike. -/
  world : p.1.Alike p'.1
  /-- The calls are alike. -/
  calls : Call.allVeiled p.2 = Call.allVeiled p'.2

/-- A storage that starts operations does not see errors. -/
def Starter.Blind (start : Starter) : Prop :=
  ∀ spans r {w w' : World}, w.Alike w' → Alike (start spans r w) (start spans r w')

/-! ### Worlds -/

namespace World

variable {w w' w'' : World} {slot : Nat}

theorem Alike.refl (w : World) : w.Alike w := ⟨rfl, rfl, rfl, rfl, rfl, rfl, rfl, rfl⟩

/-- It does not matter which of two worlds comes first. -/
theorem Alike.symm (h : w.Alike w') : w'.Alike w where
  clock_eq := h.clock_eq.symm
  time_eq := h.time_eq.symm
  directory_eq := h.directory_eq.symm
  backends_eq := h.backends_eq.symm
  nextTicket_eq := h.nextTicket_eq.symm
  nextMessage_eq := h.nextMessage_eq.symm
  filter_eq := h.filter_eq.symm
  filterEra_eq := h.filterEra_eq.symm

/-- What is like a world that is like another is like that one. -/
theorem Alike.trans (h : w.Alike w') (h' : w'.Alike w'') : w.Alike w'' where
  clock_eq := h.clock_eq.trans h'.clock_eq
  time_eq := h.time_eq.trans h'.time_eq
  directory_eq := h.directory_eq.trans h'.directory_eq
  backends_eq := h.backends_eq.trans h'.backends_eq
  nextTicket_eq := h.nextTicket_eq.trans h'.nextTicket_eq
  nextMessage_eq := h.nextMessage_eq.trans h'.nextMessage_eq
  filter_eq := h.filter_eq.trans h'.filter_eq
  filterEra_eq := h.filterEra_eq.trans h'.filterEra_eq

/-- What is recorded in the log is not seen. -/
theorem Alike.logs {v v' : World} (h : w.Alike w') (hlogs : w.Logs v) (hlogs' : w'.Logs v') :
    v.Alike v' := by
  obtain ⟨events, rfl⟩ := hlogs
  obtain ⟨events', rfl⟩ := hlogs'
  exact { h with }

/-- Whatever is reported in either world, they stay alike. -/
theorem Alike.report (h : w.Alike w') (spans : List LogSpan) (n n' : Notice) :
    (w.report spans n).Alike (w'.report spans n') :=
  h.logs (w.logs_report spans n) (w'.logs_report spans n')

/-- Whatever is reported in either world, however much, they stay alike. -/
theorem Alike.reportAll (h : w.Alike w') (spans : List LogSpan) (ns ns' : List Notice) :
    (w.reportAll spans ns).Alike (w'.reportAll spans ns') :=
  h.logs (w.reportAll_eq spans ns) (w'.reportAll_eq spans ns')

/-- The same operations are recorded in worlds that are alike. -/
theorem Alike.enter_eq (h : w.Alike w') (spans : List LogSpan) (s : LogSpan) :
    w.enter spans s = w'.enter spans s := by
  unfold enter underFilter
  rw [h.filter_eq, h.filterEra_eq]

/-- A backend has the same contents in either world, apart from errors. -/
theorem Alike.backend?_eq (h : w.Alike w') (slot : Nat) :
    (w.backend? slot).map BackendState.veiled = (w'.backend? slot).map BackendState.veiled := by
  rw [backend?, backend?, ← List.getElem?_map, ← List.getElem?_map, h.backends_eq]

/-- Memory engines hold no errors. -/
theorem Alike.memory?_eq (h : w.Alike w') (slot : Nat) : w.memory? slot = w'.memory? slot := by
  have hbackend := h.backend?_eq slot
  unfold memory?
  cases hb : w.backend? slot with
  | none =>
    rw [hb, Option.map_none, eq_comm, Option.map_eq_none_iff] at hbackend
    rw [hbackend]
  | some b =>
    rw [hb, Option.map_some, eq_comm, Option.map_eq_some_iff] at hbackend
    obtain ⟨b', hb', hveiled⟩ := hbackend
    rw [hb']
    cases b <;> cases b' <;> simp_all [BackendState.veiled]

/-- Worlds stay alike if a backend gets contents that differ in errors only. -/
theorem Alike.setBackend (h : w.Alike w') (slot : Nat) {b b' : BackendState}
    (hb : b.veiled = b'.veiled) : (w.setBackend slot b).Alike (w'.setBackend slot b') := by
  refine { h with backends_eq := ?_ }
  unfold World.setBackend
  rw [List.map_set, List.map_set, h.backends_eq, hb]

/-- Worlds stay alike if a memory engine gets the same contents. -/
theorem Alike.setMemory (h : w.Alike w') (slot : Nat) (m : Memory) :
    (w.setMemory slot m).Alike (w'.setMemory slot m) := by
  unfold World.setMemory
  rw [h.memory?_eq slot]
  split
  · exact h.setBackend slot rfl
  · exact h

/-- Where channels are looked up no error of a backend is seen. -/
theorem Alike.findChannel (h : w.Alike w') (spans : List LogSpan) (id : ChannelId) :
    (w.findChannel spans id).1.Alike (w'.findChannel spans id).1 ∧
      (w.findChannel spans id).2 = (w'.findChannel spans id).2 := by
  obtain ⟨events, heq⟩ := w.findChannel_eq spans id
  obtain ⟨events', heq'⟩ := w'.findChannel_eq spans id
  rw [heq, heq', h.clock_eq, h.directory_eq]
  exact ⟨{ h with clock_eq := rfl, directory_eq := rfl }, rfl⟩

end World

/-! ### Backends -/

namespace ScriptedStorage

theorem line_veiled {α : Type} (lines : List (ScriptLine α)) (n : Nat) (past : ScriptLine α) :
    line (lines.map .veiled) n past.veiled = (line lines n past).veiled := by
  simp [line, List.getD_eq_getElem?_getD, Option.getD_map]

theorem reply_veiled {α : Type} (f : α → StorageReply) (l : ScriptLine α) :
    reply f l.veiled = (reply f l).veiled := by
  simp [reply, ScriptLine.veiled]

/-- A script says the same with its errors veiled, only not which error. -/
theorem lineFor_veiled (s : ScriptedStorage) (r : StorageRequest) (waitMillis : Duration → Nat) :
    s.veiled.lineFor r waitMillis = (s.lineFor r waitMillis).veiled := by
  have hcalls : s.veiled.callsBefore r = s.callsBefore r := rfl
  cases r <;> simp only [lineFor, hcalls, ← reply_veiled, ← line_veiled] <;> rfl

end ScriptedStorage

section Backend

variable {w w' : World}

/-- A poll that has looked leaves worlds alike and stands the same in both. -/
theorem World.Alike.polled (h : w.Alike w') (spans : List LogSpan) (slot : Nat) (s : PollStep) :
    LongPoll.Alike (LongPoll.polled spans slot s w) (LongPoll.polled spans slot s w') := by
  obtain ⟨events, heq⟩ := polled_eq spans slot s w
  obtain ⟨events', heq'⟩ := polled_eq spans slot s w'
  rw [heq, heq']
  exact ⟨{ h.setMemory slot s.memory with }, rfl⟩

/-- A memory engine does the same in worlds that are alike. -/
theorem blind_startMemory (slot : Nat) (b : MemoryBackend) : (startMemory slot b).Blind := by
  intro spans r w w' h
  cases r with
  | publish message =>
    -- both worlds find the same channel, or none
    obtain ⟨hworld, hanswer⟩ := h.findChannel spans message.channel
    rw [startMemory, startMemory]
    generalize w.findChannel spans message.channel = found at hworld hanswer
    generalize w'.findChannel spans message.channel = found' at hworld hanswer
    obtain ⟨w₁, answer⟩ := found
    obtain ⟨w₁', answer'⟩ := found'
    obtain rfl : answer = answer' := hanswer
    cases answer with
    | error e => exact ⟨hworld, rfl⟩
    | ok channel =>
      dsimp only at hworld ⊢
      rw [hworld.clock_eq]
      exact ⟨(hworld.setMemory slot _).report spans _ _, rfl⟩
  | poll locator max wait =>
    have hdirectory : (w.directory.find w.clock locator.channel).directory =
        (w'.directory.find w'.clock locator.channel).directory := by
      rw [h.directory_eq, h.clock_eq]
    cases hfind : (w.directory.find w.clock locator.channel).answer with
    | error e =>
      obtain ⟨events, heq⟩ := startMemory_poll_of_error slot b spans hfind max wait
      rw [h.directory_eq, h.clock_eq] at hfind
      obtain ⟨events', heq'⟩ := startMemory_poll_of_error slot b spans hfind max wait
      rw [heq, heq']
      exact ⟨{ h with directory_eq := hdirectory }, rfl⟩
    | ok channel =>
      obtain ⟨events, heq⟩ := startMemory_poll_of_ok slot b spans hfind max wait
      rw [h.directory_eq, h.clock_eq] at hfind
      obtain ⟨events', heq'⟩ := startMemory_poll_of_ok slot b spans hfind max wait
      -- the poll itself is the same one
      have horder : w.order channel locator max wait = w'.order channel locator max wait := by
        rw [World.order, World.order, h.time_eq, h.nextTicket_eq]
      have hstep : b.memory.startPoll w.clock w.time (w.order channel locator max wait) =
          b.memory.startPoll w'.clock w'.time (w'.order channel locator max wait) := by
        rw [h.clock_eq, h.time_eq, horder]
      rw [heq, heq', hstep]
      exact ⟨{ h.setMemory slot _ with
        directory_eq := hdirectory
        nextTicket_eq := congrArg (· + 1) h.nextTicket_eq }, rfl⟩
  | revoke exp jti => exact ⟨(h.setMemory slot _).report spans _ _, rfl⟩
  | shutdown => exact ⟨(h.setBackend slot rfl).report spans _ _, rfl⟩
  | _ => exact ⟨h, rfl⟩

/-- Scripted storages with scripts that differ in errors only do the same. -/
theorem alike_startScripted (h : w.Alike w') (slot : Nat) {s s' : ScriptedStorage}
    (hs : s.veiled = s'.veiled) (spans : List LogSpan) (r : StorageRequest) :
    Alike (startScripted slot s spans r w) (startScripted slot s' spans r w') := by
  have hline : (s.lineFor r World.waitMillis).veiled = (s'.lineFor r World.waitMillis).veiled := by
    rw [← s.lineFor_veiled, ← s'.lineFor_veiled, hs]
  obtain ⟨hdelay, hanswer⟩ := ScriptLine.mk.inj hline
  have hworld : (w.setBackend slot (.scripted (s.record r))).Alike
      (w'.setBackend slot (.scripted (s'.record r))) := by
    refine h.setBackend slot (congrArg BackendState.scripted ?_)
    exact congrArg (ScriptedStorage.record · r) hs
  unfold startScripted
  dsimp only
  rw [hdelay]
  -- the answers are the same under the veil, be they given now or later
  have hsettled : (Call.settled (s.lineFor r World.waitMillis).answer).veiled =
      (Call.settled (s'.lineFor r World.waitMillis).answer).veiled := by
    rw [Call.veiled, Call.veiled, hanswer]
  split
  · split
    · exact ⟨hworld, hsettled⟩
    · refine ⟨hworld, ?_⟩
      rw [Call.veiled, Call.veiled, hanswer, hworld.time_eq]
  · exact ⟨hworld, hsettled⟩

/-- A backend does not see errors when it starts an operation. -/
theorem Backend.blind_start (b : Backend) : b.start.Blind := by
  intro spans r w w' h
  have hbackend := h.backend?_eq b.slot
  unfold Backend.start
  cases hb : w.backend? b.slot with
  | none =>
    rw [hb, Option.map_none, eq_comm, Option.map_eq_none_iff] at hbackend
    rw [hbackend]
    exact ⟨h, rfl⟩
  | some state =>
    rw [hb, Option.map_some, eq_comm, Option.map_eq_some_iff] at hbackend
    obtain ⟨state', hb', hveiled⟩ := hbackend
    rw [hb']
    -- both are memory engines, or both are scripted
    cases state with
    | memory m =>
      cases state' with
      | memory m' =>
        obtain rfl := BackendState.memory.inj hveiled
        exact blind_startMemory b.slot m' spans r h
      | scripted s' => exact absurd hveiled nofun
    | scripted s =>
      cases state' with
      | memory m' => exact absurd hveiled nofun
      | scripted s' =>
        exact alike_startScripted h b.slot (BackendState.scripted.inj hveiled).symm spans r

end Backend

/-! ### Answers -/

section Answers

variable {w w' : World} {c c' : Call} {parts parts' : List (StorageId × Call)}
  {answers : List (StorageId × StorageAnswer)}

theorem saysRevoked_veil (a : StorageAnswer) : saysRevoked (veil a) = saysRevoked a := by
  cases a <;> rfl

/-- The failures among veiled answers are the failures, veiled. -/
theorem failuresOf_veilAll (answers : List (StorageId × StorageAnswer)) :
    failuresOf (veilAll answers) = veilFailures (failuresOf answers) := by
  induction answers with
  | nil => rfl
  | cons x answers ih =>
    obtain ⟨id, a⟩ := x
    cases a with
    | error e => exact congrArg ((id, default) :: ·) ih
    | ok reply => exact ih

/-- Details are seen through the veil. -/
theorem detailsOf_veilAll (answers : List (StorageId × StorageAnswer)) :
    detailsOf (veilAll answers) = detailsOf answers := by
  induction answers with
  | nil => rfl
  | cons x answers ih =>
    obtain ⟨id, a⟩ := x
    cases a with
    | error e => exact ih
    | ok reply =>
      cases reply with
      | detail j => exact congrArg ((id.text, j) :: ·) ih
      | _ => exact ih

/-- Whether there are failures is seen, but not which ones. -/
theorem veil_join {α : Type} (failures : List (StorageId × Error)) (a : α) :
    veil (match Error.join (veilFailures failures) with
      | .error e => .error e
      | .ok () => .ok a) =
    veil (match Error.join failures with
      | .error e => .error e
      | .ok () => .ok a) := by
  cases failures <;> rfl

/-- Answers are combined without a regard to errors. -/
theorem veil_combineAnswers (r : StorageRequest) (answers : List (StorageId × StorageAnswer)) :
    veil (combineAnswers r (veilAll answers)) = veil (combineAnswers r answers) := by
  have hany : ((veilAll answers).any fun x => saysRevoked x.2) =
      answers.any fun x => saysRevoked x.2 := by
    simp [veilAll, List.any_map, Function.comp_def, saysRevoked_veil]
  unfold combineAnswers
  dsimp only
  rw [hany, failuresOf_veilAll, detailsOf_veilAll]
  split
  · rfl
  · exact veil_join _ _

namespace Call

theorem answer?_veiled (c : Call) : c.veiled.answer? = c.answer?.map veil := by
  cases c <;> rfl

/-- Veiled calls end with the veiled answers. -/
theorem answers?_allVeiled (parts : List (StorageId × Call)) :
    answers? (allVeiled parts) = (answers? parts).map veilAll := by
  induction parts with
  | nil => rfl
  | cons part parts ih =>
    obtain ⟨id, c⟩ := part
    rw [allVeiled, answers?, answers?, ih, c.answer?_veiled]
    cases c.answer? <;> cases answers? parts <;> rfl

/-- The veil covers one call after the other. -/
theorem allVeiled_append (parts parts' : List (StorageId × Call)) :
    allVeiled (parts ++ parts') = allVeiled parts ++ allVeiled parts' := by
  induction parts with
  | nil => rfl
  | cons part parts ih =>
    obtain ⟨id, c⟩ := part
    rw [List.cons_append, allVeiled, allVeiled, ih, List.cons_append]

/-- Calls that are alike have both ended, with answers that differ in the error at most, or both
have not. -/
theorem answer?_cases (h : c.veiled = c'.veiled) : (c.answer? = none ∧ c'.answer? = none) ∨
    ∃ a a', c.answer? = some a ∧ c'.answer? = some a' ∧ veil a = veil a' := by
  have hanswer : c.answer?.map veil = c'.answer?.map veil := by
    rw [← answer?_veiled, ← answer?_veiled, h]
  cases ha : c.answer? <;> cases ha' : c'.answer? <;> simp_all

/-- Several calls that are alike have all ended, with answers that differ in errors at most, or some
of either have not. -/
theorem answers?_cases (h : allVeiled parts = allVeiled parts') :
    (answers? parts = none ∧ answers? parts' = none) ∨
    ∃ as as', answers? parts = some as ∧ answers? parts' = some as' ∧ veilAll as = veilAll as' := by
  have hanswers : (answers? parts).map veilAll = (answers? parts').map veilAll := by
    rw [← answers?_allVeiled, ← answers?_allVeiled, h]
  cases has : answers? parts <;> cases has' : answers? parts' <;> simp_all

/-- Calls that are alike are gathered alike. -/
theorem veiled_gather (h : allVeiled parts = allVeiled parts') (r : StorageRequest) :
    (gather r parts).veiled = (gather r parts').veiled := by
  unfold gather
  rcases answers?_cases h with ⟨hnone, hnone'⟩ | ⟨as, as', has, has', hveiled⟩
  · rw [hnone, hnone', veiled, veiled, h]
  · rw [has, has', veiled, veiled, ← veil_combineAnswers r as, hveiled, veil_combineAnswers]

end Call

/-- To log operations that are alike leaves them and the worlds alike. -/
theorem World.Alike.observe (h : w.Alike w') (hc : c.veiled = c'.veiled) (spans : List LogSpan) :
    LongPoll.Alike (LongPoll.observe spans c w) (LongPoll.observe spans c' w') := by
  unfold LongPoll.observe
  rcases Call.answer?_cases hc with ⟨hnone, hnone'⟩ | ⟨a, a', ha, ha', hveiled⟩
  · rw [hnone, hnone']
    refine ⟨h, ?_⟩
    rw [Call.veiled, Call.veiled, hc]
  · rw [ha, ha']
    -- the failures that are reported may differ, but not whether there is one
    obtain ⟨reply, rfl, rfl⟩ | ⟨e, e', rfl, rfl⟩ := veil_cases hveiled
    · exact ⟨h.report spans _ _, rfl⟩
    · exact ⟨h.report spans _ _, rfl⟩

end Answers

/-! ### Polls of several storages -/

namespace PollMerge

variable {p p' : PollMerge} {w w' : World} {answers answers' : List (StorageId × StorageAnswer)}

/-- An answer is taken in without a regard to errors. -/
theorem veiled_take (p : PollMerge) (id : StorageId) (a : StorageAnswer) :
    (p.take id a).veiled = p.veiled.take id (veil a) := by
  cases a with
  | error e => simp [take, veiled, veilFailures]
  | ok reply =>
    cases reply with
    | messages ms => simp only [veil_ok, take]; split <;> rfl
    | _ => rfl

/-- Several answers are taken in without a regard to errors. -/
theorem veiled_takeAll (p : PollMerge) (answers : List (StorageId × StorageAnswer)) :
    (p.takeAll answers).veiled = p.veiled.takeAll (veilAll answers) := by
  induction answers generalizing p with
  | nil => rfl
  | cons x answers ih =>
    obtain ⟨id, a⟩ := x
    have hrest := ih (p.take id a)
    rw [veiled_take] at hrest
    exact hrest

/-- The answers of a sweep are taken in without a regard to errors. -/
theorem veiled_takeSweep (p : PollMerge) (answers : List (StorageId × StorageAnswer)) :
    (p.takeSweep answers).veiled = p.veiled.takeSweep (veilAll answers) := by
  unfold takeSweep
  dsimp only
  rw [← veiled_takeAll]
  -- who has failed is told by the name alone
  simp [veiled, veilFailures, List.any_map, Function.comp_def]

/-- What a poll of several storages answers is seen through the veil, apart from errors. -/
theorem veil_answer (p : PollMerge) : veil p.veiled.answer = veil p.answer := by
  unfold answer
  have hbatches : p.veiled.batches = p.batches := rfl
  rw [hbatches]
  split
  · exact veil_join _ _
  · rfl

/-- Polls that are alike end alike. -/
theorem alike_finish (hp : p.veiled = p'.veiled) (h : w.Alike w') (spans : List LogSpan) :
    Alike (p.finish spans w) (p'.finish spans w') := by
  refine ⟨h.reportAll spans _ _, ?_⟩
  show (Call.settled p.answer).veiled = (Call.settled p'.answer).veiled
  rw [Call.veiled, Call.veiled, ← p.veil_answer, hp, p'.veil_answer]

/-- Polls that are alike go on alike after their last sweep. -/
theorem alike_afterClosing {parts parts' : List (StorageId × Call)} (hp : p.veiled = p'.veiled)
    (hparts : Call.allVeiled parts = Call.allVeiled parts') (h : w.Alike w')
    (spans : List LogSpan) :
    Alike (p.afterClosing spans parts w) (p'.afterClosing spans parts' w') := by
  unfold afterClosing
  rcases Call.answers?_cases hparts with ⟨hnone, hnone'⟩ | ⟨as, as', has, has', hveiled⟩
  · rw [hnone, hnone']
    refine ⟨h, ?_⟩
    rw [Call.veiled, Call.veiled, hp, hparts]
  · rw [has, has']
    refine alike_finish ?_ h spans
    rw [veiled_takeAll, veiled_takeAll, hp, hveiled]

end PollMerge

/-- A race takes in how a member stands without a regard to errors. -/
theorem Race.veiled_take (r : Race) (id : StorageId) (c : Call) :
    (r.take id c).veiled = r.veiled.take id c.veiled := by
  unfold take
  rw [c.answer?_veiled]
  cases c.answer? with
  | none => simp [veiled, Call.allVeiled_append, Call.allVeiled]
  | some a =>
    -- whether a member has won is told by the messages alone
    have hmerge : r.veiled.merge.take id (veil a) = (r.merge.take id a).veiled :=
      (r.merge.veiled_take id a).symm
    dsimp only [Option.map_some]
    rw [hmerge]
    rfl

end LongPoll
