import Mathlib.Data.List.InsertIdx
import LongPoll.Proofs.Storage.Undecorated
/-!
# Decoration is transparent

Whoever uses a storage, alone or with others at the same time, cannot tell whether and where it is
decorated, except by the log.

* `Session`: a storage in use. At any time somebody makes a request, a call runs on or is dropped,
  time passes, or garbage is collected.
* `Storage.ActsAs`: two storages that cannot be told apart, neither by those who use them nor by
  the backends that they use.
* `Storage.actsAs_bare`: a storage acts as the one without decoration.

A storage hands out its operations by capability: a backend cannot be asked for what it is not able
to do, and several storages that act as one refuse it (`Storage.offers`).
-/

namespace LongPoll

/-! ### Waiting and collecting garbage -/

namespace Call

variable {w w' : World}

/-- A call can go on exactly if it can without decoration. -/
theorem canResume_bare (c : Call) (h : w.muted = w'.muted) :
    c.bare.canResume w' = c.canResume w := by
  induction c using Call.induct with
  | settled a => rw [bare, canResume, canResume]
  | sleeping wake a => rw [bare, canResume, canResume, World.time_eq_of_muted h]
  | polling slot poll =>
    rw [bare, canResume, canResume, World.memory?_eq_of_muted h slot, World.time_eq_of_muted h]
  | observed spans inner ih => rw [bare, canResume, ih]
  | gathering r parts ih | merging phase p parts ih =>
    rw [bare, canResume, canResume]
    induction parts with
    | nil => rw [allBare, anyCanResume, anyCanResume]
    | cons part parts ihparts =>
      obtain ⟨hfirst, hlater⟩ := List.forall_mem_cons.mp ih
      rw [allBare, anyCanResume, anyCanResume, hfirst, ihparts hlater]

/-- The timers of a call are those that it has without decoration. -/
theorem timers_bare (c : Call) : c.bare.timers = c.timers := by
  induction c using Call.induct with
  | observed spans inner ih => rw [bare, timers, ih]
  | gathering r parts ih | merging phase p parts ih =>
    rw [bare, timers, timers]
    induction parts with
    | nil => rw [allBare, allTimers]
    | cons part parts ihparts =>
      obtain ⟨hfirst, hlater⟩ := List.forall_mem_cons.mp ih
      rw [allBare, allTimers, allTimers, hfirst, ihparts hlater]
  | _ => rw [bare]

end Call

namespace World

variable {w w' : World}

/-- Lookups have the same answers where worlds differ in the log only. -/
theorem muted_findChannels (h : w.muted = w'.muted) (ids : List ChannelId) :
    (w.findChannels ids).1.muted = (w'.findChannels ids).1.muted ∧
      (w.findChannels ids).2 = (w'.findChannels ids).2 := by
  induction ids generalizing w w' with
  | nil => exact ⟨h, rfl⟩
  | cons id ids ih =>
    obtain ⟨hworld, hanswer⟩ := muted_findChannel h [] [] id
    obtain ⟨hrest, hfound⟩ := ih hworld
    rw [findChannels, findChannels]
    dsimp only
    rw [hanswer, hfound]
    split <;> exact ⟨hrest, rfl⟩

/-- Passes come to the same where worlds differ in the log only. -/
theorem muted_collect (h : w.muted = w'.muted) (slot : Nat) (timeout : Duration) (pace : Pace) :
    (w.collect slot timeout pace).1.muted = (w'.collect slot timeout pace).1.muted := by
  unfold collect
  rw [memory?_eq_of_muted h slot]
  split
  next => exact h
  next b _ =>
    split
    next => exact h
    next =>
      -- lookups have the same answers
      have hanswers : w.answers (pace.route b.memory) = w'.answers (pace.route b.memory) := by
        funext id
        rw [answers, answers, (muted_findChannels h _).2]
      dsimp only
      rw [hanswers, clock_eq_of_muted h]
      exact muted_setMemory (muted_findChannels h _).1 slot _

/-- Passes are due at the same times and come to the same where worlds differ in the log only. -/
theorem muted_collectIfDue (h : w.muted = w'.muted) (slot : Nat) (pace : Pace) :
    (w.collectIfDue slot pace).muted = (w'.collectIfDue slot pace).muted := by
  unfold collectIfDue
  rw [memory?_eq_of_muted h slot, time_eq_of_muted h]
  split
  next => exact h
  next b _ =>
    split
    next => exact h
    next =>
      split
      · have hcollect := muted_collect h slot b.options.collectTimeout pace
        -- the reports are muted
        have hreport : (((w.collect slot b.options.collectTimeout pace).1.report []
            (collectNotice (w.collect slot b.options.collectTimeout pace).2))).muted =
            ((w'.collect slot b.options.collectTimeout pace).1.report []
              (collectNotice (w'.collect slot b.options.collectTimeout pace).2)).muted := by
          rw [muted_report, muted_report, hcollect]
        dsimp only
        rw [memory?_eq_of_muted hreport slot, time_eq_of_muted hreport]
        split
        · exact congrArg (setBackend · slot _) hreport
        · exact hreport
      · exact h

end World

/-! ### Sessions -/

/-- How the operations of a storage are started and run on. -/
structure Service where
  /-- Whether an operation is offered at all. -/
  offers : StorageRequest → Bool
  /-- How an operation is started. -/
  start : Starter
  /-- How a call runs on. -/
  resume : List LogSpan → Call → World → World × Call

/-- The operations of a storage. -/
def Storage.service (s : Storage) : Service where
  offers := s.offers
  start := s.start
  resume spans c := c.resume spans

/-- A storage in use. -/
structure Session where
  /-- The world. -/
  world : World
  /-- The operations that have been started, without those that were dropped. -/
  calls : List Call

namespace Session

/-- What can happen to a storage in use. -/
inductive Occurrence where
  /-- Somebody makes a request, if it is offered. -/
  | request (r : StorageRequest)
  /-- One of the calls runs until it waits or ends. -/
  | resume (n : Nat)
  /-- One of the calls is dropped. -/
  | drop (n : Nat)
  /-- Time passes. -/
  | pass (clock : Timestamp) (time : Nat)
  /-- Garbage is collected at a backend if it is time to, until there is none left or the time is
  over. -/
  | collect (slot : Nat) (pace : Pace)
  /-- The directory of channels is exchanged. -/
  | exchange (directory : Directory)
  /-- What is logged is changed. -/
  | refilter (filter : LogFilter)

/-- What something that happens makes of a storage in use. -/
def happen (service : Service) (t : Session) : Occurrence → Session
  | .request r =>
    if service.offers r then
      ⟨(service.start [] r t.world).1, t.calls ++ [(service.start [] r t.world).2]⟩
    else t
  | .resume n =>
    match t.calls[n]? with
    | some c =>
      ⟨(service.resume [] c t.world).1, t.calls.set n (service.resume [] c t.world).2⟩
    | none => t
  | .drop n =>
    match t.calls[n]? with
    | some c => ⟨c.drop t.world, t.calls.eraseIdx n⟩
    | none => t
  | .pass clock time => { t with world := { t.world with clock := clock, time := time } }
  | .collect slot pace => { t with world := t.world.collectIfDue slot pace }
  | .exchange directory => { t with world := { t.world with directory := directory } }
  | .refilter filter => { t with world := t.world.replaceFilter filter }

/-- What all of it together makes of a world in which nothing is in progress. -/
def proceed (service : Service) (occurrences : List Occurrence) (w : World) : Session :=
  occurrences.foldl (happen service) ⟨w, []⟩

/-- The answers to the calls that have ended. -/
def answers (t : Session) : List (Option StorageAnswer) := t.calls.map Call.answer?

/-- Which calls can go on, and when something in them ends by itself. -/
def prospects (t : Session) : List (Bool × List Nat) :=
  t.calls.map fun c => (c.canResume t.world, c.timers)

/-- A storage in use stands as another one does, apart from the log and from decoration, which the
other one does without. -/
structure InStep (t t' : Session) : Prop where
  /-- The worlds differ in the log only. -/
  world : t.world.muted = t'.world.muted
  /-- The calls differ in decoration only. -/
  calls : t.calls.map Call.bare = t'.calls
  /-- The calls are ones that can arise. -/
  fit : ∀ c ∈ t.calls, c.Fit

end Session

/-- A service that does the same as another one, which does it without decoration. -/
structure Service.Matches (service service' : Service) : Prop where
  /-- The same operations are offered. -/
  offers : ∀ r, service.offers r = service'.offers r
  /-- They are started in the same way. -/
  start : ∀ r, service.offers r = true → service.start.Matches r service'.start
  /-- Calls run on in the same way. -/
  resume : ∀ {c : Call}, c.Fit → ∀ {w w' : World}, w.muted = w'.muted →
    LongPoll.Matches (service.resume [] c w) (service'.resume [] c.bare w')

namespace Session

variable {service service' : Service} {t t' : Session}

/-- Storages that are in step have given the same answers. -/
theorem InStep.answers_eq (h : InStep t t') : t.answers = t'.answers := by
  unfold answers
  rw [← h.calls, List.map_map]
  exact List.map_congr_left fun c hc => (Call.answer?_bare (h.fit c hc)).symm

/-- Storages that are in step can go on at the same times. -/
theorem InStep.prospects_eq (h : InStep t t') : t.prospects = t'.prospects := by
  unfold prospects
  rw [← h.calls, List.map_map]
  exact List.map_congr_left fun c _ =>
    Prod.ext (c.canResume_bare h.world).symm c.timers_bare.symm

/-- Whatever happens to storages that are in step leaves them in step. -/
theorem InStep.happen (hservice : service.Matches service') (h : InStep t t') (e : Occurrence) :
    InStep (happen service t e) (happen service' t' e) := by
  obtain ⟨w, calls⟩ := t
  obtain ⟨w', calls'⟩ := t'
  obtain rfl : calls.map Call.bare = calls' := h.calls
  -- what happens is the same on both sides, and each kind has its own lemma
  cases e with
  | request r =>
    rw [Session.happen, Session.happen, ← hservice.offers r]
    split
    next hoffers =>
      have hstarted := hservice.start r hoffers [] [] h.world
      refine ⟨hstarted.world, ?_, ?_⟩
      · rw [List.map_append, ← hstarted.call]
        rfl
      · exact List.forall_mem_append.mpr ⟨h.fit, List.forall_mem_singleton.mpr hstarted.fit⟩
    next => exact h
  | resume n =>
    rw [Session.happen, Session.happen]
    dsimp only
    rw [List.getElem?_map]
    cases hget : calls[n]? with
    | none => exact h
    | some c =>
      have hresumed := hservice.resume (h.fit c (List.mem_of_getElem? hget)) h.world
      refine ⟨hresumed.world, ?_, fun c' hc' => ?_⟩
      · rw [List.map_set, hresumed.call]
        rfl
      -- one call has been replaced, and the others are as before
      · obtain hold | rfl := List.mem_or_eq_of_mem_set hc'
        · exact h.fit c' hold
        · exact hresumed.fit
  | drop n =>
    rw [Session.happen, Session.happen]
    dsimp only
    rw [List.getElem?_map]
    cases calls[n]? with
    | none => exact h
    | some c =>
      refine ⟨c.muted_drop h.world, ?_, fun c' hc' => h.fit c' (List.mem_of_mem_eraseIdx hc')⟩
      exact (List.eraseIdx_map Call.bare calls n).symm
  | pass clock time =>
    exact ⟨congrArg (fun v : World => { v with clock := clock, time := time }) h.world, rfl, h.fit⟩
  | collect slot pace => exact ⟨World.muted_collectIfDue h.world slot pace, rfl, h.fit⟩
  | exchange directory =>
    exact ⟨congrArg (fun v : World => { v with directory := directory }) h.world, rfl, h.fit⟩
  | refilter filter => exact ⟨congrArg (World.replaceFilter · filter) h.world, rfl, h.fit⟩

/-- Whatever happens to both, they stand the same. -/
theorem inStep_proceed (hservice : service.Matches service') (occurrences : List Occurrence)
    (w : World) : InStep (proceed service occurrences w) (proceed service' occurrences w) := by
  have hrun : ∀ {t t' : Session}, InStep t t' →
      InStep (occurrences.foldl (happen service) t) (occurrences.foldl (happen service') t') := by
    induction occurrences with
    | nil => exact id
    | cons e occurrences ih => exact fun h => ih (h.happen hservice e)
  exact hrun ⟨rfl, rfl, fun c hc => nomatch hc⟩

end Session

/-! ### Calls of backends -/

/-- The calls that have been noted at a place, the last one first. -/
def World.notesAt (w : World) (slot : Nat) : List StorageRequest :=
  match w.backend? slot with
  | some (.scripted s) => s.calls
  | _ => []

/-- Take a note of a call. -/
def World.note (w : World) (slot : Nat) (r : StorageRequest) : World :=
  match w.backend? slot with
  | some (.scripted s) => w.setBackend slot (.scripted (s.record r))
  | _ => w

/-- The world with a place for notes about each backend, behind all backends. -/
def World.withNotes (w : World) : World :=
  let blank : ScriptedStorage := ⟨⟨[], [], [], [], [], [], []⟩, []⟩
  { w with backends := w.backends ++ w.backends.map fun _ => .scripted blank }

/-- How a backend starts an operation if a note of it is taken first, so many places behind. -/
def Backend.noting (offset : Nat) (b : Backend) : Starter := fun spans r w =>
  b.start spans r (w.note (offset + b.slot) r)

/-- The operations of a storage whose backends are called only after a note has been taken. -/
def Storage.notingService (offset : Nat) (s : Storage) : Service where
  offers := s.offers
  start := s.startWith (Backend.noting offset)
  resume spans c := c.resumeWith (Backend.noting offset) spans

/-- The calls of the backend at a place in the course of what happens to a storage, with what was
asked, the last one first. -/
def Storage.callsAt (s : Storage) (w : World) (occurrences : List Session.Occurrence)
    (slot : Nat) : List StorageRequest :=
  (Session.proceed (s.notingService w.backends.length) occurrences w.withNotes).world.notesAt
    (w.backends.length + slot)

/-- The same note can be taken where worlds differ in the log only. -/
theorem World.muted_note {w w' : World} (h : w.muted = w'.muted) (slot : Nat)
    (r : StorageRequest) : (w.note slot r).muted = (w'.note slot r).muted := by
  have hbackend : w.backend? slot = w'.backend? slot :=
    eq_of_muted h (backend? · slot) fun _ => rfl
  unfold note
  rw [hbackend]
  split
  · exact congrArg (setBackend · slot _) h
  · exact h

/-- To take a note of its calls does not make a backend see decoration. -/
theorem Backend.matches_noting (offset : Nat) (b : Backend) (r : StorageRequest) :
    (b.noting offset).Matches r (b.noting offset) := fun spans spans' _ _ h =>
  b.matches_start r spans spans' (World.muted_note h (offset + b.slot) r)

/-! ### Storages -/

namespace Storage

/-- The operations of a storage match those that it has without decoration. -/
theorem service_matches (s : Storage) : s.service.Matches s.bare.service where
  offers r := (offers_bare s r).symm
  start r hoffers := by
    have hstart := matches_startWith_of_offers Backend.matches_start hoffers
    rwa [startWith_start, startWith_start] at hstart
  resume {c} hfit {w w'} h := by
    have hresume := Call.matches_resumeWith Backend.matches_start hfit [] [] h
    rwa [Call.resumeWith_start, Call.resumeWith_start] at hresume

/-- They still do if notes are taken of the calls of its backends. -/
theorem notingService_matches (offset : Nat) (s : Storage) :
    (s.notingService offset).Matches (s.bare.notingService offset) where
  offers r := (offers_bare s r).symm
  start _ hoffers := matches_startWith_of_offers (Backend.matches_noting offset) hoffers
  resume hfit _ _ h := Call.matches_resumeWith (Backend.matches_noting offset) hfit [] [] h

/-- Two storages cannot be told apart, neither by those who use them, whatever they do at the same
time, nor by the backends inside. -/
structure ActsAs (s s' : Storage) : Prop where
  /-- They have the same backends in the same places. -/
  leaves : s.leaves = s'.leaves
  /-- They have the same capabilities. -/
  has : ∀ c, s.has c = s'.has c
  /-- They are called the same. -/
  display : s.display = s'.display
  /-- They may hold the same number of descriptors. -/
  descriptors : s.descriptors = s'.descriptors
  /-- Operations end with the same results and errors. -/
  answers : ∀ w occurrences, (Session.proceed s.service occurrences w).answers =
    (Session.proceed s'.service occurrences w).answers
  /-- Operations that have not ended can go on at the same times. -/
  prospects : ∀ w occurrences, (Session.proceed s.service occurrences w).prospects =
    (Session.proceed s'.service occurrences w).prospects
  /-- They leave the same contents in the backends and all else but the log the same. -/
  world : ∀ w occurrences, (Session.proceed s.service occurrences w).world.muted =
    (Session.proceed s'.service occurrences w).world.muted
  /-- Each backend gets the same calls. -/
  calls : ∀ w occurrences slot, s.callsAt w occurrences slot = s'.callsAt w occurrences slot

/-- However a storage is decorated, at any place inside and however often, it acts as the one
without decoration. -/
theorem actsAs_bare (s : Storage) : s.ActsAs s.bare where
  leaves := (leaves_bare s).symm
  has c := (has_bare c s).symm
  display := (display_bare s).symm
  descriptors := (descriptors_bare s).symm
  answers w occurrences := (Session.inStep_proceed s.service_matches occurrences w).answers_eq
  prospects w occurrences := (Session.inStep_proceed s.service_matches occurrences w).prospects_eq
  world w occurrences := (Session.inStep_proceed s.service_matches occurrences w).world
  calls w occurrences slot := by
    have hstep := Session.inStep_proceed (s.notingService_matches w.backends.length) occurrences
      w.withNotes
    exact World.eq_of_muted hstep.world (World.notesAt · (w.backends.length + slot)) fun _ => rfl

/-- Decoration comes off at the root and inside, and also when there are two layers of it. -/
example (id id' left right : StorageId) (b b' : Backend) :
    (decorated id (decorated id' (multiplexer
      [(left, decorated left (backend b)), (right, multiplexer [(left, backend b')])]))).bare =
      multiplexer [(left, backend b), (right, multiplexer [(left, backend b')])] := rfl

end Storage

end LongPoll
