import LongPoll.Proofs.Engine.Pending
import LongPoll.Proofs.Engine.Serving
import LongPoll.Proofs.Merge.Books
/-!
# Backends that keep books

The polls of a storage in memory are safe to drop, and so are those of a scripted storage that never
hands a message out, however long it takes. Several backends of these kinds, with places of their
own, keep books about every message and every consumer (`kept_backendBooks`).
-/

namespace LongPoll

/-- A backend hands out no messages but those that are pending. -/
def BackendState.Quiet : BackendState → Prop
  | memory _ => True
  | scripted s => ∀ line ∈ s.script.poll, ∀ ms, line.answer = .ok ms → ms = []

namespace World

/-- The copies of a message that are pending for a consumer at a backend. -/
def copiesAt (w : World) (slot : Nat) (x : Message) (l : Locator) : Nat :=
  match w.backend? slot with
  | some (.memory b) => (b.memory.pending w.clock l).count x
  | _ => 0

/-- A call is a poll for a consumer that waits at a backend. -/
def PollsAt (w : World) (slot : Nat) (l : Locator) (c : Call) : Prop :=
  (∃ b poll, w.backend? slot = some (.memory b) ∧ c = .polling slot poll ∧
    poll.order.locator = l ∧ poll.order.channel.id = l.channel) ∨
  ∃ wake a, c = .sleeping wake a ∧ StorageAnswer.delivered a = []

/-- There is a quiet backend at a place. -/
def Serves (w : World) (slot : Nat) : Prop := ∃ s, w.backend? slot = some s ∧ s.Quiet

/-- What happens concerns one backend only. -/
structure Stirs (slot : Nat) (w w' : World) : Prop where
  /-- Channels are found under their own names. -/
  filed : w'.directory.Promises FiledAs
  /-- The wall clock stands still. -/
  clock_eq : w'.clock = w.clock
  /-- The other backends are left alone. -/
  others : ∀ slot', slot' ≠ slot → w'.backend? slot' = w.backend? slot'
  /-- The backend stays quiet. -/
  serves : w'.Serves slot

/-- A poll of a quiet backend takes what it answers with off what is pending there. -/
structure Polled (slot : Nat) (x : Message) (l : Locator) (w w' : World) (c : Call) : Prop where
  /-- It concerns no other backend. -/
  stirs : Stirs slot w w'
  /-- What is no longer pending has been handed out. -/
  total : w'.copiesAt slot x l + c.handedOut.count x = w.copiesAt slot x l
  /-- Without an answer, the poll waits. -/
  waits : c.answer? = none → w'.PollsAt slot l c

section Stirs

variable {w w' : World} {slot slot' : Nat} {x : Message} {l : Locator}

theorem copiesAt_congr (hclock : w'.clock = w.clock)
    (hbackend : w'.backend? slot = w.backend? slot) :
    w'.copiesAt slot x l = w.copiesAt slot x l := by
  rw [copiesAt, copiesAt, hclock, hbackend]

/-- At an engine, the copies are those that are pending. -/
theorem copiesAt_of_memory {b : MemoryBackend} (h : w.backend? slot = some (.memory b)) :
    w.copiesAt slot x l = (b.memory.pending w.clock l).count x := by
  rw [copiesAt, h]

/-- A poll waits as long as its backend is left alone. -/
theorem PollsAt.congr {c : Call} (h : w.PollsAt slot l c)
    (hbackend : w'.backend? slot = w.backend? slot) : w'.PollsAt slot l c := by
  rcases h with ⟨b, poll, hslot, hc⟩ | hsleeping
  · exact Or.inl ⟨b, poll, hbackend.trans hslot, hc⟩
  · exact Or.inr hsleeping

/-- A backend is replaced by a quiet one, and the directory and the log may change. -/
theorem stirs_setBackend {s s' : BackendState} (h : w.backend? slot = some s) (hquiet : s'.Quiet)
    (hbackends : w'.backends = (w.setBackend slot s').backends) (hclock : w'.clock = w.clock)
    (hfiled : w'.directory.Promises FiledAs) :
    Stirs slot w w' ∧ w'.backend? slot = some s' := by
  have hself : w'.backend? slot = some s' := by
    rw [backend?, hbackends]
    exact backend?_setBackend_self h
  refine ⟨⟨hfiled, hclock, fun slot' hne => ?_, s', hself, hquiet⟩, hself⟩
  rw [backend?, hbackends]
  exact backend?_setBackend_of_ne (Ne.symm hne) s'

/-- An engine has served a poll, which has returned or waits at the engine's place. -/
theorem polled_memory {b : MemoryBackend} (h : w.backend? slot = some (.memory b)) {step : PollStep}
    {o : PollOrder} (hlocator : o.locator = l) (hid : o.channel.id = l.channel)
    (hpending : b.memory.pending w.clock l =
      step.progress.messages ++ step.memory.pending w.clock l)
    (hawaits : step.progress.Awaits o)
    (hbackends : w'.backends = (w.setMemory slot step.memory).backends)
    (hclock : w'.clock = w.clock) (hfiled : w'.directory.Promises FiledAs) :
    Polled slot x l w w' (step.progress.call slot) := by
  rw [setMemory_eq (memory?_of_backend? h)] at hbackends
  have hquiet : BackendState.Quiet (.memory { b with memory := step.memory }) := trivial
  obtain ⟨hstirs, hself⟩ := stirs_setBackend h hquiet hbackends hclock hfiled
  refine ⟨hstirs, ?_, ?_⟩
  · rw [copiesAt_of_memory hself, copiesAt_of_memory h, hclock, hpending, List.count_append]
    -- what is no longer pending is what the call hands out
    have hmessages : (step.progress.call slot).handedOut = step.progress.messages := by
      cases step.progress <;> rfl
    rw [hmessages, Nat.add_comm]
  · intro hnone
    cases hprogress : step.progress with
    | answered ms =>
      rw [hprogress] at hnone
      exact absurd hnone (Option.some_ne_none _)
    | waiting p =>
      rw [hprogress] at hawaits
      have horder : p.order = o := hawaits
      exact Or.inl ⟨_, p, hself, rfl, horder ▸ hlocator, horder ▸ hid⟩

end Stirs

end World

/-- A scripted storage that is quiet answers a poll without messages. -/
theorem ScriptedStorage.delivered_lineFor {s : ScriptedStorage}
    (h : BackendState.Quiet (.scripted s)) (l : Locator) (max : Nat) (wait : Duration)
    (waitMillis : Duration → Nat) :
    StorageAnswer.delivered (s.lineFor (.poll l max wait) waitMillis).answer = [] := by
  have hline : ∀ n past, (∀ ms, ScriptLine.answer past = .ok ms → ms = []) →
      ∀ ms, (ScriptedStorage.line s.script.poll n past).answer = .ok ms → ms = [] :=
      fun n past hpast ms hms => by
    rw [ScriptedStorage.line, List.getD_eq_getElem?_getD] at hms
    cases hget : s.script.poll[n]? with
    | none =>
      -- past the end of its script, the storage answers without messages, too
      rw [hget] at hms
      exact hpast ms hms
    | some line =>
      rw [hget] at hms
      exact h line (List.mem_of_getElem? hget) ms hms
  have hnone := hline (s.callsBefore (.poll l max wait)) ⟨some (waitMillis wait), .ok []⟩
    fun ms hms => (Except.ok.inj hms).symm
  simp only [ScriptedStorage.lineFor, ScriptedStorage.reply]
  generalize ScriptedStorage.line s.script.poll (s.callsBefore (.poll l max wait))
    ⟨some (waitMillis wait), .ok []⟩ = line at hnone
  cases hanswer : line.answer with
  | error e => rfl
  | ok ms =>
    rw [hnone ms hanswer]
    simp [Except.map, StorageAnswer.delivered, StorageReply.delivered]

section Polls

variable {w : World} {slot : Nat} {x : Message} {l : Locator} {c : Call}

theorem World.Stirs.refl (hserves : w.Serves slot) (hfiled : w.directory.Promises FiledAs) :
    World.Stirs slot w w := ⟨hfiled, rfl, fun _ _ => rfl, hserves⟩

/-- A storage in memory starts a poll. -/
theorem polled_startMemory {b : MemoryBackend} (hslot : w.backend? slot = some (.memory b))
    (hfiled : w.directory.Promises FiledAs) (spans : List LogSpan) (max : Nat) (wait : Duration) :
    World.Polled slot x l w (startMemory slot b spans (.poll l max wait) w).1
      (startMemory slot b spans (.poll l max wait) w).2 := by
  obtain ⟨hanswer, hdirectory⟩ := hfiled.find w.clock l.channel
  cases hfind : (w.directory.find w.clock l.channel).answer with
  | error e =>
    obtain ⟨events, heq⟩ := startMemory_poll_of_error slot b spans hfind max wait
    rw [heq]
    exact ⟨⟨hdirectory, rfl, fun _ _ => rfl, _, hslot, trivial⟩, rfl,
      fun hnone => absurd hnone (Option.some_ne_none _)⟩
  | ok channel =>
    rw [hfind] at hanswer
    -- the channel found is the one asked for, so the poll is at the queue of the consumer
    have hid : channel.id = l.channel := hanswer channel rfl
    obtain ⟨events, heq⟩ := startMemory_poll_of_ok slot b spans hfind max wait
    rw [heq]
    have horder : (w.order channel l max wait).channel.id =
        (w.order channel l max wait).locator.channel := hid
    exact World.polled_memory hslot rfl hid (Memory.pending_look horder) Memory.awaits_look rfl
      (World.clock_setMemory _) hdirectory

/-- A quiet scripted storage starts a poll. -/
theorem polled_startScripted {script : ScriptedStorage}
    (hslot : w.backend? slot = some (.scripted script))
    (hquiet : BackendState.Quiet (.scripted script))
    (hfiled : w.directory.Promises FiledAs) (spans : List LogSpan) (max : Nat) (wait : Duration) :
    World.Polled slot x l w (startScripted slot script spans (.poll l max wait) w).1
      (startScripted slot script spans (.poll l max wait) w).2 := by
  have hdelivered := ScriptedStorage.delivered_lineFor hquiet l max wait World.waitMillis
  have hquiet' : BackendState.Quiet (.scripted (script.record (.poll l max wait))) := hquiet
  obtain ⟨hstirs, hself⟩ := World.stirs_setBackend hslot hquiet' rfl rfl hfiled
  have hcopies : ∀ c : Call, c.handedOut = [] →
      (w.setBackend slot (.scripted (script.record (.poll l max wait)))).copiesAt slot x l +
        c.handedOut.count x = w.copiesAt slot x l := by
    intro c hc
    rw [hc, World.copiesAt, World.copiesAt, hself, hslot]
    rfl
  simp only [startScripted]
  generalize script.lineFor (.poll l max wait) World.waitMillis = line at hdelivered
  have hsettled : Call.handedOut (.settled line.answer) = [] := hdelivered
  -- the answer comes at once, or after a delay
  split
  next delay _ =>
    split
    next => exact ⟨hstirs, hcopies _ hsettled, fun hnone => absurd hnone (Option.some_ne_none _)⟩
    next => exact ⟨hstirs, hcopies _ rfl, fun _ => Or.inr ⟨_, _, rfl, hdelivered⟩⟩
  next => exact ⟨hstirs, hcopies _ hsettled, fun hnone => absurd hnone (Option.some_ne_none _)⟩

/-- A quiet backend that is polled takes what it answers with off what is pending. -/
theorem polled_start {b : Backend} (hserves : w.Serves b.slot)
    (hfiled : w.directory.Promises FiledAs) (spans : List LogSpan) (max : Nat) (wait : Duration) :
    World.Polled b.slot x l w (b.start spans (.poll l max wait) w).1
      (b.start spans (.poll l max wait) w).2 := by
  obtain ⟨s, hslot, hquiet⟩ := hserves
  unfold Backend.start
  rw [hslot]
  cases s with
  | memory mb => exact polled_startMemory hslot hfiled spans max wait
  | scripted script => exact polled_startScripted hslot hquiet hfiled spans max wait

/-- A poll that waits at a quiet backend and goes on does so, too. -/
theorem polled_resume (hserves : w.Serves slot) (hfiled : w.directory.Promises FiledAs)
    (hpolls : w.PollsAt slot l c) (spans : List LogSpan) :
    World.Polled slot x l w (c.resume spans w).1 (c.resume spans w).2 := by
  -- the poll waits at an engine, or sleeps before an answer that a script has given
  rcases hpolls with ⟨mb, poll, hslot, rfl, hlocator, hid⟩ | ⟨wake, a, rfl, hdelivered⟩
  · rw [Call.resume, World.memory?_of_backend? hslot]
    dsimp only
    obtain ⟨events, heq⟩ := polled_eq spans slot (mb.memory.resumePoll w.clock w.time poll) w
    rw [heq]
    have hpending := mb.memory.pending_resumePoll w.clock w.time
      (hid.trans (congrArg Locator.channel hlocator.symm))
    rw [hlocator] at hpending
    refine World.polled_memory hslot hlocator hid hpending Memory.awaits_resumePoll rfl
      (World.clock_setMemory _) ?_
    show (w.setMemory slot _).directory.Promises FiledAs
    rw [World.directory_setMemory]
    exact hfiled
  · rw [Call.resume]
    split
    · refine ⟨.refl hserves hfiled, ?_, fun hnone => absurd hnone (Option.some_ne_none a)⟩
      rw [show Call.handedOut (.settled a) = [] from hdelivered, List.count_nil]
      rfl
    · exact ⟨.refl hserves hfiled, rfl, fun _ => Or.inr ⟨wake, a, rfl, hdelivered⟩⟩

/-- A poll that is dropped at a quiet backend takes nothing off. -/
theorem stirs_drop (hserves : w.Serves slot) (hfiled : w.directory.Promises FiledAs)
    (hpolls : w.PollsAt slot l c) :
    World.Stirs slot w (c.drop w) ∧ (c.drop w).copiesAt slot x l = w.copiesAt slot x l := by
  rcases hpolls with ⟨mb, poll, hslot, rfl, -⟩ | ⟨wake, a, rfl, -⟩
  · have hmemory := World.memory?_of_backend? hslot
    have hquiet : BackendState.Quiet
        (.memory { mb with memory := mb.memory.dropPoll poll }) := trivial
    rw [Call.drop, hmemory]
    dsimp only
    rw [World.setMemory_eq hmemory]
    obtain ⟨hstirs, hself⟩ := World.stirs_setBackend hslot hquiet rfl rfl hfiled
    refine ⟨hstirs, ?_⟩
    rw [World.copiesAt_of_memory hself, World.copiesAt_of_memory hslot, hstirs.clock_eq,
      Memory.pending_dropPoll]
  · rw [Call.drop]
    exact ⟨.refl hserves hfiled, rfl⟩

end Polls

/-- Several backends as storages. -/
def asStorages (bs : List (StorageId × Backend)) : List (StorageId × Storage) :=
  bs.map fun (id, b) => (id, .backend b)

/-- The books that backends keep about a message and a consumer. -/
def backendBooks (bs : List (StorageId × Backend)) (x : Message) (l : Locator) : Books where
  message := x
  locator := l
  good w := w.directory.Promises FiledAs ∧ ∀ e ∈ bs, w.Serves e.2.slot
  pending id w :=
    match Table.lookUp? id bs with
    | some b => w.copiesAt b.slot x l
    | none => 0
  polling id c w := ∃ b, (id, b) ∈ bs ∧ w.PollsAt b.slot l c

section Books

variable {bs : List (StorageId × Backend)} {x : Message} {l : Locator} {w w' : World}
  {id : StorageId} {b : Backend}

theorem slot_ne_of_ne (hslots : (bs.map (·.2.slot)).Nodup) (hb : (id, b) ∈ bs) {id' : StorageId}
    {b' : Backend} (hb' : (id', b') ∈ bs) (hne : id' ≠ id) : b'.slot ≠ b.slot := fun heq =>
  hne (congrArg Prod.fst (List.inj_on_of_nodup_map hslots hb' hb heq))

variable (hids : (bs.map Prod.fst).Nodup) (hb : (id, b) ∈ bs)

include hids hb

/-- The books show the copies at the backend of a name. -/
theorem pending_backendBooks :
    (backendBooks bs x l).pending id w = w.copiesAt b.slot x l := by
  have hlookup := (Table.lookUp?_eq_some_iff hids).mpr hb
  simp only [backendBooks, hlookup]

variable (hslots : (bs.map (·.2.slot)).Nodup)

include hslots

/-- What concerns one backend only concerns one name of the books only. -/
theorem passes_of_stirs (hgood : (backendBooks bs x l).good w)
    (hstirs : World.Stirs b.slot w w') : (backendBooks bs x l).Passes [id] w w' where
  good := by
    refine ⟨hstirs.filed, fun e he => ?_⟩
    by_cases hslot : e.2.slot = b.slot
    · rw [hslot]
      exact hstirs.serves
    · obtain ⟨s, hs, hquiet⟩ := hgood.2 e he
      exact ⟨s, (hstirs.others _ hslot).trans hs, hquiet⟩
  pending_eq id' hid' := by
    -- another name stands for another place, where nothing has happened
    have hne : id' ≠ id := fun heq => hid' (heq ▸ List.mem_singleton_self id)
    cases hlookup : Table.lookUp? id' bs with
    | none => simp only [backendBooks, hlookup]
    | some b' =>
      have hb' := (Table.lookUp?_eq_some_iff hids).mp hlookup
      rw [pending_backendBooks hids hb', pending_backendBooks hids hb']
      exact World.copiesAt_congr hstirs.clock_eq
        (hstirs.others _ (slot_ne_of_ne hslots hb hb' hne))
  polling id' hid' c hpolling := by
    obtain ⟨b', hb', hpolls⟩ := hpolling
    have hne : id' ≠ id := fun heq => hid' (heq ▸ List.mem_singleton_self id)
    exact ⟨b', hb', hpolls.congr (hstirs.others _ (slot_ne_of_ne hslots hb hb' hne))⟩

/-- A poll of a backend is a move in the books. -/
theorem moves_of_polled {c : Call} (hgood : (backendBooks bs x l).good w)
    (hpolled : World.Polled b.slot x l w w' c) : (backendBooks bs x l).Moves id w w' c where
  passes := passes_of_stirs hids hb hslots hgood hpolled.stirs
  total := by
    rw [pending_backendBooks hids hb, pending_backendBooks hids hb]
    exact hpolled.total
  waits hnone := ⟨b, hb, hpolled.waits hnone⟩

end Books

/-- Backends with names and places of their own keep books. -/
theorem kept_backendBooks {bs : List (StorageId × Backend)} (hids : (bs.map Prod.fst).Nodup)
    (hslots : (bs.map (·.2.slot)).Nodup) (x : Message) (l : Locator) :
    (backendBooks bs x l).Kept (Storage.members (asStorages bs)) where
  start m hm spans max wait w hgood := by
    -- a member is a backend, under its name and at its place
    rw [Storage.members_eq_map, asStorages, List.map_map] at hm
    obtain ⟨⟨id, b⟩, hb, rfl⟩ := List.mem_map.mp hm
    have hpolled := polled_start (x := x) (l := l) (hgood.2 _ hb) hgood.1 spans max wait
    refine moves_of_polled hids hb hslots hgood ?_
    dsimp only [Function.comp_apply]
    rw [Storage.start]
    exact hpolled
  resume id c spans w hgood hpolling := by
    obtain ⟨b, hb, hpolls⟩ := hpolling
    exact moves_of_polled hids hb hslots hgood
      (polled_resume (hgood.2 _ hb) hgood.1 hpolls spans)
  drop id c w hgood hpolling := by
    obtain ⟨b, hb, hpolls⟩ := hpolling
    obtain ⟨hstirs, hsame⟩ := stirs_drop (x := x) (hgood.2 _ hb) hgood.1 hpolls
    refine ⟨passes_of_stirs hids hb hslots hgood hstirs, ?_⟩
    rw [pending_backendBooks hids hb, pending_backendBooks hids hb]
    exact hsame

end LongPoll
