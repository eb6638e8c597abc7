import LongPoll.Proofs.Merge.Backends
import LongPoll.Proofs.Storage.Aggregation
import LongPoll.Proofs.Storage.Configured
/-!
# What operations take from consumers

Something may be pending for any consumer at any engine. An operation that is no poll leaves all of
it pending (`Round.gives`); a publish forgets at most messages that have expired. A poll of an
engine takes nothing but what it hands out (`gives_backend_poll`, `gives_polling`), and nothing at
all if it is dropped (`gives_drop_polling`). Nothing is assumed of the directory: a poll may look at
the queue of a channel of another name than the one that it asks for, and takes from that one.
-/

namespace LongPoll

/-! ### Engines -/

namespace Memory

/-- Whatever is pending less often afterwards, for whomever, is among these messages. -/
def Gives (now : Timestamp) (m m' : Memory) (ms : List Message) : Prop :=
  ∀ x l, (m'.pending now l).count x < (m.pending now l).count x → x ∈ ms

section Gives

variable {m m' m'' : Memory} {now : Timestamp} {ms : List Message}

/-- Where the channels stay as they are, nothing is handed out. -/
theorem gives_of_channels (h : m'.channels = m.channels) : m.Gives now m' ms := by
  intro x l hless
  rw [pending_congr h] at hless
  exact absurd hless (Nat.lt_irrefl _)

/-- Only what is pending before counts, and not the rest of the engine. -/
theorem Gives.congr (h : m.Gives now m' ms) (hbefore : m''.channels = m.channels) :
    m''.Gives now m' ms := by
  intro x l hless
  rw [pending_congr hbefore] at hless
  exact h x l hless

/-- Every queue is longer at the front by what is handed out, or as long as before. -/
theorem gives_of_append (h : ∀ l, m.pending now l = m'.pending now l ∨
    m.pending now l = ms ++ m'.pending now l) : m.Gives now m' ms := by
  intro x l hless
  rcases h l with heq | heq <;> rw [heq] at hless
  · exact absurd hless (Nat.lt_irrefl _)
  · rw [List.count_append] at hless
    exact List.count_pos_iff.mp (by omega)

/-- Every queue is a part of what it is afterwards. -/
theorem gives_of_sublist (h : ∀ l, (m.pending now l).Sublist (m'.pending now l)) :
    m.Gives now m' ms := fun x l hless =>
  absurd hless (Nat.not_lt.mpr ((h l).count_le x))

variable (m now) in
/-- A look at a queue takes from that queue what it takes, and nothing from any other. -/
theorem gives_looked (o : PollOrder) :
    m.Gives now (m.firstLooked now o) ((m.firstTaken now o).map (·.message)) := by
  refine gives_of_append fun l => ?_
  by_cases hl : l = ⟨o.channel.id, o.locator.subscriber⟩
  · subst hl
    -- the order is as good as one for the queue that it comes to
    exact Or.inr (pending_looked (o := { o with
      locator := ⟨o.channel.id, o.locator.subscriber⟩ }) rfl)
  · left
    rw [pending, pending, subscription?_looked, if_neg hl, logOf_looked]

variable (m now) in
/-- A look at a queue takes what the poll returns, and nothing if it waits. -/
theorem gives_look (time : Nat) (o : PollOrder) : m.Gives now (m.look now time o 1).memory
    (m.look now time o 1).progress.messages := by
  have hlooked := m.gives_looked now o
  intro x l hless
  rw [pending_congr (m.look_frame now time o).1] at hless
  have hmem := hlooked x l hless
  -- a poll that waits has found nothing, so nothing was taken
  rcases m.look_cases now time o with ⟨-, -, hprogress⟩ | ⟨hnothing, -⟩ | ⟨hnothing, -⟩
  · rw [hprogress]
    exact hmem
  · rw [hnothing] at hmem
    exact absurd hmem List.not_mem_nil
  · rw [hnothing] at hmem
    exact absurd hmem List.not_mem_nil

variable (m now) in
/-- A poll that runs on takes what it returns, and nothing if it waits on. -/
theorem gives_resumePoll (time : Nat) (p : WaitingPoll) :
    m.Gives now (m.resumePoll now time p).memory (m.resumePoll now time p).progress.messages := by
  unfold resumePoll
  split
  · -- the poll was woken, and looks again
    have hbells : m.channels =
        ((m.onBell p.bell (·.resume p.order.ticket)).onBell p.bell Bell.release).channels := rfl
    exact (gives_look _ now time p.order).congr hbells
  · split
    · -- its time is up, and it looks for the last time
      obtain ⟨hmemory, hprogress⟩ := (m.leaveBell p.bell p.order.ticket).lastLook_frame now p.order
      rw [hmemory, hprogress]
      exact ((m.leaveBell p.bell p.order.ticket).gives_looked now p.order).congr
        (channels_leaveBell m p.bell p.order.ticket).symm
    · exact gives_of_channels rfl

/-- A publish takes nothing from anybody: what it replaces in the log has expired. -/
theorem Indexed.gives_publish (h : m.Indexed) (now : Timestamp) (channel : Channel)
    (message : Message) : m.Gives now (m.publish now channel message).1 ms := by
  refine gives_of_sublist fun l => ?_
  rw [pending, pending]
  refine List.Sublist.map _ ?_
  -- a duplicate changes nothing
  cases hshows : (m.channelFor channel).shows now message.id with
  | true => rw [subscription?_publish_of_shows hshows, logOf_publish_of_shows hshows]
  | false =>
    rw [subscription?_publish hshows, logOf_publish hshows]
    by_cases hid : channel.id = l.channel
    · rw [if_pos hid, if_pos hid]
      -- the message comes last in a queue that there is, and otherwise in the log
      cases m.subscription? l with
      | some s =>
        rw [Option.map_some, Option.elim_some, Option.elim_some, List.filter_append]
        exact List.sublist_append_left _ _
      | none =>
        -- what is visible has another name, or the message were a duplicate
        have hother : ∀ p ∈ m.logOf l.channel, p.isVisible now = true →
            p.message.id ≠ (m.posted now channel message).message.id := by
          intro p hp hvisible heq
          have hduplicate : (m.channelFor channel).shows now message.id = true :=
            h.shows_iff.mpr ⟨p, hid ▸ hp, heq, hvisible⟩
          exact Bool.noConfusion (hduplicate.symm.trans hshows)
        have hkept : (m.logOf l.channel).filter (·.isVisible now) =
            ((m.logOf l.channel).filter fun q =>
              q.message.id ≠ (m.posted now channel message).message.id).filter
                (·.isVisible now) := by
          rw [List.filter_filter]
          refine List.filter_congr fun p hp => ?_
          cases hvisible : p.isVisible now with
          | false => rfl
          | true => simpa using hother p hp hvisible
        rw [Option.map_none, Option.elim_none, Option.elim_none, h.log_post, List.filter_append,
          hid, hkept]
        exact List.sublist_append_left _ _
    · rw [if_neg hid, if_neg hid]

end Gives

end Memory

/-! ### Worlds -/

namespace World

/-- A message is pending less often afterwards for some consumer at some backend. -/
def Loses (w w' : World) (x : Message) : Prop :=
  ∃ slot l, w'.copiesAt slot x l < w.copiesAt slot x l

/-- Whatever is pending less often afterwards is among these messages. -/
def Gives (w w' : World) (ms : List Message) : Prop := ∀ x, w.Loses w' x → x ∈ ms

variable {w w' w'' : World} {slot : Nat} {ms ms' : List Message}

/-- What is lost is lost in one part of the way or in the other one. -/
theorem Loses.split {x : Message} (h : w.Loses w'' x) (w' : World) :
    w.Loses w' x ∨ w'.Loses w'' x := by
  obtain ⟨slot, l, hless⟩ := h
  -- if nothing is lost on the first part, it is lost on the second
  by_cases hfirst : w'.copiesAt slot x l < w.copiesAt slot x l
  · exact Or.inl ⟨slot, l, hfirst⟩
  · exact Or.inr ⟨slot, l, Nat.lt_of_lt_of_le hless (Nat.not_lt.mp hfirst)⟩

theorem Gives.chain (h : w.Gives w' ms) (h' : w'.Gives w'' ms) : w.Gives w'' ms :=
  fun x hlost => (hlost.split w').elim (h x) (h' x)

theorem Gives.mono (h : w.Gives w' ms) (hsub : ms ⊆ ms') : w.Gives w' ms' :=
  fun x hlost => hsub (h x hlost)

theorem Gives.trans (h : w.Gives w' ms) (h' : w'.Gives w'' ms') : w.Gives w'' (ms ++ ms') :=
  (h.mono (List.subset_append_left ms ms')).chain (h'.mono (List.subset_append_right ms ms'))

/-- Where as much is pending as before, nothing is taken. -/
theorem gives_of_copies (h : ∀ slot x l, w'.copiesAt slot x l = w.copiesAt slot x l) :
    w.Gives w' ms := by
  rintro x ⟨slot, l, hless⟩
  rw [h] at hless
  exact absurd hless (Nat.lt_irrefl _)

theorem gives_of_eq (hbackends : w'.backends = w.backends) (hclock : w'.clock = w.clock) :
    w.Gives w' ms :=
  gives_of_copies fun slot x l => copiesAt_congr hclock (by rw [backend?, backend?, hbackends])

/-- Reports take nothing. -/
theorem Logs.gives (h : w.Logs w') : w.Gives w' ms := by
  obtain ⟨events, rfl⟩ := h
  exact gives_of_eq rfl rfl

theorem Gives.logs (h : w.Gives w' ms) (hlogs : w'.Logs w'') : w.Gives w'' ms :=
  h.chain hlogs.gives

/-- Reports take nothing from anybody. -/
theorem Loses.not_of_logs {x : Message} (h : w.Loses w' x) (hlogs : w.Logs w') : False :=
  List.not_mem_nil (hlogs.gives x h)

theorem Loses.before_logs {x : Message} (h : w.Loses w'' x) (hlogs : w'.Logs w'') :
    w.Loses w' x := (h.split w').resolve_right fun hlater => hlater.not_of_logs hlogs

/-- An engine has changed, and no other backend. -/
theorem gives_setMemory {b : MemoryBackend} (hb : w.memory? slot = some b) {m : Memory}
    (h : b.memory.Gives w.clock m ms) (hbackends : w'.backends = (w.setMemory slot m).backends)
    (hclock : w'.clock = w.clock) : w.Gives w' ms := by
  rintro x ⟨slot', l, hless⟩
  have hbackend : w'.backend? slot' = (w.setMemory slot m).backend? slot' := by
    rw [backend?, backend?, hbackends]
  -- nothing is pending less often at any other place
  by_cases hslot : slot = slot'
  · subst hslot
    rw [backend?_setMemory_self hb] at hbackend
    rw [copiesAt_of_memory hbackend, copiesAt_of_memory (backend?_of_memory? hb), hclock] at hless
    exact h x l hless
  · rw [setMemory_eq hb, backend?_setBackend_of_ne hslot] at hbackend
    rw [copiesAt_congr hclock hbackend] at hless
    exact absurd hless (Nat.lt_irrefl _)

end World

/-! ### Backends -/

section Backends

variable {w : World} {slot : Nat} {ms : List Message}

theorem handedOut_call (s : PollProgress) : (s.call slot).handedOut = s.messages := by
  cases s <;> rfl

/-- A poll that starts at an engine takes nothing but what it hands out. -/
theorem gives_startMemory_poll {b : MemoryBackend} (hb : w.memory? slot = some b)
    (spans : List LogSpan) (locator : Locator) (max : Nat) (wait : Duration) :
    w.Gives (startMemory slot b spans (.poll locator max wait) w).1
      (startMemory slot b spans (.poll locator max wait) w).2.handedOut := by
  cases hfind : (w.directory.find w.clock locator.channel).answer with
  | error e =>
    obtain ⟨events, heq⟩ := startMemory_poll_of_error slot b spans hfind max wait
    rw [heq]
    exact World.gives_of_eq rfl rfl
  | ok channel =>
    obtain ⟨events, heq⟩ := startMemory_poll_of_ok slot b spans hfind max wait
    rw [heq, handedOut_call]
    exact World.gives_setMemory hb (b.memory.gives_look w.clock w.time _) rfl
      (World.clock_setMemory _)

/-- Nothing is pending at a scripted storage. -/
theorem gives_startScripted {script : ScriptedStorage}
    (hscript : w.backend? slot = some (.scripted script)) (spans : List LogSpan)
    (r : StorageRequest) : w.Gives (startScripted slot script spans r w).1 ms := by
  have hset : ∀ slot' x l, (w.setBackend slot (.scripted (script.record r))).copiesAt slot' x l =
      w.copiesAt slot' x l := by
    intro slot' x l
    -- what is written down there is no message that is pending
    by_cases hslot : slot = slot'
    · subst hslot
      rw [World.copiesAt, World.copiesAt, World.backend?_setBackend_self hscript, hscript]
    · exact World.copiesAt_congr rfl (World.backend?_setBackend_of_ne hslot _)
  unfold startScripted
  dsimp only
  split
  next => split <;> exact World.gives_of_copies hset
  next => exact World.gives_of_copies hset

/-- A poll that starts at a backend takes nothing but what it hands out. -/
theorem gives_backend_poll (b : Backend) (spans : List LogSpan) (locator : Locator) (max : Nat)
    (wait : Duration) (w : World) : w.Gives (b.start spans (.poll locator max wait) w).1
      (b.start spans (.poll locator max wait) w).2.handedOut := by
  unfold Backend.start
  split
  next mb hmb => exact gives_startMemory_poll (World.memory?_of_backend? hmb) spans _ _ _
  next script hscript => exact gives_startScripted hscript spans _
  next => exact World.gives_of_eq rfl rfl

/-- A poll that goes on at an engine takes nothing but what it hands out. -/
theorem gives_polling (slot : Nat) (poll : WaitingPoll) (spans : List LogSpan) (w : World) :
    w.Gives ((Call.polling slot poll).resume spans w).1
      ((Call.polling slot poll).resume spans w).2.handedOut := by
  rw [Call.resume]
  split
  next b hb =>
    obtain ⟨events, heq⟩ := polled_eq spans slot (b.memory.resumePoll w.clock w.time poll) w
    rw [heq, handedOut_call]
    exact World.gives_setMemory hb (b.memory.gives_resumePoll w.clock w.time poll) rfl
      (World.clock_setMemory _)
  next => exact World.gives_of_eq rfl rfl

/-- A poll that is dropped at an engine takes nothing. -/
theorem gives_drop_polling (slot : Nat) (poll : WaitingPoll) (w : World) :
    w.Gives ((Call.polling slot poll).drop w) ms := by
  rw [Call.drop]
  split
  next b hb =>
    have hdropped : b.memory.Gives w.clock (b.memory.dropPoll poll) ms :=
      Memory.gives_of_channels rfl
    exact World.gives_setMemory hb hdropped rfl (World.clock_setMemory _)
  next => exact World.gives_of_eq rfl rfl

/-- Any operation but a poll takes nothing from an engine that keeps its logs in order. -/
theorem gives_startMemory {b : MemoryBackend} (hb : w.memory? slot = some b)
    (hindexed : b.memory.Indexed) {r : StorageRequest} (hr : r.isPoll = false)
    (spans : List LogSpan) : w.Gives (startMemory slot b spans r w).1 ms := by
  -- a publish adds a message, and nothing else changes any queue
  cases r with
  | publish message =>
    obtain ⟨events, heq⟩ := w.findChannel_eq spans message.channel
    simp only [startMemory, heq]
    cases (w.directory.find w.clock message.channel).answer with
    | error e => exact World.gives_of_eq rfl rfl
    | ok channel =>
      dsimp only
      refine World.Gives.logs ?_ (World.logs_report _ spans _)
      -- what the publish replaces in the log nobody was to get
      refine World.gives_setMemory hb (hindexed.gives_publish w.clock channel message) ?_
        (World.clock_setMemory _)
      simp only [World.setMemory, World.memory?, World.backend?, World.setBackend]
      split <;> rfl
  | poll locator max wait => exact Bool.noConfusion hr
  | revoke exp jti =>
    have hrevoked : b.memory.Gives w.clock (b.memory.revoke exp jti) ms :=
      Memory.gives_of_channels rfl
    exact (World.gives_setMemory hb hrevoked rfl (World.clock_setMemory _)).logs
      (World.logs_report _ spans _)
  | shutdown =>
    refine World.Gives.logs (World.gives_of_copies fun slot' x l => ?_)
      (World.logs_report _ spans _)
    have hbackend := World.backend?_of_memory? hb
    -- the engine is the same apart from its plans
    by_cases hslot : slot = slot'
    · subst hslot
      rw [World.copiesAt_of_memory (World.backend?_setBackend_self hbackend),
        World.copiesAt_of_memory hbackend]
      rfl
    · exact World.copiesAt_congr rfl (World.backend?_setBackend_of_ne hslot _)
  | _ => exact World.gives_of_eq rfl rfl

/-- Engines that are called one after the other in an operation that is no poll lose nothing. -/
theorem Round.gives {entries : List (StorageId × Backend)} {r : StorageRequest}
    {calls : List LeafCall} {w' : World} (h : Round r calls w w') (hhosts : w.Hosts entries)
    (hcalls : ∀ x ∈ calls, ∃ id, (id, x.leaf.backend) ∈ entries) (hr : r.isPoll = false) :
    w.Gives w' ms := by
  induction h with
  | done hlogs => exact hlogs.gives
  | @call x rest w w₁ w' hlogs spans hanswer hrest ih =>
    obtain ⟨⟨id, hid⟩, hothers⟩ := List.forall_mem_cons.mp hcalls
    -- the engines are in order when the next one has its turn
    have hbefore := hhosts.keep (World.keepsEngines_of_eq hlogs.backends_eq)
    obtain ⟨b, hb, hindexed⟩ := hbefore.engines _ hid
    have hfirst : w₁.Gives (x.leaf.backend.start spans r w₁).1 ms := by
      unfold Backend.start
      rw [World.backend?_of_memory? hb]
      exact gives_startMemory hb hindexed hr spans
    have hlater := ih (hbefore.keep (guarantee_keepsEngines.backend _ spans r w₁)) hothers
    exact hlogs.gives.chain (hfirst.chain hlater)

end Backends

end LongPoll
