import LongPoll.Proofs.Engine.Log
import LongPoll.Proofs.Engine.Pending
import LongPoll.Proofs.Engine.Serving
import LongPoll.Proofs.Storage.FanOut
import LongPoll.Proofs.Storage.Guarantee
/-!
# What stays as it was

As long as the wall clock stands still, a channel that was found is found again, whatever is looked
up in between (`guarantee_keepsSetting`): what the cache forgets is stale, and what it knew was
fresh. A memory engine stays in its place for good, and goes on to keep its logs in order
(`guarantee_keepsEngines`).
-/

namespace LongPoll

/-! ### Channels -/

/-- What an entry of the cache says about a name. -/
def CacheEntry.verdict (id : ChannelId) : CacheEntry → Except Error Channel
  | found channel _ => .ok channel
  | missing _ => .error (.invalidChannel id.text)

/-- What the cache knows about a name and may still use. -/
def ChannelCache.fresh? (c : ChannelCache) (now : Timestamp) (id : ChannelId) : Option CacheEntry :=
  (c.entries.get? id).filter (·.isFresh now)

namespace ChannelCache

variable {c c' : ChannelCache} {now : Timestamp} {id id' : ChannelId}
  {answer : Except Error Channel}

/-- A channel that is used now may be used. -/
theorem isFresh_found (channel : Channel) (now : Timestamp) :
    (CacheEntry.found channel now).isFresh now = true := by
  rw [CacheEntry.isFresh, decide_eq_true_eq, Int.sub_self]
  exact Int.natCast_nonneg _

/-- The cache answers from what it knows and may still use. -/
theorem map_answer? (c : ChannelCache) (now : Timestamp) (id : ChannelId) :
    (c.answer? now id).map Prod.fst = (c.fresh? now id).map (·.verdict id) := by
  unfold answer? fresh?
  cases c.entries.get? id with
  | none => rfl
  | some entry =>
    dsimp only
    rw [Option.filter_some]
    split
    · cases entry <;> rfl
    · rfl

/-- A channel that is used counts as used at this moment. -/
theorem answer?_cases (h : c.answer? now id = some (answer, c')) :
    (∃ channel, answer = .ok channel ∧
      c' = { c with entries := c.entries.insert id (.found channel now) }) ∨
    (answer = .error (.invalidChannel id.text) ∧ c' = c) := by
  unfold answer? at h
  split at h
  next => exact absurd h (Option.some_ne_none _).symm
  next entry _ =>
    split at h
    next =>
      -- a channel is used by being found, and that there is none is not
      cases entry with
      | found channel lastUse =>
        obtain ⟨rfl, rfl⟩ := Prod.mk.inj (Option.some.inj h)
        exact Or.inl ⟨channel, rfl, rfl⟩
      | missing until_ =>
        obtain ⟨rfl, rfl⟩ := Prod.mk.inj (Option.some.inj h)
        exact Or.inr ⟨rfl, rfl⟩
    next => exact absurd h (Option.some_ne_none _).symm

theorem fresh?_insert_self (channel : Channel) :
    fresh? { c with entries := c.entries.insert id (.found channel now) } now id =
      some (.found channel now) := by
  rw [fresh?, Table.get?_insert_self, Option.filter_some, if_pos (isFresh_found channel now)]

theorem fresh?_insert_of_ne (hid : id' ≠ id) (entry : CacheEntry) :
    fresh? { c with entries := c.entries.insert id' entry } now id = c.fresh? now id := by
  rw [fresh?, Table.get?_insert_of_ne _ hid]
  rfl

/-- Only what is stale is removed. -/
theorem fresh?_sweep (c : ChannelCache) (now : Timestamp) (id : ChannelId) :
    (c.sweep now).1.fresh? now id = c.fresh? now id := by
  unfold sweep
  split
  · rfl
  -- what is swept would not have counted as fresh
  · rw [fresh?, Table.get?_filter, Option.filter_filter]
    simp only [Bool.and_self]
    rfl

/-- To remember an answer for one name changes nothing about another. -/
theorem fresh?_remember_of_ne (hid : id' ≠ id) (answer : Except Error Channel) :
    (c.remember now id' answer).fresh? now id = c.fresh? now id := by
  unfold remember
  split
  · exact fresh?_insert_of_ne hid _
  · exact fresh?_insert_of_ne hid _
  · rfl

end ChannelCache

namespace Directory

/-- The channel of that name is found. -/
def Finds (d : Directory) (now : Timestamp) (id : ChannelId) : Prop :=
  ∃ channel, (d.find now id).answer = .ok channel

variable {d : Directory} {now : Timestamp} {id id' : ChannelId}

/-- What the cache knows and may still use counts, and otherwise what the source says. -/
theorem answer_find (d : Directory) (now : Timestamp) (id : ChannelId) :
    (d.find now id).answer =
      ((d.cache.bind (·.fresh? now id)).map (·.verdict id)).getD (d.ask id).1 := by
  unfold find
  cases d.cache with
  | none => rfl
  | some cache =>
    dsimp only [Option.bind_some]
    rw [← cache.map_answer? now id]
    cases cache.answer? now id <;> rfl

/-- The source answers as before. -/
theorem ask_find (d : Directory) (now : Timestamp) (id id' : ChannelId) :
    ((d.find now id').directory.ask id).1 = (d.ask id).1 := by
  unfold find
  cases d.cache with
  | none => rfl
  | some cache =>
    dsimp only
    cases cache.answer? now id' <;> rfl

/-- Looking up another name changes nothing about what the cache knows and may still use. -/
theorem fresh?_find_of_ne (hid : id' ≠ id) :
    (d.find now id').directory.cache.bind (·.fresh? now id) =
      d.cache.bind (·.fresh? now id) := by
  unfold find
  cases hcache : d.cache with
  | none =>
    dsimp only [ask]
    rw [hcache]
  | some cache =>
    dsimp only
    -- the other name is answered from the cache, or the source is asked
    cases hanswer : cache.answer? now id' with
    | some found =>
      -- the use of the other channel is noted, if it has one
      obtain ⟨answer, cache'⟩ := found
      rcases ChannelCache.answer?_cases hanswer with ⟨channel, -, rfl⟩ | ⟨-, rfl⟩
      · exact ChannelCache.fresh?_insert_of_ne hid _
      · rfl
    | none => exact (ChannelCache.fresh?_remember_of_ne hid _).trans (cache.fresh?_sweep now id)

/-- A channel that was found is known to the cache, if there is one. -/
theorem fresh?_find_self (h : d.Finds now id) : d.cache = none ∨
    ∃ channel, (d.find now id).directory.cache.bind (·.fresh? now id) =
      some (.found channel now) := by
  obtain ⟨channel, hfind⟩ := h
  unfold find at hfind ⊢
  cases hcache : d.cache with
  | none => exact Or.inl rfl
  | some cache =>
    rw [hcache] at hfind
    dsimp only at hfind ⊢
    -- the answer has come from the cache or from the source
    refine Or.inr ⟨channel, ?_⟩
    cases hanswer : cache.answer? now id with
    | some found =>
      obtain ⟨answer, cache'⟩ := found
      rw [hanswer] at hfind
      rcases ChannelCache.answer?_cases hanswer with ⟨channel', rfl, rfl⟩ | ⟨rfl, -⟩
      · obtain rfl := Except.ok.inj hfind
        exact ChannelCache.fresh?_insert_self _
      · exact absurd hfind nofun
    | none =>
      -- the source was asked, and its answer has been remembered
      rw [hanswer] at hfind
      have hask : (d.ask id).1 = .ok channel := hfind
      dsimp only [Option.bind_some]
      rw [hask]
      exact ChannelCache.fresh?_insert_self _

/-- A channel that is found is found again, whatever else is looked up at the moment. -/
theorem Finds.find (h : d.Finds now id) (id' : ChannelId) :
    (d.find now id').directory.Finds now id := by
  unfold Finds at h ⊢
  by_cases hid : id' = id
  · subst hid
    rcases fresh?_find_self h with hnone | ⟨channel, hfound⟩
    · -- without a cache, the source is asked each time
      have hdirectory : (d.find now id').directory.cache = none := by
        unfold find
        rw [hnone]
        exact hnone
      -- what the source says does not depend on what was asked before
      rw [answer_find, hnone] at h
      rw [answer_find, ask_find, hdirectory]
      exact h
    · rw [answer_find, hfound]
      exact ⟨channel, rfl⟩
  · -- neither the source nor the cache says anything else about this name
    rw [answer_find, ask_find, fresh?_find_of_ne hid, ← answer_find]
    exact h

end Directory

/-- The channel that an operation is about, if it is about one. -/
def StorageRequest.channel? : StorageRequest → Option ChannelId
  | publish m => some m.channel
  | poll l _ _ => some l.channel
  | _ => none

namespace World

/-- The channel of that name is found at the moment. -/
def Finds (w : World) (id : ChannelId) : Prop := w.directory.Finds w.clock id

/-- The wall clock stands still, the log filter stays in force, and the channels that are found go
on to be found. -/
structure KeepsSetting (w w' : World) : Prop where
  /-- The wall clock shows the same. -/
  clock_eq : w'.clock = w.clock
  /-- The same events are recorded. -/
  filter_eq : w'.filter = w.filter
  /-- A channel that is found is found again. -/
  finds : ∀ id, w.Finds id → w'.Finds id

variable {w w' w'' : World}

theorem KeepsSetting.refl (w : World) : w.KeepsSetting w := ⟨rfl, rfl, fun _ h => h⟩

theorem KeepsSetting.trans (h : w.KeepsSetting w') (h' : w'.KeepsSetting w'') :
    w.KeepsSetting w'' :=
  ⟨h'.clock_eq.trans h.clock_eq, h'.filter_eq.trans h.filter_eq,
    fun id hid => h'.finds id (h.finds id hid)⟩

/-- Where neither clock, filter nor directory change, the setting stays. -/
theorem keepsSetting_of_eq (hclock : w'.clock = w.clock) (hfilter : w'.filter = w.filter)
    (hdirectory : w'.directory = w.directory) : w.KeepsSetting w' where
  clock_eq := hclock
  filter_eq := hfilter
  finds id h := by
    rw [Finds, hclock, hdirectory]
    exact h

/-- The directory may be asked for a channel. -/
theorem keepsSetting_find (hclock : w'.clock = w.clock) (hfilter : w'.filter = w.filter)
    {id : ChannelId} (hdirectory : w'.directory = (w.directory.find w.clock id).directory) :
    w.KeepsSetting w' where
  clock_eq := hclock
  filter_eq := hfilter
  finds id' h := by
    rw [Finds, hclock, hdirectory]
    exact Directory.Finds.find h id

/-- Reports leave the setting alone. -/
theorem keepsSetting_report (w : World) (spans : List LogSpan) (n : Notice) :
    w.KeepsSetting (w.report spans n) := by
  obtain ⟨events, heq⟩ := w.report_eq spans n
  rw [heq]
  exact keepsSetting_of_eq rfl rfl rfl

/-- Channels that are found go on to be found when one is looked up. -/
theorem keepsSetting_findChannel (w : World) (spans : List LogSpan) (id : ChannelId) :
    w.KeepsSetting (w.findChannel spans id).1 := by
  obtain ⟨events, heq⟩ := w.findChannel_eq spans id
  rw [heq]
  exact keepsSetting_find rfl rfl rfl

@[simp]
theorem filter_setMemory {slot : Nat} (m : Memory) : (w.setMemory slot m).filter = w.filter := by
  unfold setMemory
  split <;> rfl

theorem keepsSetting_setMemory (w : World) (slot : Nat) (m : Memory) :
    w.KeepsSetting (w.setMemory slot m) :=
  keepsSetting_of_eq (clock_setMemory m) (filter_setMemory m) (directory_setMemory m)

/-- A step of a poll leaves the setting alone. -/
theorem keepsSetting_polled (spans : List LogSpan) (slot : Nat) (s : PollStep) (w : World) :
    w.KeepsSetting (polled spans slot s w).1 := by
  obtain ⟨events, heq⟩ := polled_eq spans slot s w
  rw [heq]
  exact (w.keepsSetting_setMemory slot s.memory).trans (keepsSetting_of_eq rfl rfl rfl)

end World

/-- A memory engine leaves the setting alone, whatever it is asked for. -/
theorem keepsSetting_startMemory (slot : Nat) (b : MemoryBackend) (spans : List LogSpan)
    (r : StorageRequest) (w : World) : w.KeepsSetting (startMemory slot b spans r w).1 := by
  -- only two requests look a channel up, and only two more change the world at all
  cases r with
  | publish message =>
    rw [startMemory]
    have hfind := w.keepsSetting_findChannel spans message.channel
    generalize w.findChannel spans message.channel = found at hfind
    obtain ⟨w', answer⟩ := found
    cases answer with
    | error e => exact hfind
    | ok channel =>
      exact (hfind.trans (w'.keepsSetting_setMemory slot _)).trans
        (World.keepsSetting_report _ spans _)
  | poll locator max wait =>
    rw [startMemory]
    have hfind := w.keepsSetting_findChannel spans locator.channel
    generalize w.findChannel spans locator.channel = found at hfind
    obtain ⟨w', answer⟩ := found
    cases answer with
    | error e => exact hfind
    | ok channel =>
      -- a poll takes a ticket before it looks at the queue
      have hticket : w'.KeepsSetting { w' with nextTicket := w'.nextTicket + 1 } :=
        World.keepsSetting_of_eq rfl rfl rfl
      exact (hfind.trans hticket).trans (World.keepsSetting_polled spans slot _ _)
  | revoke exp jti =>
    exact (w.keepsSetting_setMemory slot _).trans (World.keepsSetting_report _ spans _)
  | shutdown =>
    have hset : w.KeepsSetting (w.setBackend slot (.memory { b with nextCollect := none })) :=
      World.keepsSetting_of_eq rfl rfl rfl
    exact hset.trans (World.keepsSetting_report _ spans _)
  | _ => exact .refl w

/-- Operations take no time on the wall clock, leave the log filter alone, and do not make a
directory forget a channel. -/
theorem guarantee_keepsSetting : Guarantee World.KeepsSetting where
  refl := .refl
  trans := .trans
  report := World.keepsSetting_report
  polls _ _ _ := trivial
  backend b spans r w _ := by
    unfold Backend.start
    split
    next mb _ => exact keepsSetting_startMemory b.slot mb spans r w
    next script _ =>
      -- a scripted storage writes the request down and does no more
      unfold startScripted
      dsimp only
      split
      next => split <;> exact World.keepsSetting_of_eq rfl rfl rfl
      next => exact World.keepsSetting_of_eq rfl rfl rfl
    next => exact .refl w
  polling slot poll spans w := by
    rw [Call.resume]
    split
    · exact World.keepsSetting_polled spans slot _ w
    · exact .refl w
  dropped slot poll w := by
    rw [Call.drop]
    split
    · exact w.keepsSetting_setMemory slot _
    · exact .refl w

/-! ### Engines -/

namespace World

/-- Memory engines stay where they are, and keep their logs in order. -/
def KeepsEngines (w w' : World) : Prop := ∀ slot b, w.memory? slot = some b →
  ∃ b', w'.memory? slot = some b' ∧ (b.memory.Indexed → b'.memory.Indexed)

variable {w w' w'' : World} {slot : Nat}

theorem KeepsEngines.refl (w : World) : w.KeepsEngines w := fun _ b hb => ⟨b, hb, fun h => h⟩

/-- What stays in two steps stays in both together. -/
theorem KeepsEngines.trans (h : w.KeepsEngines w') (h' : w'.KeepsEngines w'') :
    w.KeepsEngines w'' := by
  intro slot b hb
  -- the engine is followed from one world to the next
  obtain ⟨b', hb', hkept⟩ := h slot b hb
  obtain ⟨b'', hb'', hkept'⟩ := h' slot b' hb'
  exact ⟨b'', hb'', fun hindexed => hkept' (hkept hindexed)⟩

/-- Where the backends are the same, so are the engines. -/
theorem keepsEngines_of_eq (h : w'.backends = w.backends) : w.KeepsEngines w' := by
  intro slot b hb
  refine ⟨b, ?_, fun hindexed => hindexed⟩
  rw [memory?, backend?, h]
  exact hb

/-- One engine is replaced by another one. -/
theorem keepsEngines_setBackend {b b' : MemoryBackend} (hb : w.memory? slot = some b)
    (hkept : b.memory.Indexed → b'.memory.Indexed) :
    w.KeepsEngines (w.setBackend slot (.memory b')) := by
  intro slot' b'' hb''
  by_cases hslot : slot = slot'
  · subst hslot
    rw [hb] at hb''
    obtain rfl := Option.some.inj hb''
    exact ⟨b', memory?_of_backend? (backend?_setBackend_self (backend?_of_memory? hb)), hkept⟩
  · refine ⟨b'', ?_, fun hindexed => hindexed⟩
    rw [memory?, backend?_setBackend_of_ne hslot]
    exact hb''

/-- What an engine holds may be replaced if its logs stay in order. -/
theorem keepsEngines_setMemory {b : MemoryBackend} (hb : w.memory? slot = some b) {m : Memory}
    (hkept : b.memory.Indexed → m.Indexed) : w.KeepsEngines (w.setMemory slot m) := by
  rw [setMemory_eq hb]
  exact keepsEngines_setBackend hb hkept

/-- Backends are not concerned when a channel is looked up. -/
theorem backends_findChannel (w : World) (spans : List LogSpan) (id : ChannelId) :
    (w.findChannel spans id).1.backends = w.backends := by
  obtain ⟨events, heq⟩ := w.findChannel_eq spans id
  rw [heq]

/-- Backends are not concerned when several channels are looked up. -/
theorem backends_findChannels (w : World) (ids : List ChannelId) :
    (w.findChannels ids).1.backends = w.backends := by
  induction ids generalizing w with
  | nil => rfl
  | cons id ids ih =>
    rw [findChannels]
    dsimp only
    split <;> exact (ih _).trans (w.backends_findChannel [] id)

theorem keepsEngines_report (w : World) (spans : List LogSpan) (n : Notice) :
    w.KeepsEngines (w.report spans n) := keepsEngines_of_eq (w.logs_report spans n).backends_eq

/-- A step of a poll keeps the engines if it keeps the logs of its own in order. -/
theorem keepsEngines_polled (spans : List LogSpan) {b : MemoryBackend} {s : PollStep}
    (hb : w.memory? slot = some b) (hkept : b.memory.Indexed → s.memory.Indexed) :
    w.KeepsEngines (polled spans slot s w).1 := by
  obtain ⟨events, heq⟩ := polled_eq spans slot s w
  rw [heq]
  exact (keepsEngines_setMemory hb hkept).trans (keepsEngines_of_eq rfl)

end World

/-- A poll that runs on leaves the logs in order. -/
theorem Memory.Indexed.resumePoll {m : Memory} (h : m.Indexed) (now : Timestamp) (time : Nat)
    (p : WaitingPoll) : (m.resumePoll now time p).memory.Indexed := by
  unfold Memory.resumePoll
  split
  · -- a bell is no matter of logs
    have hbells : ((m.onBell p.bell (·.resume p.order.ticket)).onBell p.bell
        Bell.release).Indexed := h
    exact hbells.look now time p.order
  · split
    · have hbells : (m.leaveBell p.bell p.order.ticket).Indexed := h
      have hmemory := ((m.leaveBell p.bell p.order.ticket).lastLook_frame now p.order).1
      exact hbells.of_looked (congrArg Memory.channels hmemory)
        ((congrArg Memory.nextSequence hmemory).trans rfl)
    · exact h

/-- A memory engine stays in its place, whatever it is asked for. -/
theorem keepsEngines_startMemory {slot : Nat} {b : MemoryBackend} {w : World}
    (hb : w.memory? slot = some b) (spans : List LogSpan) (r : StorageRequest) :
    w.KeepsEngines (startMemory slot b spans r w).1 := by
  cases r with
  | publish message =>
    rw [startMemory]
    have hbackends := w.backends_findChannel spans message.channel
    generalize w.findChannel spans message.channel = found at hbackends
    obtain ⟨w', answer⟩ := found
    have hfind : w.KeepsEngines w' := World.keepsEngines_of_eq hbackends
    cases answer with
    | error e => exact hfind
    | ok channel =>
      -- the lookup has left the engine as it was
      have hb' : w'.memory? slot = some b := by
        rw [World.memory?, World.backend?, hbackends]
        exact hb
      have hset : w'.KeepsEngines
          (w'.setMemory slot (b.memory.publish w'.clock channel message).1) :=
        World.keepsEngines_setMemory hb' fun h => h.publish _ _ _
      exact (hfind.trans hset).trans (World.keepsEngines_report _ _ _)
  | poll locator max wait =>
    cases hfind : (w.directory.find w.clock locator.channel).answer with
    | error e =>
      obtain ⟨events, heq⟩ := startMemory_poll_of_error slot b spans hfind max wait
      rw [heq]
      exact World.keepsEngines_of_eq rfl
    | ok channel =>
      obtain ⟨events, heq⟩ := startMemory_poll_of_ok slot b spans hfind max wait
      rw [heq]
      exact (World.keepsEngines_setMemory hb fun h => h.look _ _ _).trans
        (World.keepsEngines_of_eq rfl)
  | revoke exp jti =>
    have hset : w.KeepsEngines (w.setMemory slot (b.memory.revoke exp jti)) :=
      World.keepsEngines_setMemory hb fun h => h
    exact hset.trans (World.keepsEngines_report _ _ _)
  | shutdown =>
    have hset : w.KeepsEngines (w.setBackend slot (.memory { b with nextCollect := none })) :=
      World.keepsEngines_setBackend hb fun h => h
    exact hset.trans (World.keepsEngines_report _ _ _)
  | _ => exact .refl w

/-- A scripted storage makes a note of the request, and no engine changes. -/
theorem keepsEngines_startScripted {slot : Nat} {s : ScriptedStorage} {w : World}
    (hs : w.backend? slot = some (.scripted s)) (spans : List LogSpan) (r : StorageRequest) :
    w.KeepsEngines (startScripted slot s spans r w).1 := by
  have hset : w.KeepsEngines (w.setBackend slot (.scripted (s.record r))) := by
    intro slot' b hb
    refine ⟨b, ?_, fun h => h⟩
    -- no engine stands where a scripted storage does
    have hne : slot ≠ slot' := fun heq => by
      rw [heq, World.backend?_of_memory? hb] at hs
      exact absurd hs nofun
    rw [World.memory?, World.backend?_setBackend_of_ne hne]
    exact hb
  unfold startScripted
  dsimp only
  -- the answer comes at once, or after a delay
  split
  next => split <;> exact hset
  next => exact hset

/-- Whatever happens in a storage, memory engines stay where they are. -/
theorem guarantee_keepsEngines : Guarantee World.KeepsEngines where
  refl := .refl
  trans := .trans
  report := World.keepsEngines_report
  polls _ _ _ := trivial
  backend b spans r w _ := by
    unfold Backend.start
    split
    -- a place holds an engine, a script, or nothing at all
    next mb hmb => exact keepsEngines_startMemory (World.memory?_of_backend? hmb) spans r
    next script hscript => exact keepsEngines_startScripted hscript spans r
    next => exact .refl w
  polling slot poll spans w := by
    rw [Call.resume]
    split
    next b hb => exact World.keepsEngines_polled spans hb fun h => h.resumePoll _ _ _
    next => exact .refl w
  dropped slot poll w := by
    rw [Call.drop]
    split
    next b hb => exact World.keepsEngines_setMemory hb fun h => h
    next => exact .refl w

/-- A pass over an engine leaves it where it is, with its logs in order. -/
theorem World.keepsEngines_collect (w : World) (slot : Nat) (timeout : Duration) (pace : Pace) :
    w.KeepsEngines (w.collect slot timeout pace).1 := by
  cases hb : w.memory? slot with
  | none =>
    rw [World.collect, hb]
    exact .refl w
  | some b =>
    cases hrefusal : Memory.collectRefusal? pace timeout with
    | some refusal =>
      rw [World.collect_of_refused hb hrefusal]
      exact .refl w
    | none =>
      obtain ⟨ids, heq⟩ := World.collect_of_begun hb hrefusal
      rw [heq]
      -- to look channels up is no matter of the backends
      have hbackends := w.backends_findChannels ids
      have hb' : (w.findChannels ids).1.memory? slot = some b := by
        rw [World.memory?, World.backend?, hbackends]
        exact hb
      exact (World.keepsEngines_of_eq hbackends).trans
        (World.keepsEngines_setMemory hb' (b.memory.thins_collectWithin _ _ pace).indexed)

/-- A pass over an engine, if it is time for one, leaves the engine where it is. -/
theorem World.keepsEngines_collectIfDue (w : World) (slot : Nat) (pace : Pace) :
    w.KeepsEngines (w.collectIfDue slot pace) := by
  unfold World.collectIfDue
  split
  next => exact .refl w
  next b _ =>
    split
    next => exact .refl w
    next =>
      split
      next =>
        -- the pass and its report come first, and then the next one is planned
        have hpass := (w.keepsEngines_collect slot b.options.collectTimeout pace).trans
          (World.keepsEngines_report _ []
            (World.collectNotice (w.collect slot b.options.collectTimeout pace).2))
        dsimp only
        split
        next b' hb' => exact hpass.trans (World.keepsEngines_setBackend hb' fun h => h)
        next => exact hpass
      next => exact .refl w

end LongPoll
