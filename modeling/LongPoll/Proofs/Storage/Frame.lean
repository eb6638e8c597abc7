import LongPoll.Proofs.Engine.Passes
import LongPoll.Storage.World
/-!
# What operations of a world leave alone

Reports are written to the log and nowhere else. Looking a channel up changes the directory and the
log. The contents of one backend change apart from those of all others.

A directory may promise something about its answers (`Directory.Promises`), for example that a
channel is found under its own name. Looking channels up keeps such a promise, with a cache before
the source as without one.
-/

namespace LongPoll

namespace World

section Report

variable (w : World) (spans : List LogSpan)

/-- A report changes the log at most. -/
theorem report_eq (n : Notice) :
    ∃ events, w.report spans n = { w with events := events } := by
  unfold report
  split
  · exact ⟨_, rfl⟩
  · exact ⟨w.events, rfl⟩

/-- Several reports change the log at most. -/
theorem reportAll_eq (ns : List Notice) :
    ∃ events, w.reportAll spans ns = { w with events := events } := by
  unfold reportAll
  -- each report meets the world that the last one has left, so the world is generalized
  induction ns generalizing w with
  | nil => exact ⟨w.events, rfl⟩
  | cons n ns ih =>
    obtain ⟨events, heq⟩ := w.report_eq spans n
    obtain ⟨events', heq'⟩ := ih { w with events := events }
    exact ⟨events', by rw [List.foldl_cons, heq, heq']⟩

/-- Looking a channel up changes the directory and the log. -/
theorem findChannel_eq (id : ChannelId) : ∃ events, w.findChannel spans id =
    ({ w with directory := (w.directory.find w.clock id).directory, events := events },
      (w.directory.find w.clock id).answer) := by
  unfold findChannel
  dsimp only
  cases (w.directory.find w.clock id).swept with
  | none => exact ⟨w.events, rfl⟩
  | some evicted =>
    dsimp only
    obtain ⟨events, heq⟩ :=
      { w with directory := (w.directory.find w.clock id).directory }.report_eq spans
        (.cacheSwept evicted)
    exact ⟨events, by rw [heq]⟩

end Report

section Backends

variable {w : World} {slot : Nat}

/-- Where a memory engine stands, a memory engine is the backend. -/
theorem backend?_of_memory? {b : MemoryBackend} (h : w.memory? slot = some b) :
    w.backend? slot = some (.memory b) := by
  unfold memory? at h
  split at h
  next m heq => rw [heq, Option.some.inj h]
  next => exact absurd h (Option.some_ne_none b).symm

/-- A backend that is a memory engine is found as one. -/
theorem memory?_of_backend? {b : MemoryBackend} (h : w.backend? slot = some (.memory b)) :
    w.memory? slot = some b := by
  rw [memory?, h]

theorem backend?_setBackend_self {b b' : BackendState} (h : w.backend? slot = some b) :
    (w.setBackend slot b').backend? slot = some b' := by
  obtain ⟨hlt, -⟩ := List.getElem?_eq_some_iff.mp h
  exact List.getElem?_set_self hlt

theorem backend?_setBackend_of_ne {slot' : Nat} (h : slot ≠ slot') (b : BackendState) :
    (w.setBackend slot b).backend? slot' = w.backend? slot' :=
  List.getElem?_set_ne h

/-- To replace what an engine holds leaves the rest of its backend alone. -/
theorem setMemory_eq {b : MemoryBackend} (h : w.memory? slot = some b) (m : Memory) :
    w.setMemory slot m = w.setBackend slot (.memory { b with memory := m }) := by
  rw [setMemory, h]

@[simp]
theorem clock_setMemory (m : Memory) : (w.setMemory slot m).clock = w.clock := by
  unfold setMemory
  split <;> rfl

@[simp]
theorem directory_setMemory (m : Memory) : (w.setMemory slot m).directory = w.directory := by
  unfold setMemory
  split <;> rfl

theorem backend?_setMemory_self {b : MemoryBackend} (h : w.memory? slot = some b) (m : Memory) :
    (w.setMemory slot m).backend? slot = some (.memory { b with memory := m }) := by
  rw [setMemory_eq h, backend?_setBackend_self (backend?_of_memory? h)]

end Backends

end World

/-- The channel that a cache knows, if it is not known to be missing. -/
def CacheEntry.channel? : CacheEntry → Option Channel
  | found channel _ => some channel
  | missing _ => none

/-- What a cache knows is as `P` says. -/
def ChannelCache.Promises (c : ChannelCache) (P : ChannelId → Option Channel → Prop) : Prop :=
  ∀ id entry, c.entries.get? id = some entry → P id entry.channel?

namespace ChannelCache.Promises

variable {c c' : ChannelCache} {P : ChannelId → Option Channel → Prop} {now : Timestamp}
  {id : ChannelId} {answer : Except Error Channel}

/-- What is entered as promised does not break the promise. -/
theorem insert (h : c.Promises P) {entry : CacheEntry} (hentry : P id entry.channel?) :
    Promises { c with entries := c.entries.insert id entry } P := by
  intro id' entry' hget
  rw [Table.get?_insert] at hget
  split at hget
  next heq =>
    rw [← Option.some.inj hget, ← heq]
    exact hentry
  next => exact h id' entry' hget

/-- An answer from the cache is as promised, and the use that is noted keeps the promise. -/
theorem answer? (h : c.Promises P) (hanswer : c.answer? now id = some (answer, c')) :
    P id answer.toOption ∧ c'.Promises P := by
  unfold ChannelCache.answer? at hanswer
  split at hanswer
  next => exact absurd hanswer (Option.some_ne_none _).symm
  next entry hget =>
    have hentry := h id entry hget
    split at hanswer
    next =>
      cases entry with
      | found channel lastUse =>
        obtain ⟨rfl, rfl⟩ := Prod.mk.inj (Option.some.inj hanswer)
        exact ⟨hentry, h.insert hentry⟩
      | missing until_ =>
        obtain ⟨rfl, rfl⟩ := Prod.mk.inj (Option.some.inj hanswer)
        exact ⟨hentry, h⟩
    next => exact absurd hanswer (Option.some_ne_none _).symm

/-- To forget entries breaks no promise. -/
theorem sweep (h : c.Promises P) (now : Timestamp) : (c.sweep now).1.Promises P := by
  unfold ChannelCache.sweep
  split
  · exact h
  · intro id entry hget
    rw [Table.get?_filter] at hget
    exact h id entry (Option.filter_eq_some_iff.mp hget).1

/-- To remember an answer that is as promised keeps the promise. -/
theorem remember (h : c.Promises P) (now : Timestamp) (hanswer : P id answer.toOption) :
    (c.remember now id answer).Promises P := by
  unfold ChannelCache.remember
  split
  · exact h.insert hanswer
  · exact h.insert hanswer
  · exact h

end ChannelCache.Promises

/-- Every answer of a directory is as `P` says, whether it comes from the source or the cache. -/
structure Directory.Promises (d : Directory) (P : ChannelId → Option Channel → Prop) : Prop where
  /-- The source answers as promised. -/
  source : ∀ id, P id (d.ask id).1.toOption
  /-- The cache answers as promised. -/
  cached : ∀ cache, d.cache = some cache → cache.Promises P

namespace Directory.Promises

variable {d : Directory} {P : ChannelId → Option Channel → Prop}

/-- Looking a channel up is answered as promised, and keeps the promise. -/
theorem find (h : d.Promises P) (now : Timestamp) (id : ChannelId) :
    P id (d.find now id).answer.toOption ∧ (d.find now id).directory.Promises P := by
  unfold Directory.find
  cases hcache : d.cache with
  | none =>
    exact ⟨h.source id, h.source, fun cache heq => h.cached cache heq⟩
  | some cache =>
    have hkept := h.cached cache hcache
    dsimp only
    cases hanswer : cache.answer? now id with
    | some found =>
      obtain ⟨answer, cache'⟩ := found
      -- the cache answers from what was promised when it was remembered
      obtain ⟨hpromise, hcache'⟩ := hkept.answer? hanswer
      exact ⟨hpromise, h.source, fun _ heq => Option.some.inj heq ▸ hcache'⟩
    | none =>
      -- Not found in the cache: the source answers, and that is what is remembered.
      have hremember := (hkept.sweep now).remember now (h.source id)
      exact ⟨h.source id, h.source, fun _ heq => Option.some.inj heq ▸ hremember⟩

end Directory.Promises

/-- A directory that promises something promises all that follows from it. -/
theorem Directory.Promises.imp {d : Directory} {P Q : ChannelId → Option Channel → Prop}
    (h : d.Promises P) (hPQ : ∀ id answer, P id answer → Q id answer) : d.Promises Q where
  source id := hPQ id _ (h.source id)
  cached cache hcache id entry hget := hPQ id _ (h.cached cache hcache id entry hget)

namespace World

/-- What happens leaves alone the wall clock and all backends but these, and the directory keeps its
promises. -/
structure Confined (slots : List Nat) (w w' : World) : Prop where
  /-- The wall clock shows the same. -/
  clock_eq : w'.clock = w.clock
  /-- The other backends are as they were. -/
  backend?_eq : ∀ slot, slot ∉ slots → w'.backend? slot = w.backend? slot
  /-- The directory goes on to answer as promised. -/
  promises : ∀ P, w.directory.Promises P → w'.directory.Promises P

namespace Confined

variable {slots slots' : List Nat} {w w' w'' : World}

theorem refl : Confined slots w w := ⟨rfl, fun _ _ => rfl, fun _ h => h⟩

theorem trans (h : Confined slots w w') (h' : Confined slots w' w'') : Confined slots w w'' where
  clock_eq := h'.clock_eq.trans h.clock_eq
  backend?_eq slot hslot := (h'.backend?_eq slot hslot).trans (h.backend?_eq slot hslot)
  promises P hP := h'.promises P (h.promises P hP)

theorem mono (h : Confined slots w w') (hsub : slots ⊆ slots') : Confined slots' w w' where
  clock_eq := h.clock_eq
  backend?_eq slot hslot := h.backend?_eq slot fun hmem => hslot (hsub hmem)
  promises := h.promises

/-- An engine that is not concerned is as it was. -/
theorem memory?_eq (h : Confined slots w w') {slot : Nat} (hslot : slot ∉ slots) :
    w'.memory? slot = w.memory? slot := by
  rw [memory?, memory?, h.backend?_eq slot hslot]

end Confined

section Confined

variable (w : World) (spans : List LogSpan) (slots : List Nat) (slot : Nat)

theorem confined_report (n : Notice) : Confined slots w (w.report spans n) := by
  obtain ⟨events, heq⟩ := w.report_eq spans n
  rw [heq]
  exact ⟨rfl, fun _ _ => rfl, fun _ h => h⟩

theorem confined_reportAll (ns : List Notice) : Confined slots w (w.reportAll spans ns) := by
  obtain ⟨events, heq⟩ := w.reportAll_eq spans ns
  rw [heq]
  exact ⟨rfl, fun _ _ => rfl, fun _ h => h⟩

/-- To look a channel up concerns no backend. -/
theorem confined_findChannel (id : ChannelId) :
    Confined slots w (w.findChannel spans id).1 := by
  obtain ⟨events, heq⟩ := w.findChannel_eq spans id
  rw [heq]
  exact ⟨rfl, fun _ _ => rfl, fun P hP => (hP.find w.clock id).2⟩

/-- To look several channels up concerns no backend. -/
theorem confined_findChannels (ids : List ChannelId) :
    Confined slots w (w.findChannels ids).1 := by
  induction ids generalizing w with
  | nil => exact .refl
  | cons id ids ih =>
    have hfirst := w.confined_findChannel [] slots id
    rw [findChannels]
    dsimp only
    split <;> exact hfirst.trans (ih _)

/-- To replace a backend concerns this backend. -/
theorem confined_setBackend (b : BackendState) :
    Confined [slot] w (w.setBackend slot b) where
  clock_eq := rfl
  backend?_eq _ hslot' :=
    backend?_setBackend_of_ne (fun heq => hslot' (List.mem_singleton.mpr heq.symm)) b
  promises _ h := h

/-- To replace what an engine holds concerns this engine. -/
theorem confined_setMemory (m : Memory) : Confined [slot] w (w.setMemory slot m) := by
  unfold setMemory
  split
  · exact w.confined_setBackend slot _
  · exact .refl

/-- A pass concerns the engine that it is about, whether it is complete or not. -/
theorem confined_collect (timeout : Duration) (pace : Pace) :
    Confined [slot] w (w.collect slot timeout pace).1 := by
  unfold collect
  split
  · exact .refl
  next b _ =>
    split
    · exact .refl
    · exact (w.confined_findChannels [slot] _).trans (confined_setMemory _ slot _)

end Confined

/-! ### Passes over an engine -/

section Collect

variable {w : World} {slot : Nat} {b : MemoryBackend} {timeout : Duration} {pace : Pace}

/-- A pass that does not begin leaves the world as it was. -/
theorem collect_of_refused {refusal : CollectResult} (hb : w.memory? slot = some b)
    (h : Memory.collectRefusal? pace timeout = some refusal) :
    w.collect slot timeout pace = (w, refusal) := by
  simp only [collect, hb, h]

/-- A pass that begins goes by what the directory answers in its course. -/
theorem collect_of_begun (hb : w.memory? slot = some b)
    (h : Memory.collectRefusal? pace timeout = none) :
    ∃ ids, w.collect slot timeout pace =
      ((w.findChannels ids).1.setMemory slot
        (b.memory.collectWithin pace w.clock (w.answers (pace.route b.memory))).memory,
      (b.memory.collectWithin pace w.clock (w.answers (pace.route b.memory))).result) := by
  simp only [collect, hb, h]
  exact ⟨_, rfl⟩

/-- A pass that nothing hinders has looked up all channels in the order of the engine. -/
theorem collect_of_unhurried (hb : w.memory? slot = some b)
    (h : Memory.collectRefusal? .unhurried timeout = none) :
    w.collect slot timeout =
      ((w.findChannels b.memory.channels.keys).1.setMemory slot
        (b.memory.collect w.clock (w.answers b.memory.channels.keys)).1,
      .done (b.memory.collect w.clock (w.answers b.memory.channels.keys)).2) := by
  have hroute : Pace.unhurried.route b.memory = b.memory.channels.keys := rfl
  have htake : b.memory.channels.keys.take b.memory.channels.size = b.memory.channels.keys :=
    List.take_of_length_le (Nat.le_of_eq (List.length_map ..))
  have hcomplete : b.memory.collectWithin .unhurried w.clock (w.answers b.memory.channels.keys) =
      _ := b.memory.collectWithin_of_all _ _ rfl
  simp only [collect, hb, h, hroute, hcomplete, htake]

end Collect

end World

/-- Looking several channels up brings the answers as promised, and changes the directory and the
log only. -/
theorem World.findChannels_spec {P : ChannelId → Option Channel → Prop} (w : World)
    (h : w.directory.Promises P) {ids : List ChannelId} (hnodup : ids.Nodup) :
    (∀ id ∈ ids, P id (Table.lookUp? id (w.findChannels ids).2)) ∧
      (∀ id, id ∉ ids → Table.lookUp? id (w.findChannels ids).2 = none) ∧
      ∃ directory events, (w.findChannels ids).1 =
        { w with directory := directory, events := events } := by
  induction ids generalizing w with
  | nil => exact ⟨fun id hid => absurd hid List.not_mem_nil, fun id _ => rfl, _, _, rfl⟩
  | cons id ids ih =>
    obtain ⟨hfresh, hrest⟩ := List.nodup_cons.mp hnodup
    obtain ⟨events, heq⟩ := w.findChannel_eq [] id
    obtain ⟨hanswer, hdirectory⟩ := h.find w.clock id
    obtain ⟨hmem, hnone, directory', events', hworld⟩ := ih
      { w with directory := (w.directory.find w.clock id).directory, events := events }
      hdirectory hrest
    simp only [findChannels, heq]
    rw [hworld]
    cases hfind : (w.directory.find w.clock id).answer with
    | error e =>
      rw [hfind] at hanswer
      refine ⟨?_, ?_, directory', events', rfl⟩
      · intro id' hid'
        -- a channel that is not found is left out, and no later answer is for its name
        rcases List.mem_cons.mp hid' with rfl | htail
        · rw [hnone _ hfresh]
          exact hanswer
        · exact hmem id' htail
      · intro id' hid'
        exact hnone id' fun htail => hid' (List.mem_cons_of_mem id htail)
    | ok channel =>
      rw [hfind] at hanswer
      refine ⟨?_, ?_, directory', events', rfl⟩
      · intro id' hid'
        by_cases hid : id = id'
        · subst hid
          rw [Table.lookUp?, if_pos rfl]
          exact hanswer
        · rw [Table.lookUp?, if_neg hid]
          exact hmem id' ((List.mem_cons.mp hid').resolve_left fun heq => hid heq.symm)
      · intro id' hid'
        have hne : id ≠ id' := fun heq => hid' (heq ▸ List.mem_cons_self)
        rw [Table.lookUp?, if_neg hne]
        exact hnone id' fun htail => hid' (List.mem_cons_of_mem id htail)

/-- A channel is found under its own name. -/
def FiledAs (id : ChannelId) (answer : Option Channel) : Prop := ∀ channel ∈ answer, channel.id = id

/-- Both sources of channels find a channel under its own name. -/
theorem ChannelSource.filedAs_find (s : ChannelSource) (id : ChannelId) :
    FiledAs id (s.find id).toOption := by
  unfold ChannelSource.find
  intro channel hchannel
  cases s with
  | uniform expire =>
    dsimp only at hchannel
    split at hchannel
    · exact absurd hchannel (Option.not_mem_none _)
    · rw [← Option.some.inj hchannel]
  | catalogue c =>
    dsimp only [Catalogue.find] at hchannel
    split at hchannel
    · exact absurd hchannel (Option.not_mem_none _)
    · rw [← Option.some.inj hchannel]

/-- A new directory finds channels under their own names, and goes on to do so. -/
theorem Directory.promises_start (source : ChannelSource) (onBench : Bool) (lookups : Nat)
    (cache : Option Timestamp) :
    Directory.Promises ⟨source, onBench, lookups, cache.map ChannelCache.start⟩ FiledAs where
  source id := by
    unfold Directory.ask
    dsimp only
    split
    · exact fun channel h => absurd h (Option.not_mem_none _)
    · exact source.filedAs_find id
  cached c hc := by
    obtain ⟨now, -, rfl⟩ := Option.map_eq_some_iff.mp hc
    exact fun id entry hget => absurd hget (Option.some_ne_none _).symm

end LongPoll
