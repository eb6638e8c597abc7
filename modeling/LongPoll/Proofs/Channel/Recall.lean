import LongPoll.Proofs.Storage.Steady
/-!
# What a cache recalls

Whether a cache asks its source, and what it answers otherwise, can be told from the look-ups alone
(`recollect`). A channel that the source has named is recalled as long as no pause between look-ups
of its name was longer than its expiry. That there is no channel of a name is recalled for a minute
from when the source said so. Nothing else is recalled.

`lookups_as_recalled` says that a cache answers like that, whatever the source says and however
stale entries are removed. An entry that is stale stays so until the source is asked again, and
entries that are not stale are never removed, so nobody can tell whether stale entries are there.
-/

namespace LongPoll

/-- A look-up through a cache. -/
structure CacheUse where
  /-- When it happens. -/
  now : Timestamp
  /-- The name that is looked up. -/
  id : ChannelId
  /-- What the source says if it is asked at that moment. -/
  reply : Except Error Channel

/-- What a look-up through a cache brings. -/
structure CacheOutcome where
  /-- The answer. -/
  answer : Except Error Channel
  /-- The source was asked. -/
  asked : Bool

/-- A look-up and what it has brought. -/
structure CacheRecord where
  /-- The look-up. -/
  use : CacheUse
  /-- What it has brought. -/
  outcome : CacheOutcome

namespace ChannelCache

/-- Look a channel up: answer from the cache, or else ask the source and remember what it says. -/
def use (c : ChannelCache) (u : CacheUse) : CacheOutcome × ChannelCache :=
  match c.answer? u.now u.id with
  | some (answer, c) => (⟨answer, false⟩, c)
  | none => (⟨u.reply, true⟩, (c.sweep u.now).1.remember u.now u.id u.reply)

/-- Remove stale entries, all of them or only some. -/
def evict (c : ChannelCache) (now : Timestamp) (doomed : ChannelId → Bool) : ChannelCache :=
  { c with entries := c.entries.filter fun id e => e.isFresh now || !doomed id }

/-- A cache has served these look-ups, the last one first, and the clock has never gone back. Beside
its own removals of stale entries, which can be put off or brought forward, there may be others at
any time. -/
inductive Serves : ChannelCache → Timestamp → List CacheRecord → Prop
  /-- The cache is new. -/
  | start (now : Timestamp) : Serves (.start now) now []
  /-- Time passes. -/
  | pass {c : ChannelCache} {now : Timestamp} {records : List CacheRecord} (later : Timestamp)
    (hle : now ≤ later) (h : Serves c now records) : Serves c later records
  /-- A channel is looked up. -/
  | use {c : ChannelCache} {now : Timestamp} {records : List CacheRecord} (id : ChannelId)
    (reply : Except Error Channel) (h : Serves c now records) :
    Serves (c.use ⟨now, id, reply⟩).2 now
      (⟨⟨now, id, reply⟩, (c.use ⟨now, id, reply⟩).1⟩ :: records)
  /-- Stale entries are removed. -/
  | evict {c : ChannelCache} {now : Timestamp} {records : List CacheRecord}
    (doomed : ChannelId → Bool) (h : Serves c now records) : Serves (c.evict now doomed) now records
  /-- The next removal is put off or brought forward. -/
  | plan {c : ChannelCache} {now : Timestamp} {records : List CacheRecord} (lastSweep : Timestamp)
    (h : Serves c now records) : Serves { c with lastSweep := lastSweep } now records

end ChannelCache

/-! ### The history of a name -/

/-- The last time that the source was asked about a name, and the look-ups of it since then. -/
structure Consultation where
  /-- When the source was asked. -/
  asked : Timestamp
  /-- What it said. -/
  reply : Except Error Channel
  /-- When the name was looked up since then, the last time first. -/
  since : List Timestamp

/-- The last time that the source was asked in look-ups of one name, the last of which comes
first. -/
def lastConsultation? : List CacheRecord → Option Consultation
  | [] => none
  | r :: older =>
    if r.outcome.asked then some ⟨r.use.now, r.use.reply, []⟩
    else (lastConsultation? older).map fun s => { s with since := r.use.now :: s.since }

/-- The look-ups of one name. -/
def recordsOf (id : ChannelId) (records : List CacheRecord) : List CacheRecord :=
  records.filter (·.use.id = id)

/-- Of moments that are given from the last to the first, no two that follow each other are further
apart. -/
def GapsWithin (d : Duration) (times : List Timestamp) : Prop :=
  times.IsChain fun later earlier => later.nanos - earlier.nanos ≤ (d.nanos : Int)

instance (d : Duration) (times : List Timestamp) : Decidable (GapsWithin d times) :=
  inferInstanceAs (Decidable (List.IsChain _ _))

theorem gapsWithin_cons_cons {d : Duration} {later earlier : Timestamp} {times : List Timestamp} :
    GapsWithin d (later :: earlier :: times) ↔
      later.nanos - earlier.nanos ≤ d.nanos ∧ GapsWithin d (earlier :: times) :=
  List.isChain_cons_cons

/-- What is recalled about a name from the last time that the source was asked. -/
def Consultation.answer? (s : Consultation) (now : Timestamp) (id : ChannelId) :
    Option (Except Error Channel) :=
  match s.reply with
  | .ok channel =>
    if GapsWithin channel.expire (now :: s.since ++ [s.asked]) then some (.ok channel) else none
  | .error (.invalidChannel _) =>
    if now < s.asked.plus ChannelCache.missingFor then some (.error (.invalidChannel id.text))
    else none
  | .error _ => none

/-- What a look-up brings after these ones, the last of which comes first. -/
def recollect (records : List CacheRecord) (u : CacheUse) : CacheOutcome :=
  match (lastConsultation? (recordsOf u.id records)).bind (·.answer? u.now u.id) with
  | some answer => ⟨answer, false⟩
  | none => ⟨u.reply, true⟩

/-- Every look-up has brought what is recalled from those before it. -/
def AsRecalled (records : List CacheRecord) : Prop :=
  ∀ newer r older, records = newer ++ r :: older → r.outcome = recollect older r.use

section Records

variable {records records' : List CacheRecord} {r : CacheRecord} {id : ChannelId}

theorem recordsOf_cons_self (r : CacheRecord) (records : List CacheRecord) :
    recordsOf r.use.id (r :: records) = r :: recordsOf r.use.id records :=
  List.filter_cons_of_pos (by simp)

theorem recordsOf_cons_of_ne (h : r.use.id ≠ id) :
    recordsOf id (r :: records) = recordsOf id records :=
  List.filter_cons_of_neg (by simpa using h)

/-- One more look-up may bring what is recalled. -/
theorem AsRecalled.cons (h : AsRecalled records) (hr : r.outcome = recollect records r.use) :
    AsRecalled (r :: records) := by
  intro newer r' older heq
  cases newer with
  | nil =>
    obtain ⟨rfl, rfl⟩ := List.cons.inj heq
    exact hr
  | cons r'' newer => exact h newer r' older (List.cons.inj heq).2

/-- What is recalled depends on the look-ups alone. -/
theorem AsRecalled.eq_of_uses_eq (h : AsRecalled records) (h' : AsRecalled records')
    (huses : records'.map (·.use) = records.map (·.use)) : records' = records := by
  induction records generalizing records' with
  | nil => exact List.map_eq_nil_iff.mp huses
  | cons r records ih =>
    obtain ⟨r', older, rfl, huse, hrest⟩ := List.map_eq_cons_iff.mp huses
    have hnow := h [] r records rfl
    have hnow' := h' [] r' older rfl
    -- both have brought the same before
    obtain rfl : older = records := ih
      (fun newer x older' heq => h (r :: newer) x older' (congrArg (r :: ·) heq))
      (fun newer x older' heq => h' (r' :: newer) x older' (congrArg (r' :: ·) heq)) hrest
    -- the same look-up after the same ones
    obtain ⟨use, outcome⟩ := r
    obtain ⟨use', outcome'⟩ := r'
    obtain rfl : use' = use := huse
    obtain rfl : outcome' = outcome := hnow'.trans hnow.symm
    rfl

end Records

/-! ### What the cache knows -/

/-- The entry after it was used. -/
def CacheEntry.usedAt (now : Timestamp) : CacheEntry → CacheEntry
  | found channel _ => found channel now
  | missing until_ => missing until_

/-- The entry that a cache has for a name since the source was asked the last time. -/
def Consultation.known? (s : Consultation) (now : Timestamp) : Option CacheEntry :=
  match s.reply with
  | .ok channel =>
    if GapsWithin channel.expire (now :: s.since ++ [s.asked]) then
      some (.found channel (s.since.headD s.asked))
    else none
  | .error (.invalidChannel _) =>
    if now < s.asked.plus ChannelCache.missingFor then
      some (.missing (s.asked.plus ChannelCache.missingFor))
    else none
  | .error _ => none

namespace Consultation

/-- What is recalled about a name is what the entry known for it says. -/
theorem answer?_eq (s : Consultation) (now : Timestamp) (id : ChannelId) :
    s.answer? now id = (s.known? now).map (·.verdict id) := by
  unfold answer? known?
  split
  · split <;> rfl
  · split <;> rfl
  · rfl

/-- A look-up that is answered from the cache. -/
theorem known?_again (s : Consultation) {now later : Timestamp} {e : CacheEntry}
    (h : s.known? now = some e) :
    known? { s with since := now :: s.since } later =
      (some (e.usedAt now)).filter (·.isFresh later) := by
  unfold known? at h ⊢
  dsimp only
  -- only what is still fresh is answered from the cache
  split at h
  next channel hreply =>
    split at h
    next hgaps =>
      -- the gap up to now comes before all others
      obtain rfl := Option.some.inj h
      rw [Option.filter_some, CacheEntry.usedAt, CacheEntry.isFresh]
      simp only [decide_eq_true_eq]
      exact if_congr (gapsWithin_cons_cons.trans (and_iff_left hgaps)) rfl rfl
    next => exact absurd h (Option.some_ne_none _).symm
  next hreply =>
    split at h
    next =>
      obtain rfl := Option.some.inj h
      rw [Option.filter_some, CacheEntry.usedAt, CacheEntry.isFresh]
      simp only [decide_eq_true_eq]
    next => exact absurd h (Option.some_ne_none _).symm
  next => exact absurd h (Option.some_ne_none _).symm

/-- The source has just named a channel. -/
theorem known?_found (channel : Channel) (asked now : Timestamp) :
    known? ⟨asked, .ok channel, []⟩ now =
      (some (.found channel asked)).filter (·.isFresh now) := by
  rw [known?, Option.filter_some, CacheEntry.isFresh]
  simp only [decide_eq_true_eq]
  exact if_congr (gapsWithin_cons_cons.trans (and_iff_left (List.IsChain.singleton asked))) rfl rfl

/-- The source has just said that there is no such channel. -/
theorem known?_missing (detail : String) (asked now : Timestamp) :
    known? ⟨asked, .error (.invalidChannel detail), []⟩ now =
      (some (.missing (asked.plus ChannelCache.missingFor))).filter (·.isFresh now) := by
  rw [known?, Option.filter_some, CacheEntry.isFresh]
  simp only [decide_eq_true_eq]

/-- Other failures are not kept. -/
theorem known?_other {e : Error} (h : ∀ detail, e ≠ .invalidChannel detail)
    {asked now : Timestamp} {since : List Timestamp} :
    known? ⟨asked, .error e, since⟩ now = none := by
  unfold known?
  split
  next heq => cases heq
  next heq => exact absurd (Except.error.inj heq) (h _)
  next => rfl

end Consultation

namespace ChannelCache

variable {c : ChannelCache} {now later : Timestamp} {id : ChannelId}

/-- What is fresh has been fresh since it was used. -/
theorem isFresh_of_later {e : CacheEntry} (hle : now ≤ later) (h : e.isFresh later = true) :
    e.isFresh now = true := by
  cases e with
  | found channel lastUse =>
    simp only [CacheEntry.isFresh, decide_eq_true_eq] at h ⊢
    rw [Timestamp.le_iff] at hle
    omega
  | missing until_ =>
    simp only [CacheEntry.isFresh, decide_eq_true_eq] at h ⊢
    exact Timestamp.lt_of_le_of_lt hle h

/-- What the cache does not know now it does not know later either, unless it asks. -/
theorem fresh?_eq_none_of_later (hle : now ≤ later) (h : c.fresh? now id = none) :
    c.fresh? later id = none := by
  unfold fresh? at h ⊢
  rw [Option.filter_eq_none_iff] at h ⊢
  exact fun e he hfresh => h e he (isFresh_of_later hle hfresh)

theorem fresh?_congr {c c' : ChannelCache} (h : c'.entries = c.entries) :
    c'.fresh? later id = c.fresh? later id := by
  rw [fresh?, fresh?, h]

/-- To remove what is stale makes no difference then and later. -/
theorem fresh?_evict (hle : now ≤ later) (doomed : ChannelId → Bool) :
    (c.evict now doomed).fresh? later id = c.fresh? later id := by
  rw [fresh?, fresh?, evict, Table.get?_filter, Option.filter_filter]
  cases c.entries.get? id with
  | none => rfl
  | some e =>
    dsimp only [Option.filter_some]
    -- what is fresh later is fresh now, so it has not been removed
    cases hfresh : e.isFresh later with
    | false => rw [Bool.and_false]
    | true => rw [isFresh_of_later hle hfresh, Bool.true_or, Bool.and_true]

/-- The cache's own removal of stale entries makes no difference then and later. -/
theorem fresh?_sweep_later (hle : now ≤ later) :
    (c.sweep now).1.fresh? later id = c.fresh? later id := by
  -- a removal that is due is one of all stale entries
  have hevict : (c.sweep now).1.entries = c.entries ∨
      (c.sweep now).1.entries = (c.evict now fun _ => true).entries := by
    unfold sweep evict
    split
    · exact Or.inl rfl
    · refine Or.inr ?_
      simp only [Bool.not_true, Bool.or_false]
  rcases hevict with heq | heq
  · exact fresh?_congr heq
  · rw [fresh?_congr heq, fresh?_evict hle]

/-- An answer from the cache is that of a fresh entry, which counts as used from now on. -/
theorem answer?_eq_map (c : ChannelCache) (now : Timestamp) (id : ChannelId) :
    c.answer? now id = (c.fresh? now id).map fun e =>
      (e.verdict id, { c with entries := c.entries.insert id (e.usedAt now) }) := by
  unfold answer? fresh?
  cases hget : c.entries.get? id with
  | none => rfl
  | some e =>
    dsimp only
    rw [Option.filter_some]
    split
    · cases e with
      | found channel lastUse => rfl
      | missing until_ =>
        rw [Option.map_some, CacheEntry.usedAt, Table.insert_of_get? hget]
        rfl
    · rfl

/-- A look-up of a name that the cache knows and may still use. -/
theorem use_of_fresh {e : CacheEntry} (h : c.fresh? now id = some e)
    (reply : Except Error Channel) :
    c.use ⟨now, id, reply⟩ =
      (⟨e.verdict id, false⟩, { c with entries := c.entries.insert id (e.usedAt now) }) := by
  rw [use, answer?_eq_map, h, Option.map_some]

/-- A look-up of any other name. -/
theorem use_of_stale (h : c.fresh? now id = none) (reply : Except Error Channel) :
    c.use ⟨now, id, reply⟩ = (⟨reply, true⟩, (c.sweep now).1.remember now id reply) := by
  rw [use, answer?_eq_map, h, Option.map_none]

/-- What is entered for a name is known as long as it is fresh. -/
theorem fresh?_insert (entry : CacheEntry) :
    fresh? { c with entries := c.entries.insert id entry } later id =
      (some entry).filter (·.isFresh later) := by
  rw [fresh?, Table.get?_insert_self]

/-- Now and later, a cache knows of every name what is recalled. -/
def Recalls (c : ChannelCache) (now : Timestamp) (records : List CacheRecord) : Prop :=
  ∀ id later, now ≤ later →
    c.fresh? later id = (lastConsultation? (recordsOf id records)).bind (·.known? later)

namespace Recalls

variable {records : List CacheRecord}

/-- Nothing is recalled at first, and a new cache knows nothing. -/
theorem start (now : Timestamp) : (ChannelCache.start now).Recalls now [] := fun _ _ _ => rfl

/-- What a look-up brings after others can be told from what the cache knows. -/
theorem recollect_eq (h : c.Recalls now records) (id : ChannelId) (reply : Except Error Channel) :
    recollect records ⟨now, id, reply⟩ =
      match (c.fresh? now id).map (·.verdict id) with
      | some answer => ⟨answer, false⟩
      | none => ⟨reply, true⟩ := by
  rw [h id now (Timestamp.le_refl now), Option.map_bind, recollect]
  simp only [Consultation.answer?_eq, Function.comp_def]

theorem pass (h : c.Recalls now records) (hle : now ≤ later) : c.Recalls later records :=
  fun id moment hmoment => h id moment (Timestamp.le_trans hle hmoment)

/-- A cache recalls the same when stale entries are removed. -/
theorem evict (h : c.Recalls now records) (doomed : ChannelId → Bool) :
    (c.evict now doomed).Recalls now records := fun id moment hmoment =>
  (fresh?_evict hmoment doomed).trans (h id moment hmoment)

theorem sweep (h : c.Recalls now records) : (c.sweep now).1.Recalls now records :=
  fun id moment hmoment => (fresh?_sweep_later hmoment).trans (h id moment hmoment)

theorem congr {c' : ChannelCache} (h : c.Recalls now records) (heq : c'.entries = c.entries) :
    c'.Recalls now records := fun id moment hmoment =>
  (fresh?_congr heq).trans (h id moment hmoment)

/-- One name is looked up, and its entry is replaced by another one. -/
theorem insert (h : c.Recalls now records) {r : CacheRecord} {entry : CacheEntry}
    {s : Consultation} (hlast : lastConsultation? (r :: recordsOf r.use.id records) = some s)
    (hentry : ∀ moment, now ≤ moment → s.known? moment = (some entry).filter (·.isFresh moment)) :
    Recalls { c with entries := c.entries.insert r.use.id entry } now (r :: records) := by
  intro id moment hmoment
  by_cases hid : r.use.id = id
  · subst hid
    rw [fresh?_insert, recordsOf_cons_self, hlast]
    exact (hentry moment hmoment).symm
  · rw [fresh?_insert_of_ne hid, recordsOf_cons_of_ne hid]
    exact h id moment hmoment

/-- One name is looked up, and nothing is known about it before and afterwards. -/
theorem keep (h : c.Recalls now records) {r : CacheRecord}
    (hnow : c.fresh? now r.use.id = none) {s : Consultation}
    (hlast : lastConsultation? (r :: recordsOf r.use.id records) = some s)
    (hentry : ∀ moment, s.known? moment = none) : c.Recalls now (r :: records) := by
  intro id moment hmoment
  by_cases hid : r.use.id = id
  · subst hid
    rw [fresh?_eq_none_of_later hmoment hnow, recordsOf_cons_self, hlast]
    exact (hentry moment).symm
  · rw [recordsOf_cons_of_ne hid]
    exact h id moment hmoment

/-- A look-up is answered by what is recalled, and is recalled itself from then on. -/
theorem use (h : c.Recalls now records) (id : ChannelId) (reply : Except Error Channel) :
    (c.use ⟨now, id, reply⟩).1 = recollect records ⟨now, id, reply⟩ ∧
      (c.use ⟨now, id, reply⟩).2.Recalls now
        (⟨⟨now, id, reply⟩, (c.use ⟨now, id, reply⟩).1⟩ :: records) := by
  have hnow := h id now (Timestamp.le_refl now)
  rw [h.recollect_eq]
  cases hfresh : c.fresh? now id with
  | some e =>
    -- the source was asked the last time when it was asked before
    rw [hfresh] at hnow
    obtain ⟨s, hs, he⟩ := Option.bind_eq_some_iff.mp hnow.symm
    rw [use_of_fresh hfresh]
    have hlast :
        lastConsultation? (⟨⟨now, id, reply⟩, ⟨e.verdict id, false⟩⟩ :: recordsOf id records) =
          some { s with since := now :: s.since } := by
      rw [lastConsultation?, if_neg Bool.false_ne_true, hs, Option.map_some]
    exact ⟨rfl, h.insert hlast fun moment _ => s.known?_again he⟩
  | none =>
    rw [use_of_stale hfresh]
    refine ⟨rfl, ?_⟩
    -- removing stale entries does not make this name known
    have hstale : (c.sweep now).1.fresh? now id = none :=
      (fresh?_sweep_later (Timestamp.le_refl now)).trans hfresh
    unfold remember
    split
    next channel =>
      exact h.sweep.insert (r := ⟨⟨now, id, .ok channel⟩, _⟩) rfl fun moment _ =>
        Consultation.known?_found ..
    next detail =>
      exact h.sweep.insert (r := ⟨⟨now, id, .error (.invalidChannel detail)⟩, _⟩) rfl
        fun moment _ => Consultation.known?_missing ..
    next e hother =>
      exact h.sweep.keep (r := ⟨⟨now, id, .error e⟩, _⟩) hstale rfl fun moment =>
        Consultation.known?_other hother

end Recalls

namespace Serves

variable {records : List CacheRecord}

/-- A cache that has served look-ups knows what is recalled from them. -/
theorem recalls (h : c.Serves now records) : c.Recalls now records := by
  induction h with
  | start now => exact .start now
  | pass later hle h ih => exact ih.pass hle
  | use id reply h ih => exact (ih.use id reply).2
  | evict doomed h ih => exact ih.evict doomed
  | plan lastSweep h ih => exact ih.congr rfl

/-- Every look-up that a cache has served has brought what is recalled. -/
theorem asRecalled (h : c.Serves now records) : AsRecalled records := by
  -- only a look-up adds a record, and what it brings is recalled from the cache before it
  induction h with
  | start now =>
    intro newer r older heq
    exact absurd heq.symm (List.append_ne_nil_of_right_ne_nil _ (List.cons_ne_nil _ _))
  | pass later hle h ih => exact ih
  | use id reply h ih => exact ih.cons (h.recalls.use id reply).1
  | evict doomed h ih => exact ih
  | plan lastSweep h ih => exact ih

end Serves

end ChannelCache

/-- A directory with a cache looks channels up through it, and counts how often its source is
asked. -/
theorem Directory.find_eq_use {d : Directory} {c : ChannelCache} (hcache : d.cache = some c)
    (now : Timestamp) (id : ChannelId) :
    (d.find now id).answer = (c.use ⟨now, id, (d.ask id).1⟩).1.answer ∧
      (d.find now id).directory = { d with
        lookups := d.lookups + (c.use ⟨now, id, (d.ask id).1⟩).1.asked.toNat
        cache := some (c.use ⟨now, id, (d.ask id).1⟩).2 } := by
  unfold find ChannelCache.use
  rw [hcache]
  dsimp only
  cases c.answer? now id with
  | none => exact ⟨rfl, rfl⟩
  | some found => exact ⟨rfl, rfl⟩

/-- A cache brings what is recalled from the look-ups before, and the same look-ups bring the same
answers and ask the source just as often however stale entries are removed. A directory with that
cache does likewise. -/
theorem lookups_as_recalled {c : ChannelCache} {now : Timestamp} {records : List CacheRecord}
    (h : c.Serves now records) :
    AsRecalled records ∧
    (∀ c' now' records', ChannelCache.Serves c' now' records' →
      records'.map (·.use) = records.map (·.use) → records' = records) ∧
    ∀ (d : Directory) (id : ChannelId), d.cache = some c →
      let u : CacheUse := ⟨now, id, (d.ask id).1⟩
      (d.find now id).answer = (recollect records u).answer ∧
      (d.find now id).directory.lookups = d.lookups + (recollect records u).asked.toNat ∧
      ∃ c', (d.find now id).directory.cache = some c' ∧
        c'.Serves now (⟨u, recollect records u⟩ :: records) := by
  refine ⟨h.asRecalled, fun c' now' records' h' => h.asRecalled.eq_of_uses_eq h'.asRecalled,
    fun d id hcache => ?_⟩
  -- the directory answers as the cache does, and the cache by what is recalled
  obtain ⟨hanswer, hdirectory⟩ := d.find_eq_use hcache now id
  have hrecall := (h.recalls.use id (d.ask id).1).1
  have hserves := h.use id (d.ask id).1
  rw [hrecall] at hanswer hdirectory hserves
  exact ⟨hanswer, congrArg Directory.lookups hdirectory, _, congrArg Directory.cache hdirectory,
    hserves⟩

namespace Sample

/-- A channel that is forgotten when nobody asks for it for more than ten seconds. -/
def lounge : Channel := ⟨⟨"lounge", by decide +kernel⟩, .seconds 10, none⟩

/-- A name that no channel has. -/
def nowhere : ChannelId := ⟨"nowhere", by decide +kernel⟩

/-- The moment after that many seconds. -/
def after (n : Nat) : Timestamp := (Timestamp.clamp 0).plus (.seconds n)

/-- A channel and a name without channel are looked up, the last time first. The source fails after
the first time, and knows the channel no more at the last time. -/
def visitors : List CacheUse :=
  [⟨after 31, lounge.id, .error (.invalidChannel "lounge")⟩,
    ⟨after 20, nowhere, .ok lounge⟩,
    ⟨after 20, lounge.id, .error (.storage "down")⟩,
    ⟨after 10, lounge.id, .error (.storage "down")⟩,
    ⟨after 0, nowhere, .error (.invalidChannel "nowhere")⟩,
    ⟨after 0, lounge.id, .ok lounge⟩]

end Sample

/-- The channel is recalled at its expiry and forgotten later, and that a name has none is recalled
for less than a minute. -/
theorem lookups_as_recalled_lounge : ∃ c records,
    ChannelCache.Serves c (Sample.after 31) records ∧
    records.map (·.use) = Sample.visitors ∧
    records.map (·.outcome.asked) = [true, false, false, false, true, true] ∧
    AsRecalled records := by
  have hstart := ChannelCache.Serves.start (Sample.after 0)
  have hzero := (hstart.use Sample.lounge.id (.ok Sample.lounge)).use Sample.nowhere
    (.error (.invalidChannel "nowhere"))
  -- the source fails from now on, which does not show while the channel is recalled
  have hten := (hzero.pass (Sample.after 10) (by decide +kernel)).use Sample.lounge.id
    (.error (.storage "down"))
  have htwenty := ((hten.pass (Sample.after 20) (by decide +kernel)).use Sample.lounge.id
    (.error (.storage "down"))).use Sample.nowhere (.ok Sample.lounge)
  -- eleven seconds are more than the expiry
  have hlast := ((htwenty.pass (Sample.after 31) (by decide +kernel)).evict fun _ => true).use
    Sample.lounge.id (.error (.invalidChannel "lounge"))
  exact ⟨_, _, hlast, rfl, by decide +kernel, (lookups_as_recalled hlast).1⟩

end LongPoll
