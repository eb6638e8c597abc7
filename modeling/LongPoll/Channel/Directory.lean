import LongPoll.Channel.Cache
import LongPoll.Channel.Catalogue
/-!
# Channel directories

Where storages and brokers look channels up: a source, with or without a cache before it. A
source on the test bench can be exchanged while it is in use, counts its look-ups, and breaks
down on purpose for some names.
-/

namespace LongPoll

/-- A source of channels. -/
inductive ChannelSource where
  /-- Every name has a channel with the same expiry, unless it starts with `invalid-`. -/
  | uniform (expire : Duration)
  /-- The channels of a catalogue. -/
  | catalogue (c : Catalogue)

namespace ChannelSource

/-- The channel of that name. -/
def find (s : ChannelSource) (id : ChannelId) : Except Error Channel :=
  match s with
  | uniform expire =>
    if id.text.startsWith "invalid-" then .error (.invalidChannel id.text)
    else .ok ⟨id, expire, none⟩
  | catalogue c => c.find id

/-- The greatest leeway that any channel grants. -/
def maxLeeway : ChannelSource → Duration
  | uniform _ => Duration.zero
  | catalogue c => c.maxLeeway

end ChannelSource

/-- A directory of channels. -/
structure Directory where
  /-- Where channels come from. -/
  source : ChannelSource
  /-- The source stands on the test bench: names that start with `broken-` cannot be looked up,
  and it holds three descriptors. -/
  onBench : Bool
  /-- How often the source was asked. -/
  lookups : Nat
  /-- The cache before the source, if there is one. -/
  cache : Option ChannelCache

/-- The result of a look-up. -/
structure Lookup where
  /-- The channel, or why there is none. -/
  answer : Except Error Channel
  /-- The directory afterwards. -/
  directory : Directory
  /-- How many stale entries were removed from the cache, if that was done. -/
  swept : Option Nat

namespace Directory

/-- Ask the source. -/
def ask (d : Directory) (id : ChannelId) : Except Error Channel × Directory :=
  let answer :=
    if d.onBench && id.text.startsWith "broken-" then .error (.storage "lookup failed")
    else d.source.find id
  (answer, { d with lookups := d.lookups + 1 })

/-- Look a channel up. -/
def find (d : Directory) (now : Timestamp) (id : ChannelId) : Lookup :=
  match d.cache with
  | none =>
    let (answer, d) := d.ask id
    ⟨answer, d, none⟩
  | some cache =>
    match cache.answer? now id with
    | some (answer, cache) => ⟨answer, { d with cache := some cache }, none⟩
    | none =>
      let (cache, swept) := cache.sweep now
      let (answer, d) := d.ask id
      ⟨answer, { d with cache := some (cache.remember now id answer) }, swept⟩

/-- The number of descriptors that the source may hold. -/
def descriptors (d : Directory) : Nat := if d.onBench then 3 else 0

/-- The greatest leeway that any channel grants. -/
def maxLeeway (d : Directory) : Duration := d.source.maxLeeway

/-- The number of names the cache knows something about. -/
def cached (d : Directory) : Nat :=
  match d.cache with
  | some c => c.entries.size
  | none => 0

end Directory

end LongPoll
