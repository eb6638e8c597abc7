import LongPoll.Channel
import LongPoll.Table
import LongPoll.Time.Timestamp
/-!
# Cached look-ups

A cache of resolved channels. A channel stays cached as long as the pauses between its uses are
not longer than its expiry; a name that no channel has stays cached for a minute; other failures
are not kept. Stale entries are removed when a look-up misses, at most once a second.
-/

namespace LongPoll

/-- What the cache knows about a name. -/
inductive CacheEntry where
  /-- The channel, and when it was last used. -/
  | found (channel : Channel) (lastUse : Timestamp)
  /-- There is no such channel; this holds until the given moment. -/
  | missing (until_ : Timestamp)
  deriving DecidableEq

/-- Whether the entry may still be used. -/
def CacheEntry.isFresh (now : Timestamp) : CacheEntry → Bool
  | found channel lastUse => decide (now.nanos - lastUse.nanos ≤ channel.expire.nanos)
  | missing until_ => decide (now < until_)

/-- A cache of look-ups. -/
structure ChannelCache where
  /-- What is known about each name. -/
  entries : Table ChannelId CacheEntry
  /-- When stale entries were last removed. -/
  lastSweep : Timestamp

namespace ChannelCache

/-- How long a name without channel stays cached. -/
def missingFor : Duration := Duration.seconds 60

/-- The least time between two removals of stale entries. -/
def sweepInterval : Duration := Duration.seconds 1

/-- A cache that knows nothing. -/
def start (now : Timestamp) : ChannelCache := ⟨∅, now⟩

/-- The answer that the cache has for a name, and the cache after this use. -/
def answer? (c : ChannelCache) (now : Timestamp) (id : ChannelId) :
    Option (Except Error Channel × ChannelCache) :=
  match c.entries.get? id with
  | none => none
  | some entry =>
    if entry.isFresh now then
      match entry with
      | .found channel _ =>
        some (.ok channel, { c with entries := c.entries.insert id (.found channel now) })
      | .missing _ => some (.error (.invalidChannel id.text), c)
    else none

/-- Remove stale entries, unless that was done less than a second ago or in the future. The number
of removed entries is given if it was done. -/
def sweep (c : ChannelCache) (now : Timestamp) : ChannelCache × Option Nat :=
  if now.nanos - c.lastSweep.nanos < sweepInterval.nanos then (c, none)
  else
    let kept := c.entries.filter fun _ e => e.isFresh now
    (⟨kept, now⟩, some (c.entries.size - kept.size))

/-- Keep the answer to a look-up, if it is one to keep. -/
def remember (c : ChannelCache) (now : Timestamp) (id : ChannelId) :
    Except Error Channel → ChannelCache
  | .ok channel => { c with entries := c.entries.insert id (.found channel now) }
  | .error (.invalidChannel _) =>
    { c with entries := c.entries.insert id (.missing (now.plus missingFor)) }
  | .error _ => c

end ChannelCache

end LongPoll
