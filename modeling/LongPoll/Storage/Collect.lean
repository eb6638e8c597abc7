import LongPoll.Storage.Memory
import LongPoll.Error
/-!
# Collecting garbage

A pass over a memory engine that removes what nobody can need any more: subscribers that no poll
has looked after for as long as their channel keeps things, messages that expired as long ago as
that, channels that are left with neither, and revocations of tokens that have expired.

The time for a pass is limited. A pass looks at a clock again and again while it goes through the
engine, and when the time is over it leaves the rest as it is (`Memory.collectWithin`). How often
the clock is found to show that there is time left, and in which order the pass goes through tables,
is part of what it is given (`Pace`). A pass that is not cut short is a complete one
(`Memory.collect`).
-/

namespace LongPoll

/-- How many things of each kind a pass has removed. -/
structure CollectStats where
  /-- Idle subscribers. -/
  subscribers : Nat
  /-- Messages in the queues of other subscribers. -/
  queued : Nat
  /-- Messages in the logs of channels. -/
  logged : Nat
  /-- Channels without subscribers and messages. -/
  channels : Nat
  /-- Revocations. -/
  revocations : Nat
  deriving DecidableEq, Repr

namespace CollectStats

/-- Nothing removed. -/
def zero : CollectStats := ⟨0, 0, 0, 0, 0⟩

/-- What two parts of a pass have removed together. -/
def add (a b : CollectStats) : CollectStats :=
  ⟨a.subscribers + b.subscribers, a.queued + b.queued, a.logged + b.logged,
    a.channels + b.channels, a.revocations + b.revocations⟩

/-- The counts as they are logged. -/
def toText (s : CollectStats) : String :=
  "GcStats \x7b subscribers: " ++ toString s.subscribers ++
    ", queued_messages: " ++ toString s.queued ++
    ", log_entries: " ++ toString s.logged ++
    ", channels: " ++ toString s.channels ++
    ", revoked_jwts: " ++ toString s.revocations ++ " \x7d"

end CollectStats

/-- How a pass ends. -/
inductive CollectResult where
  /-- The pass is complete. -/
  | done (stats : CollectStats)
  /-- The pass gave up. -/
  | failed (e : Error)
  /-- The end of the time allowed lies beyond what a clock can show. -/
  | overflow

/-- A pass gave up because the time was over. -/
def CollectResult.late : CollectResult := .failed (.cancelled "GC pass exceeded its deadline")

/-- Whether a channel has neither a subscriber nor a message. -/
def ChannelState.isVacant (c : ChannelState) : Bool :=
  c.subscribers.isEmpty && c.log.isEmpty

/-! ## Complete passes -/

namespace Memory

/-- Whether nobody has looked after a subscriber since the given moment, and no poll is blocked on
its bell. -/
def isIdle (m : Memory) (since : Timestamp) (s : Subscription) : Bool :=
  decide (s.lastActivity < since) && (m.bell s.bell).blocked == 0

/-- Remove the garbage of one channel, which keeps things for as long as its newest definition
says. -/
def collectChannel (m : Memory) (now : Timestamp) (newest : Option Channel) (c : ChannelState) :
    ChannelState × CollectStats :=
  let channel := newest.getD c.channel
  -- what expires at this moment or later stays, and so do those who have looked since
  let since := now.minus channel.expire
  let kept := c.subscribers.filter fun _ s => !m.isIdle since s
  let trimmed := kept.map fun s =>
    { s with queue := s.queue.filter fun p => decide (since ≤ p.expireAt) }
  let log := c.log.filter fun p => decide (since ≤ p.expireAt)
  let gone := c.log.filter fun p => decide (p.expireAt < since)
  -- a name goes with the logged message that it stands for
  let index := gone.foldl (fun index p => index.erase p.message.id) c.index
  let queued (t : Table SubscriberId Subscription) : Nat := t.total (·.queue.length)
  (⟨channel, log, index, trimmed⟩,
    ⟨c.subscribers.size - kept.size, queued kept - queued trimmed, c.log.length - log.length,
      0, 0⟩)

/-- A complete pass. Each channel goes by the newest definition of it, or by the last known one if
there is none. -/
def collect (m : Memory) (now : Timestamp) (newest : ChannelId → Option Channel) :
    Memory × CollectStats :=
  let parts := m.channels.mapEntries fun id c => m.collectChannel now (newest id) c
  let kept := (parts.map Prod.fst).filter fun _ c => !c.isVacant
  let stats := (parts.values.map Prod.snd).foldr CollectStats.add .zero
  -- a token that has expired needs no revocation any more
  let revoked := m.revoked.filter fun _ exp => decide (now ≤ exp)
  ({ m with channels := kept, revoked := revoked },
    { stats with
      channels := parts.size - kept.size
      revocations := m.revoked.size - revoked.size })

end Memory

/-! ## The pace of a pass -/

/-- How many of the looks at a clock find that there is time left. Time only passes, so these are
the first ones. -/
inductive Looks where
  /-- All of them. -/
  | all
  /-- The first so many. -/
  | first (n : Nat)
  deriving DecidableEq

namespace Looks

/-- What remains after `n` more looks, if all of them find time left. -/
def spend? (n : Nat) : Looks → Option Looks
  | all => some all
  | first k => if n ≤ k then some (first (k - n)) else none

/-- The things of a list that are come to in time, if there is a look before each of them. -/
def reach {α : Type} (left : Looks) (l : List α) : List α :=
  match left with
  | all => l
  | first k => l.take k

/-- The things of a list that are come to too late. -/
def rest {α : Type} (left : Looks) (l : List α) : List α :=
  match left with
  | all => []
  | first k => l.drop k

/-- What is come to in time comes before the rest. -/
theorem reach_append_rest {α : Type} (left : Looks) (l : List α) :
    left.reach l ++ left.rest l = l := by
  cases left with
  | all => exact List.append_nil l
  | first k => exact List.take_append_drop k l

/-- If as many looks find time left as there are things, nothing comes too late. -/
theorem rest_of_spend? {α : Type} {left left' : Looks} {n : Nat} {l : List α}
    (h : left.spend? n = some left') (hn : l.length ≤ n) : left.rest l = [] := by
  cases left with
  | all => rfl
  | first k =>
    have hk : n ≤ k := by
      by_cases hk : n ≤ k
      · exact hk
      · simp [spend?, hk] at h
    exact List.drop_of_length_le (Nat.le_trans hn hk)

/-- If as many looks find time left as there are things, all of them are come to. -/
theorem reach_of_spend? {α : Type} {left left' : Looks} {n : Nat} {l : List α}
    (h : left.spend? n = some left') (hn : l.length ≤ n) : left.reach l = l := by
  have hall := left.reach_append_rest l
  rwa [rest_of_spend? h hn, List.append_nil] at hall

end Looks

/-- A way to put the things of a list into order. -/
structure Arrangement (α : Type) where
  /-- The things in order. -/
  arrange : List α → List α
  /-- They are the same things. -/
  perm : ∀ l, (arrange l).Perm l

/-- The order in which the things stand already. -/
def Arrangement.given {α : Type} : Arrangement α := ⟨id, .refl⟩

/-- How a pass gets along. -/
structure Pace where
  /-- What the clock by which the time allowed is measured shows at the beginning, in
  nanoseconds. -/
  reading : Nat
  /-- Whether the engine can be had before the time is over, which others may hold. -/
  admitted : Bool
  /-- How many of the looks at the clock find time left. -/
  looks : Looks
  /-- In which order the pass goes through the channels. -/
  channels : Arrangement (ChannelId × ChannelState)
  /-- In which order it goes through the subscribers of a channel. -/
  subscribers : ChannelId → Arrangement (SubscriberId × Subscription)

/-- A pass that nothing hinders. The clock has counted a second. -/
def Pace.unhurried : Pace := ⟨nanosPerSecond, true, .all, .given, fun _ => .given⟩

/-- The channels of an engine in the order in which a pass goes through them. -/
def Pace.route (pace : Pace) (m : Memory) : List ChannelId :=
  (pace.channels.arrange m.channels.entries).map Prod.fst

/-! ## Passes within a time -/

/-- Drop what has expired from the part of the log that is come to in time. -/
def ChannelState.pruneWithin (c : ChannelState) (since : Timestamp) (left : Looks) :
    ChannelState :=
  let reached := left.reach c.log
  let gone := reached.filter fun p => decide (p.expireAt < since)
  { c with
    log := (reached.filter fun p => decide (since ≤ p.expireAt)) ++ left.rest c.log
    index := gone.foldl (fun index p => index.erase p.message.id) c.index }

namespace Memory

/-- Of the subscribers drop those that are come to in time and idle. -/
def evictWithin (m : Memory) (order : Arrangement (SubscriberId × Subscription))
    (since : Timestamp) (left : Looks) (subscribers : Table SubscriberId Subscription) :
    Table SubscriberId Subscription :=
  let reached := (left.reach (order.arrange subscribers.entries)).map Prod.fst
  subscribers.filter fun id s => !(m.isIdle since s && decide (id ∈ reached))

/-- Drop what has expired from the queues of the subscribers that are come to in time. -/
def trimWithin (order : Arrangement (SubscriberId × Subscription)) (since : Timestamp)
    (left : Looks) (subscribers : Table SubscriberId Subscription) :
    Table SubscriberId Subscription :=
  let reached := (left.reach (order.arrange subscribers.entries)).map Prod.fst
  subscribers.mapEntries fun id s =>
    if id ∈ reached then
      { s with queue := s.queue.filter fun p => decide (since ≤ p.expireAt) }
    else s

/-- Remove the garbage of one channel for as long as there is time. If there is time left at the end
of it, give what was removed and the looks that remain. -/
def collectChannelWithin (m : Memory) (order : Arrangement (SubscriberId × Subscription))
    (now : Timestamp) (newest : Option Channel) (c : ChannelState) (left : Looks) :
    ChannelState × Option (CollectStats × Looks) :=
  let c := { c with channel := newest.getD c.channel }
  let since := now.minus c.channel.expire
  let queued (t : Table SubscriberId Subscription) : Nat := t.total (·.queue.length)
  let kept := m.evictWithin order since left c.subscribers
  -- to go through all of them cannot be broken off, so whether it was in time shows afterwards
  match left.spend? (c.subscribers.size + 1) with
  | none => ({ c with subscribers := kept }, none)
  | some left =>
    let trimmed := trimWithin order since left kept
    match left.spend? kept.size with
    | none => ({ c with subscribers := trimmed }, none)
    | some left =>
      let pruned := { c with subscribers := trimmed }.pruneWithin since left
      let stats := ⟨c.subscribers.size - kept.size, queued kept - queued trimmed,
        c.log.length - pruned.log.length, 0, 0⟩
      (pruned, (left.spend? (c.log.length + 1)).map fun left => (stats, left))

/-- Remove the garbage of several channels, one after the other, for as long as there is time. Gives
those channels that were come to, and, if there is time left at the end, what was removed and the
looks that remain. -/
def collectEach (m : Memory) (pace : Pace) (now : Timestamp)
    (newest : ChannelId → Option Channel) :
    List (ChannelId × ChannelState) → Looks →
      List (ChannelId × ChannelState) × Option (CollectStats × Looks)
  | [], left => ([], some (.zero, left))
  | (id, c) :: rest, left =>
    match left.spend? 1 with
    | none => ([], none)
    | some left =>
      match m.collectChannelWithin (pace.subscribers id) now (newest id) c left with
      | (c, none) => ([(id, c)], none)
      | (c, some (stats, left)) =>
        let (parts, progress) := collectEach m pace now newest rest left
        ((id, c) :: parts, progress.map fun (stats', left) => (stats.add stats', left))

/-- What a pass comes to. -/
structure Pass where
  /-- The engine afterwards. -/
  memory : Memory
  /-- How the pass ends. -/
  result : CollectResult
  /-- How many channels it has come to. -/
  begun : Nat

/-- A pass for which there is some time. When the time is over, everything that it has not come to
stays as it is. -/
def collectWithin (m : Memory) (pace : Pace) (now : Timestamp)
    (newest : ChannelId → Option Channel) : Pass :=
  let (parts, progress) :=
    m.collectEach pace now newest (pace.channels.arrange m.channels.entries) pace.looks
  -- the parts are put back under their names, and the rest of the channels stay
  let channels := m.channels.mapEntries fun id c => (Table.lookUp? id parts).getD c
  match progress with
  | none => ⟨{ m with channels := channels }, .late, parts.length⟩
  | some (stats, left) =>
    let kept := channels.filter fun _ c => !c.isVacant
    match left.spend? 1 with
    | none => ⟨{ m with channels := kept }, .late, parts.length⟩
    | some _ =>
      let revoked := m.revoked.filter fun _ exp => decide (now ≤ exp)
      ⟨{ m with channels := kept, revoked := revoked }, .done { stats with
        channels := channels.size - kept.size
        revocations := m.revoked.size - revoked.size }, parts.length⟩

/-- Why a pass does not even begin, if it does not: the clock cannot show the end of the time
allowed, others hold the engine for all of that time, or there is no time at all, which is over at
the first look. -/
def collectRefusal? (pace : Pace) (timeout : Duration) : Option CollectResult :=
  if timeout.endsBeyond pace.reading then some .overflow
  else if !pace.admitted then
    some (.failed (.cancelled "GC could not acquire the storage lock in time"))
  else if timeout.isZero then some .late
  else none

end Memory

end LongPoll
