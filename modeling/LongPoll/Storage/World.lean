import LongPoll.Channel.Directory
import LongPoll.Log.Filter
import LongPoll.Storage.Collect
import LongPoll.Storage.Options
import LongPoll.Storage.Poll
import LongPoll.Storage.Script
/-!
# The world of storages

Everything that operations of storages read and change: the two clocks, the directory of
channels, the contents of the backends, and the log. The wall clock is set from outside; the other
clock counts milliseconds and only moves when everything waits.
-/

namespace LongPoll

/-- A memory engine with its settings and the next pass over it. -/
structure MemoryBackend where
  /-- The settings. -/
  options : MemoryOptions
  /-- The contents. -/
  memory : Memory
  /-- When garbage is collected next, if the storage is not stopped. -/
  nextCollect : Option Nat

/-- The contents of a backend. -/
inductive BackendState where
  /-- A storage in memory. -/
  | memory (m : MemoryBackend)
  /-- A scripted storage. -/
  | scripted (s : ScriptedStorage)

/-- What operations of storages read and change. -/
structure World where
  /-- The wall clock. -/
  clock : Timestamp
  /-- The clock of waits, in milliseconds. -/
  time : Nat
  /-- Where channels are looked up. -/
  directory : Directory
  /-- The contents of the backends, by their places. -/
  backends : List BackendState
  /-- The ticket of the next poll. -/
  nextTicket : Ticket
  /-- The number of the next message that is given a name. -/
  nextMessage : Nat
  /-- Which events are recorded. -/
  filter : LogFilter
  /-- How often that was changed. -/
  filterEra : Nat
  /-- The recorded events, the last one first. -/
  events : List LogEvent

namespace World

/-- A world without backends. -/
def start (clock : Timestamp) (directory : Directory) (filter : LogFilter) : World :=
  ⟨clock, 0, directory, [], 0, 1, filter, 0, []⟩

/-- Change which events are recorded. -/
def replaceFilter (w : World) (f : LogFilter) : World :=
  { w with filter := f, filterEra := w.filterEra + 1 }

/-- Those of several operations that began under the filter in force. Only they can open it for what
happens inside them. -/
def underFilter (w : World) (spans : List LogSpan) : List LogSpan :=
  spans.filter (·.era == w.filterEra)

/-- Record a notice, if the filter lets it through. -/
def report (w : World) (spans : List LogSpan) (n : Notice) : World :=
  if w.filter.admitsNotice n (w.underFilter spans) then
    { w with events := ⟨n, spans⟩ :: w.events }
  else w

/-- Record several notices. -/
def reportAll (w : World) (spans : List LogSpan) (ns : List Notice) : World :=
  ns.foldl (fun w n => w.report spans n) w

/-- The operations around what happens inside one more of them, if that is recorded. -/
def enter (w : World) (spans : List LogSpan) (s : LogSpan) : List LogSpan :=
  if w.filter.admitsSpan s (w.underFilter spans) then spans ++ [{ s with era := w.filterEra }]
  else spans

/-- Look a channel up. -/
def findChannel (w : World) (spans : List LogSpan) (id : ChannelId) :
    World × Except Error Channel :=
  let l := w.directory.find w.clock id
  let w := { w with directory := l.directory }
  let w := match l.swept with
    | some evicted => w.report spans (.cacheSwept evicted)
    | none => w
  (w, l.answer)

/-- Look several channels up, and give the definitions that were found. -/
def findChannels (w : World) : List ChannelId → World × List (ChannelId × Channel)
  | [] => (w, [])
  | id :: ids =>
    let (w, answer) := w.findChannel [] id
    let (w, found) := findChannels w ids
    match answer with
    | .ok channel => (w, (id, channel) :: found)
    | .error _ => (w, found)

/-- What looking several channels up, one after the other, brings for each of them. -/
def answers (w : World) (ids : List ChannelId) (id : ChannelId) : Option Channel :=
  Table.lookUp? id (w.findChannels ids).2

/-- A name for a message that has none. -/
def nameMessage (w : World) : World × MessageId :=
  ({ w with nextMessage := w.nextMessage + 1 }, MessageId.numbered w.nextMessage)

/-- The contents of a backend. -/
def backend? (w : World) (slot : Nat) : Option BackendState := w.backends[slot]?

/-- The memory engine at a place. -/
def memory? (w : World) (slot : Nat) : Option MemoryBackend :=
  match w.backend? slot with
  | some (.memory m) => some m
  | _ => none

/-- Replace the contents of a backend. -/
def setBackend (w : World) (slot : Nat) (b : BackendState) : World :=
  { w with backends := w.backends.set slot b }

/-- Replace the contents of the memory engine at a place. -/
def setMemory (w : World) (slot : Nat) (m : Memory) : World :=
  match w.memory? slot with
  | some b => w.setBackend slot (.memory { b with memory := m })
  | none => w

/-! ## Waits -/

/-- A wait in whole milliseconds, rounded up. One that is longer than any clock can show ends after
thirty years. -/
def waitMillis (d : Duration) : Nat :=
  if d.outlastsClocks then 30 * 365 * 86400 * 1000
  else (d.nanos + (nanosPerMilli - 1)) / nanosPerMilli

/-! ## Collecting garbage -/

/-- Collect the garbage of the memory engine at a place within the time allowed. A channel is looked
up when the pass comes to it. -/
def collect (w : World) (slot : Nat) (timeout : Duration) (pace : Pace := .unhurried) :
    World × CollectResult :=
  match w.memory? slot with
  | none => (w, .failed (.internal "no engine"))
  | some b =>
    match Memory.collectRefusal? pace timeout with
    | some refusal => (w, refusal)
    | none =>
      let ids := pace.route b.memory
      -- what a channel is found to be does not depend on the lookups that come after it
      let pass := b.memory.collectWithin pace w.clock (w.answers ids)
      ((w.findChannels (ids.take pass.begun)).1.setMemory slot pass.memory, pass.result)

/-- The notice about a pass that the storage itself has started. -/
def collectNotice : CollectResult → Notice
  | .done stats => .collected stats.toText
  | .failed e => .collectFailed e.message
  | .overflow =>
    .collectAborted "task panicked with message \"overflow when adding duration to instant\""

/-- Collect the garbage of one backend if it is time to, and plan the next pass. -/
def collectIfDue (w : World) (slot : Nat) (pace : Pace := .unhurried) : World :=
  match w.memory? slot with
  | none => w
  | some b =>
    match b.nextCollect with
    | none => w
    | some due =>
      if due ≤ w.time then
        let (w, result) := w.collect slot b.options.collectTimeout pace
        let w := w.report [] (collectNotice result)
        match w.memory? slot with
        | some b =>
          let next := w.time + Nat.max 1 (waitMillis b.options.collectInterval)
          w.setBackend slot (.memory { b with nextCollect := some next })
        | none => w
      else w

/-- Collect the garbage of every backend for which it is time. -/
def collectDue (w : World) : World :=
  (List.range w.backends.length).foldl (fun w slot => w.collectIfDue slot) w

/-- When the next pass over any backend is due. -/
def nextCollect? (w : World) : Option Nat :=
  (w.backends.filterMap fun
    | .memory b => b.nextCollect
    | .scripted _ => none).min?

end World

end LongPoll
