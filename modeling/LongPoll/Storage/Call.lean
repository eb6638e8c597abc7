import LongPoll.Storage.Tree
import LongPoll.Storage.World
/-!
# Calls

An operation of a storage in progress. A call is a value: it has ended with an answer, waits for
one, or consists of the calls that it has made in turn. It moves only when it is started or
resumed, and then runs on until everything in it waits. A call that waits can be dropped.

A poll of a multiplexer asks all storages without waiting; if none has a message, it lets them
wait against each other until the first one has, drops the others, and asks these once more
without waiting.
-/

namespace LongPoll

/-- The part of a merged poll that is in progress. -/
inductive MergePhase where
  /-- All storages are asked without waiting. -/
  | sweeping
  /-- The storages that did not fail wait for a message. -/
  | racing
  /-- The storages that did not win are asked again without waiting. -/
  | closing
  deriving DecidableEq, Repr

/-- A poll of several storages and what it has found so far. -/
structure PollMerge where
  /-- Whose messages to hand out. -/
  locator : Locator
  /-- The greatest number of messages from each storage. -/
  max : Nat
  /-- How long to wait. -/
  wait : Duration
  /-- The storages that take part, in the order of their names. -/
  members : List (StorageId × Storage)
  /-- The members that did not fail when they were first asked. -/
  healthy : List (StorageId × Storage)
  /-- The messages that members have handed out. -/
  batches : Table StorageId (List Message)
  /-- The failures of members, in the order in which they came. -/
  failures : List (StorageId × Error)

/-- An operation of a storage in progress. -/
inductive Call where
  /-- It has ended. -/
  | settled (answer : StorageAnswer)
  /-- It ends with the answer at the given time. -/
  | sleeping (wake : Nat) (answer : StorageAnswer)
  /-- It is a poll of a memory engine that waits. -/
  | polling (slot : Nat) (poll : WaitingPoll)
  /-- It has been passed on to several storages and ends when all of them have answered. -/
  | gathering (request : StorageRequest) (parts : List (StorageId × Call))
  /-- It is a poll of several storages. -/
  | merging (phase : MergePhase) (merge : PollMerge) (parts : List (StorageId × Call))
  /-- It is logged when it ends; the operations are those around what happens inside it. -/
  | observed (spans : List LogSpan) (inner : Call)

/-- How a storage starts an operation in the course of others. -/
abbrev Starter := List LogSpan → StorageRequest → World → World × Call

/-- A named storage with the way to start its operations. -/
structure Member where
  /-- The name. -/
  id : StorageId
  /-- The storage. -/
  storage : Storage
  /-- How it starts an operation. -/
  start : Starter

namespace Call

/-- The answer, if the call has ended. -/
def answer? : Call → Option StorageAnswer
  | settled a => some a
  | _ => none

/-- The answers of several calls, if all of them have ended. -/
def answers? : List (StorageId × Call) → Option (List (StorageId × StorageAnswer))
  | [] => some []
  | (id, c) :: rest =>
    match c.answer?, answers? rest with
    | some a, some as => some ((id, a) :: as)
    | _, _ => none

end Call

/-! ## Combining answers -/

/-- The failures among answers. -/
def failuresOf (answers : List (StorageId × StorageAnswer)) : List (StorageId × Error) :=
  answers.filterMap fun (id, a) =>
    match a with
    | .error e => some (id, e)
    | .ok _ => none

/-- Whether an answer says that a token is revoked. -/
def saysRevoked : StorageAnswer → Bool
  | .ok (.revoked b) => b
  | _ => false

/-- The reports among answers, under the names of the storages. -/
def detailsOf (answers : List (StorageId × StorageAnswer)) : List (String × Json) :=
  answers.filterMap fun (id, a) =>
    match a with
    | .ok (.detail j) => some (id.text, j)
    | _ => none

/-- The answer of several storages to one operation. A token is revoked if one of them says so, and
otherwise any failure is a failure of the whole. -/
def combineAnswers (r : StorageRequest) (answers : List (StorageId × StorageAnswer)) :
    StorageAnswer :=
  let reply : StorageReply := match r with
    | .isRevoked _ => .revoked false
    | .liveness | .readiness => .detail (.object (detailsOf answers))
    | _ => .done
  -- one storage that knows the revocation is enough, even if others have failed
  if answers.any fun (_, a) => saysRevoked a then .ok (.revoked true)
  else
    match Error.join (failuresOf answers) with
    | .error e => .error e
    | .ok () => .ok reply

namespace PollMerge

/-- The messages without those whose name has come before, in the list or among `seen`. -/
def distinct : (seen : List MessageId) → List Message → List Message
  | _, [] => []
  | seen, m :: ms =>
    if seen.contains m.id then distinct seen ms else m :: distinct (m.id :: seen) ms

/-- The messages found, by the order of the members and without repetitions. -/
def merged (p : PollMerge) : List Message :=
  distinct [] (p.members.flatMap fun (id, _) => (p.batches.get? id).getD [])

/-- Take in how a poll of one member has ended. -/
def take (p : PollMerge) (id : StorageId) : StorageAnswer → PollMerge
  | .ok (.messages ms) => if ms.isEmpty then p else { p with batches := p.batches.insert id ms }
  | .ok _ => p
  | .error e => { p with failures := p.failures ++ [(id, e)] }

/-- Take in how polls of several members have ended. -/
def takeAll (p : PollMerge) (answers : List (StorageId × StorageAnswer)) : PollMerge :=
  answers.foldl (fun p (id, a) => p.take id a) p

/-- Take in how the members have answered when they were first asked. -/
def takeSweep (p : PollMerge) (answers : List (StorageId × StorageAnswer)) : PollMerge :=
  let p := p.takeAll answers
  { p with healthy := p.members.filter fun (id, _) => !p.failures.any fun (id', _) => id' = id }

/-- Whether the members have to wait for a message. -/
def mustRace (p : PollMerge) : Bool :=
  p.batches.isEmpty && !p.healthy.isEmpty && !p.wait.isZero

/-- The answer of the whole poll. -/
def answer (p : PollMerge) : StorageAnswer :=
  if p.batches.isEmpty then
    match Error.join p.failures with
    | .error e => .error e
    | .ok () => .ok (.messages [])
  else .ok (.messages p.merged)

/-- What there is to report when the whole poll ends. -/
def notices (p : PollMerge) : List Notice :=
  if p.batches.isEmpty then []
  else
    p.failures.map (fun (id, e) => .pollFailed id p.locator e.message) ++
      [.merged p.locator p.merged.length]

/-- End the whole poll. -/
def finish (p : PollMerge) (spans : List LogSpan) (w : World) : World × Call :=
  (w.reportAll spans p.notices, .settled p.answer)

end PollMerge

/-! ## Dropping -/

mutual

/-- Drop a call. A poll that waits gives up its place. -/
def Call.drop : Call → World → World
  | .settled _, w => w
  | .sleeping .., w => w
  | .polling slot poll, w =>
    match w.memory? slot with
    | some b => w.setMemory slot (b.memory.dropPoll poll)
    | none => w
  | .gathering _ parts, w => Call.dropAll parts w
  | .merging _ _ parts, w => Call.dropAll parts w
  | .observed _ inner, w => inner.drop w

/-- Drop several calls. -/
def Call.dropAll : List (StorageId × Call) → World → World
  | [], w => w
  | (_, c) :: rest, w => Call.dropAll rest (c.drop w)

end

/-! ## Starting -/

/-- Start an operation at each of several storages. -/
def startAll (members : List Member) (spans : List LogSpan) (r : StorageRequest) (w : World) :
    World × List (StorageId × Call) :=
  match members with
  | [] => (w, [])
  | m :: rest =>
    let (w, c) := m.start spans r w
    let (w, cs) := startAll rest spans r w
    (w, (m.id, c) :: cs)

/-- Wait for the parts of an operation, or end it if all have ended. -/
def gather (r : StorageRequest) (parts : List (StorageId × Call)) : Call :=
  match Call.answers? parts with
  | some answers => .settled (combineAnswers r answers)
  | none => .gathering r parts

/-- A race between members: those that still wait, and the one that has won. -/
structure Race where
  /-- What is found so far. -/
  merge : PollMerge
  /-- The members that wait. -/
  pending : List (StorageId × Call)
  /-- The member that was the first to have a message. -/
  winner : Option StorageId

namespace Race

/-- Take in how a member stands. -/
def take (r : Race) (id : StorageId) (c : Call) : Race :=
  match c.answer? with
  | none => { r with pending := r.pending ++ [(id, c)] }
  | some a =>
    let merge := r.merge.take id a
    -- a member that ends without messages, or fails, does not end the race
    let winner := if merge.batches.isEmpty then none else some id
    { r with merge := merge, winner := winner }

/-- Start the polls of members one after the other, until one of them has a message. -/
def enter (spans : List LogSpan) : (members : List Member) → Race → World → World × Race
  | [], r, w => (w, r)
  | m :: rest, r, w =>
    let (w, c) := m.start spans (.poll r.merge.locator r.merge.max r.merge.wait) w
    let r := r.take m.id c
    -- once the race is won, the members that have not started are left out of it
    if r.winner.isSome then (w, r) else enter spans rest r w

end Race

/-- The members with the given names. -/
def membersNamed (members : List Member) (named : List (StorageId × Storage)) : List Member :=
  members.filter fun m => named.any fun (id, _) => id = m.id

namespace PollMerge

/-- The request to a member that is asked without waiting. -/
def quickPoll (p : PollMerge) : StorageRequest := .poll p.locator p.max Duration.zero

/-- Go on with the second round of asking without waiting. -/
def afterClosing (p : PollMerge) (spans : List LogSpan) (parts : List (StorageId × Call))
    (w : World) : World × Call :=
  match Call.answers? parts with
  | none => (w, .merging .closing p parts)
  | some answers => (p.takeAll answers).finish spans w

/-- Go on with a race. When it is won, the other members are dropped and asked again. -/
def afterRace (members : List Member) (spans : List LogSpan) (r : Race) (w : World) :
    World × Call :=
  match r.winner with
  | some winner =>
    let w := Call.dropAll r.pending w
    -- the others may have got messages in the meantime
    let others := (membersNamed members r.merge.healthy).filter (·.id ≠ winner)
    let (w, parts) := startAll others spans r.merge.quickPoll w
    r.merge.afterClosing spans parts w
  | none =>
    if r.pending.isEmpty then r.merge.finish spans w
    else (w, .merging .racing r.merge r.pending)

/-- Go on with the first round of asking without waiting. -/
def afterSweep (p : PollMerge) (members : List Member) (spans : List LogSpan)
    (parts : List (StorageId × Call)) (w : World) : World × Call :=
  match Call.answers? parts with
  | none => (w, .merging .sweeping p parts)
  | some answers =>
    let p := p.takeSweep answers
    -- nobody had a message, so the poll waits for the first member that gets one
    if p.mustRace then
      let (w, r) := Race.enter spans (membersNamed members p.healthy) ⟨p, [], none⟩ w
      afterRace members spans r w
    else p.finish spans w

end PollMerge

/-- Wait for a logged operation, or log that it has ended. -/
def observe (spans : List LogSpan) (c : Call) (w : World) : World × Call :=
  match c.answer? with
  | none => (w, .observed spans c)
  | some (.ok reply) => (w.report spans .completed, .settled (.ok reply))
  | some (.error e) => (w.report spans (.failed e.message), .settled (.error e))

/-- Take in how a poll of a memory engine stands. -/
def polled (spans : List LogSpan) (slot : Nat) (s : PollStep) (w : World) : World × Call :=
  let w := (w.setMemory slot s.memory).reportAll spans s.notices
  match s.progress with
  | .answered ms => (w, .settled (.ok (.messages ms)))
  | .waiting p => (w, .polling slot p)

/-- The report about a memory engine. -/
def Memory.report (m : Memory) : Json :=
  .object
    [("channels", .count m.channels.size), ("subscribers", .count m.subscriberCount),
      ("revokedJwts", .count m.revoked.size)]

/-- Start an operation at a memory engine. -/
def startMemory (slot : Nat) (b : MemoryBackend) : Starter := fun spans r w =>
  match r with
  | .publish message =>
    match w.findChannel spans message.channel with
    | (w, .error e) => (w, .settled (.error e))
    | (w, .ok channel) =>
      let (m, notice) := b.memory.publish w.clock channel message
      ((w.setMemory slot m).report spans notice, .settled (.ok .done))
  | .poll locator max wait =>
    match w.findChannel spans locator.channel with
    | (w, .error e) => (w, .settled (.error e))
    | (w, .ok channel) =>
      -- a poll waits for a day at most and takes one message at least, whatever it asks for
      let deadline := w.time + World.waitMillis (wait.min Memory.maxPollWait)
      let order : PollOrder := ⟨channel, locator, Nat.max 1 max, deadline, w.nextTicket⟩
      let w := { w with nextTicket := w.nextTicket + 1 }
      polled spans slot (b.memory.startPoll w.clock w.time order) w
  | .revoke exp jti =>
    ((w.setMemory slot (b.memory.revoke exp jti)).report spans (.revocationStored jti exp),
      .settled (.ok .done))
  | .isRevoked jti => (w, .settled (.ok (.revoked (b.memory.isRevoked jti))))
  | .liveness | .readiness => (w, .settled (.ok (.detail b.memory.report)))
  | .shutdown =>
    ((w.setBackend slot (.memory { b with nextCollect := none })).report spans .memoryStopped,
      .settled (.ok .done))

/-- Start an operation at a scripted storage. -/
def startScripted (slot : Nat) (s : ScriptedStorage) : Starter := fun _ r w =>
  let line := s.lineFor r World.waitMillis
  let w := w.setBackend slot (.scripted (s.record r))
  match line.delay with
  | some delay =>
    if delay = 0 then (w, .settled line.answer) else (w, .sleeping (w.time + delay) line.answer)
  | none => (w, .settled line.answer)

/-- Start an operation at a backend. -/
def Backend.start (b : Backend) : Starter := fun spans r w =>
  match w.backend? b.slot with
  | some (.memory m) => startMemory b.slot m spans r w
  | some (.scripted s) => startScripted b.slot s spans r w
  | none => (w, .settled (.error (.internal "no backend")))

/-- Start an operation at several storages that act as one. Only those with the capability that it
needs take part. -/
def startMultiplexer (members : List Member) : Starter := fun spans r w =>
  let capable : List Member := match r.needs? with
    | some c => members.filter fun m => m.storage.has c
    | none => members
  match r.needs?, capable with
  -- none of the storages is able to do it
  | some c, [] => (w, .settled (.error (Storage.lacks c)))
  | _, _ =>
    match r with
    | .poll locator max wait =>
      let named := capable.map fun m => (m.id, m.storage)
      let p : PollMerge := ⟨locator, max, wait, named, named, ∅, []⟩
      let (w, parts) := startAll capable spans p.quickPoll w
      p.afterSweep capable spans parts w
    | _ =>
      let (w, parts) := startAll capable spans r w
      (w, gather r parts)

/-- Start a logged operation. It is not logged if the storage cannot do it at all. -/
def startDecorated (id : StorageId) (inner : Storage) (start : Starter) : Starter :=
  fun spans r w =>
    match r.needs? with
    | some c =>
      if inner.has c then
        let spans := w.enter spans (r.span id)
        let (w, call) := start spans r w
        observe spans call w
      else (w, .settled (.error (Storage.lacks c)))
    -- what needs no capability is logged whoever carries it out
    | none =>
      let spans := w.enter spans (r.span id)
      let (w, call) := start spans r w
      observe spans call w

mutual

/-- Start an operation at a storage and run it until it waits or ends. -/
def Storage.start : Storage → Starter
  | .backend b => b.start
  | .multiplexer children => startMultiplexer (Storage.members children)
  | .decorated id inner => startDecorated id inner inner.start

/-- Named storages with the ways to start their operations. -/
def Storage.members : List (StorageId × Storage) → List Member
  | [] => []
  | (id, s) :: rest => ⟨id, s, s.start⟩ :: Storage.members rest

end

/-! ## Resuming -/

mutual

/-- Run a call that waits until it waits again or ends. -/
def Call.resume (spans : List LogSpan) : Call → World → World × Call
  | .settled a, w => (w, .settled a)
  | .sleeping wake a, w => if wake ≤ w.time then (w, .settled a) else (w, .sleeping wake a)
  | .polling slot poll, w =>
    match w.memory? slot with
    | some b => polled spans slot (b.memory.resumePoll w.clock w.time poll) w
    | none => (w, .polling slot poll)
  | .gathering r parts, w =>
    let (w, parts) := Call.resumeAll spans parts w
    (w, gather r parts)
  | .merging phase p parts, w =>
    match phase with
    | .sweeping =>
      let (w, parts) := Call.resumeAll spans parts w
      p.afterSweep (Storage.members p.members) spans parts w
    | .racing =>
      let (w, r) := Call.resumeRace spans parts ⟨p, [], none⟩ w
      PollMerge.afterRace (Storage.members p.members) spans r w
    | .closing =>
      let (w, parts) := Call.resumeAll spans parts w
      p.afterClosing spans parts w
  | .observed inside inner, w =>
    let (w, c) := inner.resume inside w
    observe inside c w

/-- Run several calls. -/
def Call.resumeAll (spans : List LogSpan) :
    List (StorageId × Call) → World → World × List (StorageId × Call)
  | [], w => (w, [])
  | (id, c) :: rest, w =>
    let (w, c) := c.resume spans w
    let (w, rest) := Call.resumeAll spans rest w
    (w, (id, c) :: rest)

/-- Run the calls of a race one after the other. When one of them has a message, the rest wait. -/
def Call.resumeRace (spans : List LogSpan) :
    List (StorageId × Call) → Race → World → World × Race
  | [], r, w => (w, r)
  | (id, c) :: rest, r, w =>
    if r.winner.isSome then
      -- the poll is about to be dropped and must not take anything any more
      Call.resumeRace spans rest { r with pending := r.pending ++ [(id, c)] } w
    else
      let (w, c) := c.resume spans w
      Call.resumeRace spans rest (r.take id c) w

end

/-! ## Waiting -/

mutual

/-- Whether a call has a reason to go on. -/
def Call.canResume (w : World) : Call → Bool
  | .settled _ => false
  | .sleeping wake _ => decide (wake ≤ w.time)
  | .polling slot poll =>
    match w.memory? slot with
    | some b => b.memory.canResume w.time poll
    | none => false
  | .gathering _ parts => Call.anyCanResume w parts
  | .merging _ _ parts => Call.anyCanResume w parts
  | .observed _ inner => inner.canResume w

/-- Whether one of several calls has a reason to go on. -/
def Call.anyCanResume (w : World) : List (StorageId × Call) → Bool
  | [] => false
  | (_, c) :: rest => c.canResume w || Call.anyCanResume w rest

end

mutual

/-- The times at which something in a call ends by itself. -/
def Call.timers : Call → List Nat
  | .settled _ => []
  | .sleeping wake _ => [wake]
  | .polling _ poll => [poll.order.deadline]
  | .gathering _ parts => Call.allTimers parts
  | .merging _ _ parts => Call.allTimers parts
  | .observed _ inner => inner.timers

/-- The times at which something in several calls ends by itself. -/
def Call.allTimers : List (StorageId × Call) → List Nat
  | [] => []
  | (_, c) :: rest => c.timers ++ Call.allTimers rest

end

end LongPoll
