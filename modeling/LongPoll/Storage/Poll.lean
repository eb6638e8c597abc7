import LongPoll.Storage.Memory
/-!
# Polls of a memory engine

A poll looks at the queue of its subscriber. If it finds nothing it waits for the bell and looks
again, until its deadline has passed; then it looks once more and returns what there is. Two
clocks are at work: the wall clock says which messages are visible, and a clock that only moves
forward says when the deadline has passed.
-/

namespace LongPoll

/-- What a poll asks for. -/
structure PollOrder where
  /-- The definition of the channel when the poll started. -/
  channel : Channel
  /-- Whose messages to hand out. -/
  locator : Locator
  /-- The greatest number of messages. -/
  max : Nat
  /-- When to stop waiting. -/
  deadline : Nat
  /-- The name of the poll on the bell. -/
  ticket : Ticket

/-- A poll that waits. -/
structure WaitingPoll where
  /-- What it asks for. -/
  order : PollOrder
  /-- The bell it waits on. -/
  bell : BellId

/-- Where a poll stands. -/
inductive PollProgress where
  /-- It has returned. -/
  | answered (ms : List Message)
  /-- It waits. -/
  | waiting (p : WaitingPoll)

/-- The state of the engine and of a poll after some steps, with what there is to report. -/
structure PollStep where
  /-- The engine. -/
  memory : Memory
  /-- The poll. -/
  progress : PollProgress
  /-- What happened. -/
  notices : List Notice

/-- The step with earlier reports before its own. -/
def PollStep.after (notices : List Notice) (s : PollStep) : PollStep :=
  { s with notices := notices ++ s.notices }

namespace Memory

/-- The longest time that a poll waits. -/
def maxPollWait : Duration := Duration.seconds (24 * 60 * 60)

/-- The look at the queue after the deadline. -/
def lastLook (m : Memory) (now : Timestamp) (o : PollOrder) : PollStep :=
  match m.drain now o.channel o.locator o.max with
  | (m, .messages ms, notices) => ⟨m, .answered ms, notices⟩
  | (m, .wait b, notices) => ⟨m.onBell b Bell.release, .answered [], notices⟩

/-- Give up waiting on a bell. -/
def leaveBell (m : Memory) (b : BellId) (t : Ticket) : Memory :=
  (m.onBell b (·.leave t)).onBell b Bell.release

/-- Wait on a bell, or look for the last time if the deadline has passed. -/
def settleDown (m : Memory) (now : Timestamp) (time : Nat) (o : PollOrder) (b : BellId) :
    PollStep :=
  if o.deadline ≤ time then (m.leaveBell b o.ticket).lastLook now o
  else ⟨m, .waiting ⟨o, b⟩, []⟩

/-- Look at the queue, and wait if it is empty. A permit on the bell is taken and leads to another
look, at most `looks` times; a bell keeps no more than one. -/
def look (m : Memory) (now : Timestamp) (time : Nat) (o : PollOrder) : (looks : Nat) → PollStep
  | 0 =>
    match m.drain now o.channel o.locator o.max with
    | (m, .messages ms, notices) => ⟨m, .answered ms, notices⟩
    | (m, .wait b, notices) =>
      -- the first look has used the permit up, so the poll queues up for certain
      let m := m.onBell b fun bell => (bell.listen o.ticket).1
      (m.settleDown now time o b).after notices
  | looks + 1 =>
    match m.drain now o.channel o.locator o.max with
    | (m, .messages ms, notices) => ⟨m, .answered ms, notices⟩
    | (m, .wait b, notices) =>
      let (bell, woken) := (m.bell b).listen o.ticket
      let m := m.onBell b fun _ => bell
      -- a permit stands for a message that may have come since the queue was looked at
      if woken then ((m.onBell b Bell.release).look now time o looks).after notices
      else (m.settleDown now time o b).after notices

/-- Start a poll and run it until it waits or returns. -/
def startPoll (m : Memory) (now : Timestamp) (time : Nat) (o : PollOrder) : PollStep :=
  m.look now time o 1

/-- Whether a waiting poll has a reason to go on. -/
def canResume (m : Memory) (time : Nat) (p : WaitingPoll) : Bool :=
  (m.bell p.bell).hasWoken p.order.ticket || decide (p.order.deadline ≤ time)

/-- Run a waiting poll until it waits again or returns. A ring comes before the deadline. -/
def resumePoll (m : Memory) (now : Timestamp) (time : Nat) (p : WaitingPoll) : PollStep :=
  if (m.bell p.bell).hasWoken p.order.ticket then
    -- the poll stops waiting for as long as it looks, and is blocked again if it finds nothing
    let m := (m.onBell p.bell (·.resume p.order.ticket)).onBell p.bell Bell.release
    m.look now time p.order 1
  else if p.order.deadline ≤ time then (m.leaveBell p.bell p.order.ticket).lastLook now p.order
  else ⟨m, .waiting p, []⟩

/-- Drop a waiting poll. -/
def dropPoll (m : Memory) (p : WaitingPoll) : Memory := m.leaveBell p.bell p.order.ticket

end Memory

end LongPoll
