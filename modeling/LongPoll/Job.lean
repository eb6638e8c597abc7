import LongPoll.Storage.Call
/-!
# Jobs

A job is an operation of a storage together with what becomes of its answer. Several jobs run
side by side: each in its turn runs until everything in it waits, and when all of them wait the
clock moves on to the next moment at which something happens. Garbage that is due is collected
before any job runs at a new moment.
-/

namespace LongPoll

/-- An operation in progress and what becomes of its answer. -/
structure Job (α : Type) where
  /-- The operation. -/
  call : Call
  /-- What its answer leads to. -/
  conclude : StorageAnswer → World → World × α

/-- Where a job stands. -/
inductive JobState (α : Type) where
  /-- It is in progress. -/
  | running (j : Job α)
  /-- It has ended with a result at the given time. -/
  | ended (result : α) (time : Nat)

namespace Job

variable {α β : Type}

/-- The job that ends with the answer to an operation. -/
def ofCall (c : Call) : Job StorageAnswer := ⟨c, fun a w => (w, a)⟩

/-- The job that ends at once. -/
def done (a : α) : Job α := ⟨.settled (.ok .done), fun _ w => (w, a)⟩

/-- The job with its result turned into another one, perhaps with a report about it. -/
def andThen (j : Job α) (f : α → World → World × β) : Job β :=
  ⟨j.call, fun answer w =>
    let (w, a) := j.conclude answer w
    f a w⟩

/-- Where a job stands after it was started or resumed. -/
def settle (j : Job α) (w : World) : World × JobState α :=
  match j.call.answer? with
  | some answer =>
    let (w, result) := j.conclude answer w
    (w, .ended result w.time)
  | none => (w, .running j)

end Job

namespace JobState

variable {α : Type}

/-- The result and its time, if the job has ended. -/
def result? : JobState α → Option (α × Nat)
  | running _ => none
  | ended result time => some (result, time)

/-- Whether the job has a reason to go on. -/
def canResume (w : World) : JobState α → Bool
  | running j => j.call.canResume w
  | ended .. => false

/-- Run a job until it waits or ends. -/
def resume (s : JobState α) (w : World) : World × JobState α :=
  match s with
  | running j =>
    let (w, call) := j.call.resume [] w
    { j with call := call }.settle w
  | ended .. => (w, s)

/-- Drop a job that has not ended. -/
def drop (s : JobState α) (w : World) : World :=
  match s with
  | running j => j.call.drop w
  | ended .. => w

/-- The times at which something in a job ends by itself. -/
def timers : JobState α → List Nat
  | running j => j.call.timers
  | ended .. => []

end JobState

/-- Jobs under their names, in the order in which they take turns. -/
abbrev JobList (κ α : Type) := List (κ × JobState α)

namespace JobList

variable {κ α : Type}

/-- Whether some job has a reason to go on. -/
def canResume (w : World) (js : JobList κ α) : Bool := js.any fun (_, j) => j.canResume w

/-- Give every job that can go on one turn. -/
def turn : JobList κ α → World → World × JobList κ α
  | [], w => (w, [])
  | (k, j) :: rest, w =>
    let (w, j) := if j.canResume w then j.resume w else (w, j)
    let (w, rest) := turn rest w
    (w, (k, j) :: rest)

/-- Give turns until every job waits, at most `turns` of them. -/
def settle : (turns : Nat) → JobList κ α → World → World × JobList κ α
  | 0, js, w => (w, js)
  | turns + 1, js, w =>
    if canResume w js then
      let (w, js) := turn js w
      settle turns js w
    else (w, js)

/-- The next moment after now at which something happens by itself. -/
def nextMoment? (w : World) (js : JobList κ α) (alarm : Option Nat) : Option Nat :=
  let timers := js.flatMap (fun (_, j) => j.timers) ++ w.nextCollect?.toList ++ alarm.toList
  (timers.filter (w.time < ·)).min?

/-- The greatest number of turns and of moments in one run. -/
def runLimit : Nat := Word.values63

/-- Move the clock on to a moment, collect the garbage that is due then, and give turns until every
job waits. -/
def advanceTo (time : Nat) (js : JobList κ α) (w : World) : World × JobList κ α :=
  settle runLimit js { w with time := time }.collectDue

/-- Move on from moment to moment until `enough` holds, at most `moments` times. -/
def runUntil (enough : World → JobList κ α → Bool) (alarm : Option Nat) :
    (moments : Nat) → JobList κ α → World → World × JobList κ α
  | 0, js, w => (w, js)
  | moments + 1, js, w =>
    if enough w js then (w, js)
    else
      match nextMoment? w js alarm with
      | some time =>
        let (w, js) := advanceTo time js w
        runUntil enough alarm moments js w
      | none => (w, js)

end JobList

end LongPoll
