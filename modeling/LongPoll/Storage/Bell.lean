/-!
# Bells

A bell wakes polls that wait for a message. Each ring wakes the poll that has waited longest; if
none waits, the ring is kept as a permit, and the next poll to come takes it instead of waiting.
No more than one permit is kept. A bell also counts the polls that are blocked on it, from before
they wait until after they have stopped.
-/

namespace LongPoll

/-- The name of a waiting poll. -/
abbrev Ticket := Nat

/-- The wake-up signal of one subscriber. -/
structure Bell where
  /-- A ring that woke nobody. -/
  permit : Bool
  /-- The polls that wait, the longest waiting first. -/
  waiting : List Ticket
  /-- The polls that were woken and have not resumed. -/
  woken : List Ticket
  /-- The number of polls that are blocked on the bell. -/
  blocked : Nat
  deriving DecidableEq, Repr

namespace Bell

/-- A bell that nobody waits on. -/
def fresh : Bell := ⟨false, [], [], 0⟩

instance : Inhabited Bell := ⟨fresh⟩

/-- Wake the poll that has waited longest, or keep a permit. -/
def ring (b : Bell) : Bell :=
  match b.waiting with
  | t :: rest => { b with waiting := rest, woken := b.woken ++ [t] }
  | [] => { b with permit := true }

/-- Count one more blocked poll. -/
def block (b : Bell) : Bell := { b with blocked := b.blocked + 1 }

/-- Count one blocked poll less. -/
def release (b : Bell) : Bell := { b with blocked := b.blocked - 1 }

/-- Begin to wait: take the permit if there is one, and otherwise queue up. -/
def listen (b : Bell) (t : Ticket) : Bell × Bool :=
  if b.permit then ({ b with permit := false }, true)
  else ({ b with waiting := b.waiting ++ [t] }, false)

/-- Whether the poll was woken. -/
def hasWoken (b : Bell) (t : Ticket) : Bool := b.woken.contains t

/-- Resume a woken poll. -/
def resume (b : Bell) (t : Ticket) : Bell := { b with woken := b.woken.filter (· ≠ t) }

/-- Stop waiting. A ring that has already woken this poll goes to another one. -/
def leave (b : Bell) (t : Ticket) : Bell :=
  -- no ring is lost with the poll that it has woken
  if b.hasWoken t then (b.resume t).ring
  else { b with waiting := b.waiting.filter (· ≠ t) }

end Bell

end LongPoll
