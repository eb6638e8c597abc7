import LongPoll.Storage.Request
import LongPoll.Error
/-!
# Scripted storages

A storage whose answers are written down in advance, for each operation in the order of its calls.
It stands for any storage outside the program: it may be slow, fail, or answer what it likes.
-/

namespace LongPoll

/-- One answer that is written down. -/
structure ScriptLine (α : Type) where
  /-- How long the answer takes, in milliseconds, if it does not come at once. -/
  delay : Option Nat
  /-- The answer. -/
  answer : Except Error α

/-- The answers of a storage. -/
structure Script where
  /-- The answers to publishes. -/
  publish : List (ScriptLine Unit)
  /-- The answers to polls: names and contents of messages. -/
  poll : List (ScriptLine (List (MessageId × ByteArray)))
  /-- The answers to revocations. -/
  revoke : List (ScriptLine Unit)
  /-- The answers to questions about revocations. -/
  isRevoked : List (ScriptLine Bool)
  /-- The answers to questions about being broken. -/
  liveness : List (ScriptLine Json)
  /-- The answers to questions about being ready. -/
  readiness : List (ScriptLine Json)
  /-- The answers to being stopped. -/
  shutdown : List (ScriptLine Unit)

/-- A scripted storage and the calls that have started, the last one first. -/
structure ScriptedStorage where
  /-- The answers. -/
  script : Script
  /-- The calls so far. -/
  calls : List StorageRequest

namespace ScriptedStorage

/-- How many calls of the same operation have started before. -/
def callsBefore (s : ScriptedStorage) (r : StorageRequest) : Nat :=
  s.calls.countP fun r' => r'.operation == r.operation

/-- The line for the next call, or the given answer at once if there is no such line. -/
def line {α : Type} (lines : List (ScriptLine α)) (n : Nat) (past : ScriptLine α) :
    ScriptLine α :=
  lines.getD n past

/-- A line with its answer turned into a reply. -/
def reply {α : Type} (f : α → StorageReply) (l : ScriptLine α) : ScriptLine StorageReply :=
  ⟨l.delay, l.answer.map f⟩

/-- What the storage answers to a call: past the end of the script operations succeed, probes have
nothing to report, and polls wait as long as they may, which takes `waitMillis`. -/
def lineFor (s : ScriptedStorage) (r : StorageRequest) (waitMillis : Duration → Nat) :
    ScriptLine StorageReply :=
  let n := s.callsBefore r
  match r with
  | .publish _ => reply (fun _ => .done) (line s.script.publish n ⟨none, .ok ()⟩)
  | .poll locator max wait =>
    let posted (ms : List (MessageId × ByteArray)) : StorageReply :=
      .messages ((ms.map fun (id, content) => ⟨locator.channel, id, content⟩).take max)
    reply posted (line s.script.poll n ⟨some (waitMillis wait), .ok []⟩)
  | .revoke _ _ => reply (fun _ => .done) (line s.script.revoke n ⟨none, .ok ()⟩)
  | .isRevoked _ => reply .revoked (line s.script.isRevoked n ⟨none, .ok false⟩)
  | .liveness => reply .detail (line s.script.liveness n ⟨none, .ok (.object [])⟩)
  | .readiness => reply .detail (line s.script.readiness n ⟨none, .ok (.object [])⟩)
  | .shutdown => reply (fun _ => .done) (line s.script.shutdown n ⟨none, .ok ()⟩)

/-- Take note that a call has started. -/
def record (s : ScriptedStorage) (r : StorageRequest) : ScriptedStorage :=
  { s with calls := r :: s.calls }

end ScriptedStorage

end LongPoll
