import LongPoll.Error
import LongPoll.Time.Timestamp
/-!
# Parameters

Durations and moments as callers write them, with the errors for what is neither.
-/

namespace LongPoll

/-- Read a written duration. -/
def Duration.parse (s : String) : Except Error Duration :=
  match Duration.parse? s with
  | some d => .ok d
  | none => .error (.invalidParameter ("invalid duration: " ++ Text.quoted s))

/-- A written duration is accepted exactly if it can be read. -/
theorem Duration.parse_eq_ok_iff {s : String} {d : Duration} :
    Duration.parse s = .ok d ↔ Duration.parse? s = some d := by
  unfold Duration.parse
  cases Duration.parse? s <;> simp

/-- The moment at which a token expires that says so in seconds since the start of 1970. -/
def Timestamp.ofExpClaim (seconds : Int) : Except Error Timestamp :=
  match Timestamp.ofUnixSeconds? seconds with
  | some t => .ok t
  | none => .error (.invalidParameter ("exp out of range: " ++ toString seconds))

end LongPoll
