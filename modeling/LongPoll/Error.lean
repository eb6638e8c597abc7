import LongPoll.Text.Quoted
/-!
# Errors

What can go wrong, as a cause with its details, and the one place that words it.
-/

namespace LongPoll

/-- The kinds of identifier that are checked when they are made. -/
inductive IdKind where
  /-- The name of a channel. -/
  | channel
  /-- The name of a subscriber of a channel. -/
  | subscriber
  /-- The name of a message in a channel. -/
  | message
  /-- The name of a token. -/
  | jti
  deriving DecidableEq, Repr

/-- The word for a kind of identifier. -/
def IdKind.word : IdKind → String
  | channel => "channel"
  | subscriber => "subscriber"
  | message => "message"
  | jti => "jti"

/-- The name of a configured storage. Any text will do. -/
structure StorageId where
  /-- The name itself. -/
  text : String
  deriving DecidableEq, Repr

instance : ToString StorageId := ⟨StorageId.text⟩

/-- The reason why an operation failed. -/
inductive Error where
  /-- No channel definition covers the identifier. -/
  | invalidChannel (id : String)
  /-- A text is no identifier of its kind. -/
  | invalidId (kind : IdKind) (value : String)
  /-- A parameter of a request is malformed. -/
  | invalidParameter (text : String)
  /-- The caller has not shown a valid token. -/
  | unauthorized (text : String)
  /-- The storage lacks the capability. -/
  | unsupported (capability : String)
  /-- The operation gave up at its deadline. -/
  | cancelled (text : String)
  /-- A part of the configuration is invalid. -/
  | config (text : String)
  /-- Several storages failed, each with an error of its own. -/
  | aggregate (failures : List (StorageId × Error))
  /-- A storage failed. -/
  | storage (text : String)
  /-- A value could not be written or read. -/
  | serialization (text : String)
  /-- A fault inside the program. -/
  | internal (text : String)
  deriving Repr

instance : Inhabited Error := ⟨.internal ""⟩

namespace Error

mutual

/-- The wording of an error. -/
def message : Error → String
  | invalidChannel id => "Invalid channel: " ++ id
  | invalidId kind value => "Invalid " ++ kind.word ++ ": " ++ Text.quoted value
  | invalidParameter text => "Invalid parameter: " ++ text
  | unauthorized text => "Unauthorized: " ++ text
  | unsupported capability => "Not supported: " ++ capability
  | cancelled text => "Cancelled: " ++ text
  | config text => "Configuration error: " ++ text
  | aggregate failures =>
    toString failures.length ++ " storage(s) failed: " ++ "; ".intercalate (failureTexts failures)
  | storage text => "Storage error: " ++ text
  | serialization text => "Serialization error: " ++ text
  | internal text => "Internal error: " ++ text

/-- The wording of each of several failures, with the storage it belongs to. -/
def failureTexts : List (StorageId × Error) → List String
  | [] => []
  | (id, e) :: failures =>
    ("storage \"" ++ id.text ++ "\": " ++ e.message) :: failureTexts failures

end

mutual

/-- Whether the error is a cancellation, or consists of cancellations only. -/
def isCancelled : Error → Bool
  | cancelled _ => true
  | aggregate [] => false
  | aggregate (failure :: failures) => failure.2.isCancelled && allCancelled failures
  | _ => false

/-- Whether every one of several failures is a cancellation. -/
def allCancelled : List (StorageId × Error) → Bool
  | [] => true
  | (_, e) :: failures => e.isCancelled && allCancelled failures

end

/-- Success if nothing failed, and otherwise all failures together. -/
def join (failures : List (StorageId × Error)) : Except Error Unit :=
  if failures.isEmpty then .ok () else .error (.aggregate failures)

end Error

end LongPoll
