import LongPoll.Storage.Request
/-!
# Storages

A storage is a backend, a multiplexer over named storages, or a storage whose operations are
logged. Backends have fixed capabilities; a multiplexer has those that one of its storages has,
and logging changes none.
-/

namespace LongPoll

/-- A backend as the storages above it see it. -/
structure Backend where
  /-- Its place among all backends. -/
  slot : Nat
  /-- What it is called in reports. -/
  display : String
  /-- The number of descriptors that it may hold. -/
  descriptors : Nat
  /-- It takes and hands out messages. -/
  pubsub : Bool
  /-- It keeps revocations. -/
  jwt : Bool
  deriving DecidableEq, Repr

/-- A storage. -/
inductive Storage where
  /-- A single backend. -/
  | backend (b : Backend)
  /-- Several storages that act as one, in the order of their names. -/
  | multiplexer (children : List (StorageId × Storage))
  /-- A storage whose operations are logged under a name. -/
  | decorated (id : StorageId) (inner : Storage)

namespace Storage

/-- Several storages as one; there has to be at least one. -/
def multiplex (children : List (StorageId × Storage)) : Except Error Storage :=
  if children.isEmpty then .error (.config "storage multiplexer requires at least one storage")
  else .ok (multiplexer children)

mutual

/-- Whether the storage has the capability. -/
def has (c : Capability) : Storage → Bool
  | backend b => match c with
    | .pubsub => b.pubsub
    | .jwt => b.jwt
  | multiplexer children => anyHas c children
  | decorated _ inner => inner.has c

/-- Whether one of several storages has the capability. -/
def anyHas (c : Capability) : List (StorageId × Storage) → Bool
  | [] => false
  | (_, s) :: rest => s.has c || anyHas c rest

end

mutual

/-- The number of descriptors that the storage may hold. -/
def descriptors : Storage → Nat
  | backend b => b.descriptors
  | multiplexer children => allDescriptors children
  | decorated _ inner => inner.descriptors

/-- The number of descriptors that several storages may hold together. -/
def allDescriptors : List (StorageId × Storage) → Nat
  | [] => 0
  | (_, s) :: rest => s.descriptors + allDescriptors rest

end

/-- What the storage is called in reports. -/
def display : Storage → String
  | backend b => b.display
  | multiplexer children =>
    "multiplexer(" ++ ", ".intercalate (children.map fun (id, _) => id.text) ++ ")"
  | decorated _ inner => inner.display

/-- The name under which the operations of the storage are logged. -/
def loggedAs? : Storage → Option StorageId
  | decorated id _ => some id
  | _ => none

/-- The error of an operation that needs a capability that the storage lacks. -/
def lacks (c : Capability) : Error := .unsupported c.word

end Storage

end LongPoll
