import LongPoll.Error
import LongPoll.Time.Duration
/-!
# Storage options

The storages of a configuration: for each name the settings of exactly one kind of storage.
-/

namespace LongPoll

/-- The settings of a storage in memory. -/
structure MemoryOptions where
  /-- The storage takes no messages. -/
  disablePubSub : Bool
  /-- The storage takes no revocations. -/
  disableJwt : Bool
  /-- The time between two passes that collect garbage. -/
  collectInterval : Duration
  /-- The time that such a pass may take. -/
  collectTimeout : Duration
  deriving DecidableEq

namespace MemoryOptions

/-- The pause between two passes, if none is given. -/
def defaultInterval : Duration := Duration.seconds (5 * 60)

/-- The time for a pass, if none is given. -/
def defaultTimeout : Duration := Duration.seconds 3

/-- The settings of a storage for which none are given. -/
def default : MemoryOptions := ⟨false, false, defaultInterval, defaultTimeout⟩

end MemoryOptions

/-- The settings of a networked storage. -/
structure RedisOptions where
  /-- The address of a single server. -/
  singleNode : Option String
  /-- The addresses of the servers of a cluster. -/
  cluster : Option (List String)
  deriving DecidableEq

/-- One entry of the configuration, with the settings of at most one kind of storage if it is
valid. -/
structure StorageOptions where
  /-- The settings of a storage in memory. -/
  memory : Option MemoryOptions
  /-- The settings of a networked storage. -/
  redis : Option RedisOptions
  deriving DecidableEq

/-- The kind of storage that an entry selects. -/
inductive StorageKind where
  /-- A storage in memory. -/
  | memory (options : MemoryOptions)
  /-- A networked storage. -/
  | redis (options : RedisOptions)
  deriving DecidableEq

/-- The entries of the configuration, in the order of their names. -/
abbrev StoragesOptions := List (StorageId × StorageOptions)

namespace StorageOptions

/-- The error about an entry. -/
def itemError (id : StorageId) (detail : String) : Error :=
  .config ("there is a configuration error on storage[" ++ id.text ++ "]: " ++ detail)

/-- The kind of storage that an entry selects, if the entry is valid. -/
def kind (o : StorageOptions) (id : StorageId) : Except Error StorageKind :=
  match o.memory, o.redis with
  | some m, none =>
    if m.collectInterval.isZero then
      .error (itemError id "onmemory.gcInterval must be greater than zero")
    else if m.collectTimeout.isZero then
      .error (itemError id "onmemory.gcTimeout must be greater than zero")
    else .ok (.memory m)
  | none, some r => .ok (.redis r)
  | none, none => .error (itemError id "no storage type under the item")
  | some _, some _ =>
    .error <| itemError id <|
      "found multiple storage type under single item. To configure multiple storages, " ++
        "write separate storage definitions"

/-- An entry is for a storage in memory exactly if it says nothing else and its durations are some
time. -/
theorem kind_eq_memory_iff {o : StorageOptions} {id : StorageId} {m : MemoryOptions} :
    o.kind id = .ok (.memory m) ↔
      o = ⟨some m, none⟩ ∧ 0 < m.collectInterval.nanos ∧ 0 < m.collectTimeout.nanos := by
  rw [← Duration.isZero_eq_false_iff, ← Duration.isZero_eq_false_iff]
  obtain ⟨memory, redis⟩ := o
  cases memory <;> cases redis <;> grind [kind]

/-- An entry is for a storage in a network exactly if it says nothing else. -/
theorem kind_eq_redis_iff {o : StorageOptions} {id : StorageId} {r : RedisOptions} :
    o.kind id = .ok (.redis r) ↔ o = ⟨none, some r⟩ := by
  obtain ⟨memory, redis⟩ := o
  cases memory <;> cases redis <;> grind [kind]

end StorageOptions

namespace StoragesOptions

/-- The entries that stand in for an empty list: one storage in memory. -/
def default : StoragesOptions := [(⟨"default"⟩, ⟨some MemoryOptions.default, none⟩)]

/-- The entries, or those that stand in for an empty list. -/
def orDefault (o : StoragesOptions) : StoragesOptions := if o.isEmpty then default else o

/-- Whether the first text comes before the second in the order of their octets. -/
def before (a b : StorageId) : Bool := decide (a.text < b.text)

/-- The entries with one more, or with one replaced, in the order of their names. -/
def insert (id : StorageId) (o : StorageOptions) : StoragesOptions → StoragesOptions
  | [] => [(id, o)]
  | (id', o') :: rest =>
    if id' = id then (id, o) :: rest
    else if before id id' then (id, o) :: (id', o') :: rest
    else (id', o') :: insert id o rest

/-- Check every entry, and fail at the first one that is not valid. -/
def validate : StoragesOptions → Except Error Unit
  | [] => .ok ()
  | (id, o) :: rest =>
    match o.kind id with
    | .ok _ => validate rest
    | .error e => .error e

end StoragesOptions

end LongPoll
