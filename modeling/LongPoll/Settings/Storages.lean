import LongPoll.Settings.Document
import LongPoll.Storage.Options
/-!
# Settings of storages

The entries of a storage configuration as documents and as JSON values.
-/

namespace LongPoll

namespace MemoryOptions

/-- Read the settings of a storage in memory. -/
def ofDocument? (d : Document) : Option MemoryOptions := do
  let fields ← d.fields? ["disablePubSub", "disableJwt", "gcInterval", "gcTimeout"]
  let disablePubSub ← fields.getD? "disablePubSub" Document.bool? false
  let disableJwt ← fields.getD? "disableJwt" Document.bool? false
  let interval ← fields.getD? "gcInterval" Document.duration? defaultInterval
  let timeout ← fields.getD? "gcTimeout" Document.duration? defaultTimeout
  some ⟨disablePubSub, disableJwt, interval, timeout⟩

/-- The settings of a storage in memory as JSON. -/
def toJson (o : MemoryOptions) : Json :=
  .object
    [("disablePubSub", .bool o.disablePubSub), ("disableJwt", .bool o.disableJwt),
      ("gcInterval", .text o.collectInterval.toText), ("gcTimeout", .text o.collectTimeout.toText)]

end MemoryOptions

namespace RedisOptions

/-- Read the settings of a networked storage. -/
def ofDocument? (d : Document) : Option RedisOptions := do
  let fields ← d.fields? ["singleNode", "cluster"]
  let singleNode ← fields.getD? "singleNode" (Document.option? Document.text?) none
  let cluster ← fields.getD? "cluster" (Document.option? (Document.list? Document.text?)) none
  some ⟨singleNode, cluster⟩

/-- The settings of a networked storage as JSON. -/
def toJson (o : RedisOptions) : Json :=
  let singleNode := o.singleNode.toList.map fun s => ("singleNode", Json.text s)
  let cluster := o.cluster.toList.map fun ss => ("cluster", Json.texts ss)
  .object (singleNode ++ cluster)

end RedisOptions

namespace StorageOptions

/-- Read one entry. -/
def ofDocument? (d : Document) : Option StorageOptions := do
  let fields ← d.fields? ["onmemory", "redis"]
  let memory ← fields.getD? "onmemory" (Document.option? MemoryOptions.ofDocument?) none
  let redis ← fields.getD? "redis" (Document.option? RedisOptions.ofDocument?) none
  some ⟨memory, redis⟩

/-- One entry as JSON. -/
def toJson (o : StorageOptions) : Json :=
  let memory := o.memory.toList.map fun m => ("onmemory", m.toJson)
  let redis := o.redis.toList.map fun r => ("redis", r.toJson)
  .object (memory ++ redis)

end StorageOptions

namespace StoragesOptions

/-- Read entries into those read so far. Of two entries of one name the later one counts. -/
def extend? : (read : StoragesOptions) → List (Document × Document) → Option StoragesOptions
  | read, [] => some read
  | read, (key, value) :: rest =>
    match key.text?, StorageOptions.ofDocument? value with
    | some name, some o => extend? (read.insert ⟨name⟩ o) rest
    | _, _ => none

/-- Read the entries of a configuration. -/
def ofDocument? (d : Document) : Option StoragesOptions := d.entries?.bind (extend? [])

/-- The entries of a configuration as JSON. -/
def toJson (o : StoragesOptions) : Json :=
  .object (o.map fun (id, options) => (id.text, options.toJson))

end StoragesOptions

end LongPoll
