import LongPoll.Storage.Call
/-!
# Configured storages

Storages are built from their settings. Each entry of a configuration becomes a storage that is
logged under the name of the entry, and all of them together act as one, which is logged under a
name of its own.
-/

namespace LongPoll

namespace World

/-- Add a memory engine, which collects its garbage by itself from now on. -/
def addMemory (w : World) (o : MemoryOptions) : World × Storage :=
  let w := w.report [] (.memoryStarted (!o.disablePubSub) (!o.disableJwt) o.collectInterval)
  let first := w.time + Nat.max 1 (waitMillis o.collectInterval)
  let engine := BackendState.memory ⟨o, .empty, some first⟩
  ({ w with backends := w.backends ++ [engine] },
    .backend ⟨w.backends.length, "onmemory", 0, !o.disablePubSub, !o.disableJwt⟩)

/-- Add a scripted storage with the given capabilities. -/
def addScripted (w : World) (s : Script) (descriptors : Nat) (pubsub jwt : Bool) :
    World × Storage :=
  ({ w with backends := w.backends ++ [.scripted ⟨s, []⟩] },
    .backend ⟨w.backends.length, "scripted", descriptors, pubsub, jwt⟩)

/-- Add the storage that an entry of a configuration selects. -/
def addConfigured (w : World) (id : StorageId) (o : StorageOptions) :
    World × Except Error Storage :=
  match o.kind id with
  | .error e => (w, .error e)
  | .ok (.redis _) =>
    let reason := "storage[" ++ id.text ++ "]: redis storage is not available in this build"
    (w, .error (.config reason))
  | .ok (.memory options) =>
    let w := w.report [] (.memoryWarning id)
    let (w, storage) := w.addMemory options
    (w.report [] (.storageReady id storage.display), .ok (.decorated id storage))

/-- Add the storages of a configuration one after the other, or stop at the first entry that
selects none. -/
def addAllConfigured (w : World) :
    StoragesOptions → World × Except Error (List (StorageId × Storage))
  | [] => (w, .ok [])
  | (id, o) :: rest =>
    match w.addConfigured id o with
    | (w, .error e) => (w, .error e)
    | (w, .ok storage) =>
      match w.addAllConfigured rest with
      | (w, .error e) => (w, .error e)
      | (w, .ok storages) => (w, .ok ((id, storage) :: storages))

end World

namespace Storage

/-- The name under which the operations of all configured storages together are logged. -/
def rootId : StorageId := ⟨"#root"⟩

/-- Build the storages of a configuration, which act as one. -/
def configured (o : StoragesOptions) (w : World) : World × Except Error Storage :=
  match w.addAllConfigured o.orDefault with
  | (w, .error e) => (w, .error e)
  | (w, .ok storages) => (w, (multiplex storages).map (decorated rootId))

end Storage

end LongPoll
