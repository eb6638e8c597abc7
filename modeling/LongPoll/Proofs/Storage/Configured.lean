import LongPoll.Proofs.Storage.Leaves
import LongPoll.Proofs.Storage.Steady
import LongPoll.Storage.Configured
/-!
# What configured storages are made of

A configuration that can be carried out yields one storage of a fixed shape: all backends are in
memory, each is logged under its name, and all of them together act as one, which is logged, too
(`Storage.assembled`). Each has a place of its own, and is empty at first
(`assembled_of_configured`).
-/

namespace LongPoll

namespace Storage

/-- Backends that are logged under their names. -/
def logged (entries : List (StorageId × Backend)) : List (StorageId × Storage) :=
  entries.map fun (id, b) => (id, .decorated id (.backend b))

/-- Backends that act as one. -/
def assembled (entries : List (StorageId × Backend)) : Storage :=
  .decorated rootId (.multiplexer (logged entries))

/-- The backends of a configured storage are those of its entries. -/
theorem leaves_assembled (entries : List (StorageId × Backend)) :
    (assembled entries).leaves = entries.map fun (id, b) => ⟨[id], b⟩ := by
  rw [assembled, leaves, leaves, allLeaves_eq_flatMap, logged, List.flatMap_map]
  induction entries with
  | nil => rfl
  | cons e entries ih =>
    rw [List.flatMap_cons, ih, List.map_cons, leaves, leaves]
    rfl

/-- Logged storages keep their names. -/
theorem ids_logged (entries : List (StorageId × Backend)) :
    (logged entries).map Prod.fst = entries.map Prod.fst := by
  rw [logged, List.map_map]
  rfl

/-- Only these backends are called in an operation. -/
theorem Gathers.mem_entries {entries : List (StorageId × Backend)} {r : StorageRequest}
    {join : List (StorageId × StorageAnswer) → StorageAnswer → Prop} {calls : List LeafCall}
    {a : StorageAnswer} (h : (assembled entries).Gathers r join calls a)
    (hable : (assembled entries).isAble r = true) :
    ∀ x ∈ calls, ∃ id, (id, x.leaf.backend) ∈ entries := by
  intro x hx
  have hleaf : x.leaf ∈ calls.map LeafCall.leaf := List.mem_map_of_mem hx
  rw [h.leaves_eq hable, List.mem_filter, leaves_assembled] at hleaf
  obtain ⟨e, he, heq⟩ := List.mem_map.mp hleaf.1
  rw [← heq]
  exact ⟨e.1, he⟩

end Storage

/-- Backends with names of their own stand for memory engines at different places. -/
structure World.Hosts (w : World) (entries : List (StorageId × Backend)) : Prop where
  /-- No name stands for two backends. -/
  names : (entries.map Prod.fst).Nodup
  /-- No place is taken by two backends. -/
  slots : (entries.map (·.2.slot)).Nodup
  /-- Every place is that of a memory engine, which keeps its logs in order. -/
  engines : ∀ e ∈ entries, ∃ b, w.memory? e.2.slot = some b ∧ b.memory.Indexed

/-- Backends that stand for engines go on to do so as long as engines stay in their places. -/
theorem World.Hosts.keep {w w' : World} {entries : List (StorageId × Backend)}
    (h : w.Hosts entries) (hkeeps : w.KeepsEngines w') : w'.Hosts entries where
  names := h.names
  slots := h.slots
  engines e he := by
    obtain ⟨b, hb, hindexed⟩ := h.engines e he
    obtain ⟨b', hb', hkept⟩ := hkeeps e.2.slot b hb
    exact ⟨b', hb', hkept hindexed⟩

/-- Backends are those of a configuration that has just been carried out: they stand for empty
memory engines with the settings of its entries. -/
structure World.Opens (w : World) (o : StoragesOptions) (entries : List (StorageId × Backend)) :
    Prop where
  /-- The backends have the names of the entries. -/
  ids : entries.map Prod.fst = o.map Prod.fst
  /-- No place is taken by two backends. -/
  slots : (entries.map (·.2.slot)).Nodup
  /-- Every place is that of an empty memory engine with the settings of the entry. -/
  engines : ∀ e ∈ entries, ∃ item b, (e.1, item) ∈ o ∧ item.kind e.1 = .ok (.memory b.options) ∧
    w.memory? e.2.slot = some b ∧ b.memory = .empty

section Configured

variable {w w' : World} {o : StoragesOptions} {storages : List (StorageId × Storage)}

/-- A new memory storage has an empty engine of its own behind all other backends. -/
theorem addMemory_spec (w : World) (options : MemoryOptions) :
    ∃ (b : Backend) (engine : MemoryBackend), (w.addMemory options).2 = .backend b ∧
      b.slot = w.backends.length ∧
      (w.addMemory options).1.backends = w.backends ++ [.memory engine] ∧
      engine.options = options ∧ engine.memory = .empty := by
  obtain ⟨events, heq⟩ := w.report_eq []
    (.memoryStarted (!options.disablePubSub) (!options.disableJwt) options.collectInterval)
  rw [World.addMemory, heq]
  exact ⟨_, _, rfl, rfl, rfl, rfl, rfl⟩

/-- What an entry adds to the world is a memory engine at the next place. -/
theorem addConfigured_ok {id : StorageId} {item : StorageOptions} {s : Storage}
    (h : w.addConfigured id item = (w', .ok s)) :
    ∃ (b : Backend) (engine : MemoryBackend), s = .decorated id (.backend b) ∧
      b.slot = w.backends.length ∧ w'.backends = w.backends ++ [.memory engine] ∧
      item.kind id = .ok (.memory engine.options) ∧ engine.memory = .empty := by
  unfold World.addConfigured at h
  split at h
  · exact absurd (Prod.mk.inj h).2 nofun
  · exact absurd (Prod.mk.inj h).2 nofun
  next options hkind =>
    obtain ⟨rfl, hs⟩ := Prod.mk.inj h
    obtain rfl := Except.ok.inj hs
    -- reports add no places
    have hwarned := (w.logs_report [] (.memoryWarning id)).backends_eq
    obtain ⟨b, engine, hstorage, hslot, hbackends, hoptions, hempty⟩ :=
      addMemory_spec (w.report [] (.memoryWarning id)) options
    rw [hwarned] at hslot hbackends
    exact ⟨b, engine, congrArg _ hstorage, hslot,
      (World.logs_report _ [] _).backends_eq.trans hbackends, hoptions ▸ hkind, hempty⟩

/-- The entries of a configuration get the next places one after the other. -/
theorem addAllConfigured_ok (h : w.addAllConfigured o = (w', .ok storages)) :
    ∃ (entries : List (StorageId × Backend)) (engines : List MemoryBackend),
      storages = Storage.logged entries ∧
      entries.map (·.2.slot) = List.range' w.backends.length o.length ∧
      w'.backends = w.backends ++ engines.map .memory ∧ w'.Opens o entries := by
  -- the places count on from those that the world has at the time
  induction o generalizing w storages with
  | nil =>
    obtain ⟨rfl, hs⟩ := Prod.mk.inj h
    obtain rfl := Except.ok.inj hs
    exact ⟨[], [], rfl, rfl, (List.append_nil _).symm, rfl, List.nodup_nil, nofun⟩
  | cons item o ih =>
    obtain ⟨id, item⟩ := item
    rw [World.addAllConfigured] at h
    split at h
    next => exact absurd (Prod.mk.inj h).2 nofun
    next w₁ s hadd =>
      split at h
      next => exact absurd (Prod.mk.inj h).2 nofun
      next w₂ rest hrest =>
        obtain ⟨rfl, hs⟩ := Prod.mk.inj h
        obtain rfl := Except.ok.inj hs
        obtain ⟨b, engine, rfl, hslot, hbackends, hkind, hempty⟩ := addConfigured_ok hadd
        obtain ⟨entries, engines, rfl, hslots, hbackends', hopens⟩ := ih hrest
        have hall : w₂.backends = w.backends ++ .memory engine :: engines.map .memory := by
          rw [hbackends', hbackends, List.append_assoc, List.singleton_append]
        have hrange : b.slot :: entries.map (·.2.slot) =
            List.range' w.backends.length (o.length + 1) := by
          rw [hslots, hslot, hbackends, List.length_append]
          rfl
        refine ⟨(id, b) :: entries, engine :: engines, rfl, hrange, hall,
          congrArg (id :: ·) hopens.ids, ?_, List.forall_mem_cons.mpr ⟨?_, fun e he => ?_⟩⟩
        · rw [List.map_cons, hrange]
          exact List.nodup_range'
        · -- the engines that are added later come after this one
          refine ⟨item, engine, List.mem_cons_self, hkind, World.memory?_of_backend? ?_, hempty⟩
          simp [World.backend?, hall, hslot]
        · obtain ⟨item', b', hmem, hengine⟩ := hopens.engines e he
          exact ⟨item', b', List.mem_cons_of_mem _ hmem, hengine⟩

/-- What is carried out are the entries of the configuration, or those that stand in for none. -/
theorem opens_of_configured {s : Storage} (h : Storage.configured o w = (w', .ok s)) :
    ∃ entries, s = Storage.assembled entries ∧ w'.Opens o.orDefault entries := by
  unfold Storage.configured at h
  split at h
  next => exact absurd (Prod.mk.inj h).2 nofun
  next w₁ storages hadd =>
    obtain ⟨rfl, hs⟩ := Prod.mk.inj h
    obtain ⟨entries, engines, rfl, -, -, hopens⟩ := addAllConfigured_ok hadd
    refine ⟨entries, ?_, hopens⟩
    unfold Storage.multiplex at hs
    split at hs
    · exact absurd hs nofun
    · exact (Except.ok.inj hs).symm

/-- A configured storage consists of memory engines at places of their own, which are empty. -/
theorem assembled_of_configured {s : Storage} (h : Storage.configured o w = (w', .ok s))
    (hnodup : (o.map Prod.fst).Nodup) : ∃ entries, s = Storage.assembled entries ∧
      entries.map Prod.fst = o.orDefault.map Prod.fst ∧ w'.Hosts entries := by
  obtain ⟨entries, hs, hopens⟩ := opens_of_configured h
  refine ⟨entries, hs, hopens.ids, ?_, hopens.slots, fun e he => ?_⟩
  · -- without entries there is one storage of a standard name
    rw [hopens.ids, StoragesOptions.orDefault]
    split
    · exact List.nodup_singleton _
    · exact hnodup
  · obtain ⟨item, b, -, -, hb, hempty⟩ := hopens.engines e he
    refine ⟨b, hb, ?_⟩
    rw [hempty]
    exact Memory.indexed_empty

end Configured

end LongPoll
