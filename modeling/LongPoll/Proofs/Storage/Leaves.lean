import LongPoll.Proofs.Merge.Books
/-!
# Storages as trees

A storage is a tree with multiplexers as its nodes and backends as its leaves. What holds of
backends, and of a multiplexer and of a logged storage if it holds of the storages inside, holds of
every storage (`Storage.induct`); calls are nested in the same way (`Call.induct`).

A storage has a capability if one of its backends has it (`Storage.has_iff`), however deep that
backend stands. So the backends that take part in an operation are those that are able to
(`Storage.isAble`), and a storage is able to if there is such a backend.
-/

namespace LongPoll

/-- Induction along the tree of a storage, with the hypothesis for all storages in a multiplexer. -/
@[elab_as_elim]
theorem Storage.induct {motive : Storage → Prop} (backend : ∀ b, motive (.backend b))
    (multiplexer : ∀ children, (∀ child ∈ children, motive child.2) →
      motive (.multiplexer children))
    (decorated : ∀ id inner, motive inner → motive (.decorated id inner)) (s : Storage) :
    motive s :=
  @Storage.rec motive (fun children => ∀ child ∈ children, motive child.2)
    (fun child => motive child.2) backend multiplexer decorated nofun
    (fun _ _ hchild hchildren => List.forall_mem_cons.mpr ⟨hchild, hchildren⟩) (fun _ _ h => h) s

/-- Induction along the nesting of a call, with the hypothesis for all calls inside. -/
@[elab_as_elim]
theorem Call.induct {motive : Call → Prop} (settled : ∀ a, motive (.settled a))
    (sleeping : ∀ wake a, motive (.sleeping wake a))
    (polling : ∀ slot poll, motive (.polling slot poll))
    (gathering : ∀ r parts, (∀ part ∈ parts, motive part.2) → motive (.gathering r parts))
    (merging : ∀ phase p parts, (∀ part ∈ parts, motive part.2) → motive (.merging phase p parts))
    (observed : ∀ spans inner, motive inner → motive (.observed spans inner)) (c : Call) :
    motive c :=
  @Call.rec motive (fun parts => ∀ part ∈ parts, motive part.2) (fun part => motive part.2)
    settled sleeping polling gathering merging observed nofun
    (fun _ _ hpart hparts => List.forall_mem_cons.mpr ⟨hpart, hparts⟩) (fun _ _ h => h) c

/-- A backend in a storage, with the names of the storages around it from the outside in. -/
structure Leaf where
  /-- The names under which multiplexers know the storages around it, and itself at last. -/
  path : List StorageId
  /-- The backend. -/
  backend : Backend
  deriving DecidableEq

/-- A backend of a storage as one of the multiplexer that knows the storage under a name. -/
def Leaf.under (id : StorageId) (l : Leaf) : Leaf := { l with path := id :: l.path }

namespace Storage

mutual

/-- The backends of a storage. -/
def leaves : Storage → List Leaf
  | backend b => [⟨[], b⟩]
  | multiplexer children => allLeaves children
  | decorated _ inner => inner.leaves

/-- The backends of several storages. -/
def allLeaves : List (StorageId × Storage) → List Leaf
  | [] => []
  | (id, s) :: rest => s.leaves.map (Leaf.under id) ++ allLeaves rest

end

/-- The backends of several storages stand behind each other, each under its name. -/
theorem allLeaves_eq_flatMap (children : List (StorageId × Storage)) :
    allLeaves children = children.flatMap fun child => child.2.leaves.map (Leaf.under child.1) := by
  induction children with
  | nil => rw [allLeaves, List.flatMap_nil]
  | cons child children ih => rw [allLeaves, ih, List.flatMap_cons]

/-- Several storages have a capability if one of them has. -/
theorem anyHas_eq_any (c : Capability) (children : List (StorageId × Storage)) :
    anyHas c children = children.any fun child => child.2.has c := by
  induction children with
  | nil => rw [anyHas, List.any_nil]
  | cons child children ih => rw [anyHas, ih, List.any_cons]

/-- A storage has a capability exactly if one of its backends has. -/
theorem has_iff (c : Capability) (s : Storage) :
    s.has c = true ↔ ∃ l ∈ s.leaves, (Storage.backend l.backend).has c = true := by
  induction s using Storage.induct with
  | backend b =>
    rw [leaves]
    simp only [List.mem_singleton, exists_eq_left]
  | multiplexer children ih =>
    rw [has, anyHas_eq_any, List.any_eq_true, leaves, allLeaves_eq_flatMap]
    simp only [List.mem_flatMap, List.mem_map]
    -- a backend of a multiplexer stands in one of its storages
    constructor
    · rintro ⟨child, hchild, hhas⟩
      obtain ⟨l, hl, hleaf⟩ := (ih child hchild).mp hhas
      exact ⟨l.under child.1, ⟨child, hchild, l, hl, rfl⟩, hleaf⟩
    · rintro ⟨_, ⟨child, hchild, l, hl, rfl⟩, hleaf⟩
      exact ⟨child, hchild, (ih child hchild).mpr ⟨l, hl, hleaf⟩⟩
  | decorated id inner ih =>
    rw [has, leaves]
    exact ih

/-- Whether a storage takes part in an operation: it has the capability that the operation needs, if
the operation needs one. -/
def isAble (r : StorageRequest) (s : Storage) : Bool :=
  match r.needs? with
  | some c => s.has c
  | none => true

/-- An operation that needs a capability takes storages that have it. -/
theorem isAble_of_needs? {r : StorageRequest} {c : Capability} (h : r.needs? = some c)
    (s : Storage) : s.isAble r = s.has c := by
  rw [isAble, h]

theorem isAble_of_needs?_none {r : StorageRequest} (h : r.needs? = none) (s : Storage) :
    s.isAble r = true := by
  rw [isAble, h]

/-- To be logged makes no difference to what a storage is able to do. -/
@[simp]
theorem isAble_decorated (r : StorageRequest) (id : StorageId) (inner : Storage) :
    (decorated id inner).isAble r = inner.isAble r := by
  unfold isAble
  split
  · rw [has]
  · rfl

end Storage

/-- Whether a backend takes part in an operation. -/
def Leaf.isAble (r : StorageRequest) (l : Leaf) : Bool := (Storage.backend l.backend).isAble r

namespace Storage

variable {r : StorageRequest} {s : Storage}

/-- A storage that takes no part in an operation has no backend that does. -/
theorem filter_leaves_eq_nil (h : s.isAble r = false) : s.leaves.filter (Leaf.isAble r) = [] := by
  refine List.filter_eq_nil_iff.mpr fun l hl hable => ?_
  cases hneeds : r.needs? with
  | none => exact Bool.noConfusion (h.symm.trans (isAble_of_needs?_none hneeds s))
  | some c =>
    rw [Leaf.isAble, isAble_of_needs? hneeds] at hable
    rw [isAble_of_needs? hneeds, (has_iff c s).mpr ⟨l, hl, hable⟩] at h
    exact Bool.noConfusion h

/-- In every multiplexer the storages stand in the order of their names, no two of them under the
same one. -/
inductive Ordered : Storage → Prop
  /-- A backend. -/
  | backend (b : Backend) : Ordered (.backend b)
  /-- Storages in the order of their names. -/
  | multiplexer {children : List (StorageId × Storage)}
    (sorted : (children.map Prod.fst).Pairwise fun id id' => id.text < id'.text)
    (inside : ∀ child ∈ children, Ordered child.2) : Ordered (.multiplexer children)
  /-- A logged storage. -/
  | decorated {inner : Storage} (id : StorageId) (inside : Ordered inner) :
    Ordered (.decorated id inner)

/-- Names that are sorted strictly do not repeat. -/
theorem nodup_of_sorted {ids : List StorageId}
    (h : ids.Pairwise fun id id' => id.text < id'.text) : ids.Nodup :=
  h.imp fun hlt heq => by
    rw [heq] at hlt
    exact String.lt_irrefl _ hlt

/-- The names around a backend tell it from all others. -/
theorem Ordered.nodup_paths (h : s.Ordered) : (s.leaves.map Leaf.path).Nodup := by
  induction h with
  | backend b =>
    rw [leaves]
    exact List.nodup_singleton _
  | @multiplexer children sorted inside ih =>
    rw [leaves, allLeaves_eq_flatMap, List.map_flatMap]
    refine List.nodup_flatMap.mpr ⟨fun child hchild => ?_, ?_⟩
    -- two backends of one storage have different ways to them inside of it
    · have hinside := (ih child hchild).map (f := fun path => child.1 :: path)
        fun path path' heq => (List.cons.inj heq).2
      rw [List.map_map] at hinside ⊢
      exact hinside
    · -- the first name on the way to a backend is that of the storage it stands in
      refine (List.pairwise_map.mp (nodup_of_sorted sorted)).imp fun {child child'} hne => ?_
      rintro path hpath hpath'
      simp only [List.map_map, List.mem_map, Function.comp_apply, Leaf.under] at hpath hpath'
      obtain ⟨l, -, rfl⟩ := hpath
      obtain ⟨l', -, heq⟩ := hpath'
      exact hne (List.cons.inj heq).1.symm
  | decorated id inside ih =>
    rw [leaves]
    exact ih

end Storage

end LongPoll
