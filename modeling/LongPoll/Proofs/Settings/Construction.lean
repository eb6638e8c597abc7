import LongPoll.Http.Server
import LongPoll.Proofs.Settings.RoundTrip
import LongPoll.Proofs.Storage.Configured
import LongPoll.Proofs.Text.Octets
/-!
# Accepted settings can be set up

The entries of a storage configuration are gone through twice: they are checked when settings are
loaded, and set up when the server starts. Both stop at the first entry that they refuse. The check
refuses what is not valid; setting up refuses this too, and storages in a network besides. So an
accepted configuration without storages in a network can be set up, and its channels can, too. If
setting up fails, the error is about the first entry, in the order of the octets of the names, that
is refused.

* `StorageOptions.Valid`, `StorageOptions.IsNetworked`: what the check and setting up look at.
* `StorageOptions.refusal?`, `StoragesOptions.refusal?`: why an entry is not set up, and why a
  configuration is not.
* `configured_of_refused`, `configured_of_not_refused`: setting up goes by that alone.
* `StoragesOptions.StopsAt`, `StoragesOptions.SetUpAs`: the outcome that the check foretells.
* `ServerOptions.set_up_as_checked`: storages have that outcome, and accepted settings can be set
  up.
-/

namespace LongPoll

/-- The settings keep the storage from having the capability. -/
def MemoryOptions.hides (o : MemoryOptions) : Capability → Bool
  | .pubsub => o.disablePubSub
  | .jwt => o.disableJwt

/-- The error is about the configured storage of that name. -/
def Error.Concerns (e : Error) (id : StorageId) : Prop :=
  ∃ opening detail, e = .config (opening ++ "storage[" ++ id.text ++ "]: " ++ detail)

/-! ### Entries -/

namespace StorageOptions

variable {o : StorageOptions} {id : StorageId} {e : Error}

/-- The entry selects exactly one kind of storage, and in memory garbage is collected at intervals
and given time. -/
inductive Valid : StorageOptions → Prop
  /-- A storage in memory. -/
  | memory {m : MemoryOptions} (interval : 0 < m.collectInterval.nanos)
    (timeout : 0 < m.collectTimeout.nanos) : Valid ⟨some m, none⟩
  /-- A storage in a network. -/
  | networked (r : RedisOptions) : Valid ⟨none, some r⟩

/-- The entry selects a storage in a network. -/
def IsNetworked (o : StorageOptions) : Prop := ∃ r, o = ⟨none, some r⟩

/-- The entry is not set up. -/
def IsRefused (o : StorageOptions) : Prop := ¬o.Valid ∨ o.IsNetworked

/-- The entry keeps its storage from having the capability. -/
def Hides (o : StorageOptions) (c : Capability) : Prop := ∃ m ∈ o.memory, m.hides c = true

instance : DecidablePred Valid
  | ⟨some m, none⟩ =>
    decidable_of_iff (0 < m.collectInterval.nanos ∧ 0 < m.collectTimeout.nanos)
      ⟨fun h => .memory h.1 h.2, fun | .memory interval timeout => ⟨interval, timeout⟩⟩
  | ⟨none, some r⟩ => isTrue (.networked r)
  | ⟨none, none⟩ => isFalse nofun
  | ⟨some _, some _⟩ => isFalse nofun

instance : DecidablePred IsNetworked
  | ⟨none, some r⟩ => isTrue ⟨r, rfl⟩
  | ⟨none, none⟩ => isFalse fun ⟨_, h⟩ => nomatch h
  | ⟨some _, _⟩ => isFalse fun ⟨_, h⟩ => nomatch h

instance : DecidablePred IsRefused := fun o =>
  inferInstanceAs (Decidable (¬o.Valid ∨ o.IsNetworked))

instance (o : StorageOptions) (c : Capability) : Decidable (o.Hides c) :=
  inferInstanceAs (Decidable (∃ m ∈ o.memory, m.hides c = true))

/-- Storages in a network are not available. -/
def unavailable (id : StorageId) : Error :=
  .config ("storage[" ++ id.text ++ "]: redis storage is not available in this build")

/-- Why the entry of that name is not set up, if it is not. -/
def refusal? (o : StorageOptions) (id : StorageId) : Option Error :=
  match o.kind id with
  | .error e => some e
  | .ok (.redis _) => some (unavailable id)
  | .ok (.memory _) => none

/-- An entry is valid exactly if the check finds out its kind. -/
theorem valid_iff (id : StorageId) : o.Valid ↔ ∃ k, o.kind id = .ok k := by
  constructor
  · intro h
    cases h with
    | memory hinterval htimeout =>
      exact ⟨_, kind_eq_memory_iff.mpr ⟨rfl, hinterval, htimeout⟩⟩
    | networked r => exact ⟨_, kind_eq_redis_iff.mpr rfl⟩
  -- conversely, the kind tells which entry it was
  · rintro ⟨m | r, hkind⟩
    · obtain ⟨rfl, hinterval, htimeout⟩ := kind_eq_memory_iff.mp hkind
      exact .memory hinterval htimeout
    · obtain rfl := kind_eq_redis_iff.mp hkind
      exact .networked r

/-- Entries for a network are valid. -/
theorem IsNetworked.valid (h : o.IsNetworked) : o.Valid := by
  obtain ⟨r, rfl⟩ := h
  exact .networked r

/-- An entry is for a network exactly if the check says so. -/
theorem isNetworked_iff (id : StorageId) : o.IsNetworked ↔ ∃ r, o.kind id = .ok (.redis r) :=
  exists_congr fun _ => kind_eq_redis_iff.symm

/-- The errors of the check name the entry. -/
theorem concerns_itemError (id : StorageId) (detail : String) :
    (itemError id detail).Concerns id := by
  refine ⟨"there is a configuration error on ", detail, ?_⟩
  have hopening : "there is a configuration error on " ++ "storage[" =
      "there is a configuration error on storage[" := by decide
  rw [hopening]
  rfl

/-- The error for an entry in a network names it. -/
theorem concerns_unavailable (id : StorageId) : (unavailable id).Concerns id := by
  refine ⟨"", "redis storage is not available in this build", ?_⟩
  have hdetail : "]: " ++ "redis storage is not available in this build" =
      "]: redis storage is not available in this build" := by decide
  rw [String.empty_append, String.append_assoc, hdetail]
  rfl

/-- Whatever is wrong with an entry, the error says which one it is. -/
theorem concerns_of_kind (h : o.kind id = .error e) : e.Concerns id := by
  obtain ⟨memory, redis⟩ := o
  -- an entry for nothing, and one for two kinds, are turned down at once
  cases memory <;> cases redis
  case none.none => exact Except.error.inj h ▸ concerns_itemError _ _
  case none.some => cases h
  case some.none m =>
    simp only [kind] at h
    split at h
    · exact Except.error.inj h ▸ concerns_itemError _ _
    · split at h
      · exact Except.error.inj h ▸ concerns_itemError _ _
      · cases h
  case some.some => exact Except.error.inj h ▸ concerns_itemError _ _

/-- An entry is refused with the error of the check, or because it is networked. -/
theorem refusal?_eq_some_iff : o.refusal? id = some e ↔
    o.kind id = .error e ∨ o.IsNetworked ∧ e = unavailable id := by
  rw [isNetworked_iff id, refusal?]
  cases hkind : o.kind id with
  | error e' => simp
  | ok k => cases k <;> simp [eq_comm]

/-- An entry is set up if it is valid and not in a network. -/
theorem refusal?_eq_none_iff : o.refusal? id = none ↔ o.Valid ∧ ¬o.IsNetworked := by
  rw [valid_iff id, isNetworked_iff id, refusal?]
  cases hkind : o.kind id with
  | error e => simp
  | ok k => cases k <;> simp

/-- An entry is refused exactly if there is an error for it. -/
theorem isRefused_iff : o.IsRefused ↔ ∃ e, o.refusal? id = some e := by
  rw [IsRefused, ← Option.ne_none_iff_exists', ne_eq, refusal?_eq_none_iff, not_and_not_right,
    imp_iff_not_or]

/-- Whatever an entry is refused for, the error says which one it is. -/
theorem concerns_of_refusal? (h : o.refusal? id = some e) : e.Concerns id := by
  obtain hkind | ⟨-, rfl⟩ := refusal?_eq_some_iff.mp h
  · exact concerns_of_kind hkind
  · exact concerns_unavailable id

end StorageOptions

/-! ### One entry after the other -/

/-- Why the first entry that is not set up is not, if there is one. -/
def StoragesOptions.refusal? (o : StoragesOptions) : Option Error :=
  o.findSome? fun x => x.2.refusal? x.1

namespace StoragesOptions

variable {o : StoragesOptions} {e : Error}

/-- The check accepts entries exactly if all of them are valid. -/
theorem validate_eq_ok_iff : validate o = .ok () ↔ ∀ x ∈ o, x.2.Valid := by
  induction o with
  | nil => simp [validate]
  | cons x o ih =>
    obtain ⟨id, item⟩ := x
    rw [validate, List.forall_mem_cons, StorageOptions.valid_iff id]
    cases item.kind id <;> simp [ih]

/-- The check passes over valid entries. -/
theorem validate_append {valid : StoragesOptions} (h : ∀ x ∈ valid, x.2.Valid)
    (o : StoragesOptions) : validate (valid ++ o) = validate o := by
  induction valid with
  | nil => rfl
  | cons x valid ih =>
    obtain ⟨id, item⟩ := x
    obtain ⟨hfirst, hlater⟩ := List.forall_mem_cons.mp h
    -- the check goes on behind a valid entry
    obtain ⟨k, hkind⟩ := (StorageOptions.valid_iff id).mp hfirst
    rw [List.cons_append, validate, hkind]
    exact ih hlater

/-- No entry is refused exactly if the check accepts all of them and none is in a network. -/
theorem refusal?_eq_none_iff :
    o.refusal? = none ↔ validate o = .ok () ∧ ∀ x ∈ o, ¬x.2.IsNetworked := by
  simp only [refusal?, List.findSome?_eq_none_iff, StorageOptions.refusal?_eq_none_iff,
    validate_eq_ok_iff, forall_and]

/-- What stands in for no entries is not refused. -/
theorem refusal?_orDefault (o : StoragesOptions) : o.orDefault.refusal? = o.refusal? := by
  cases o <;> rfl

/-- There is always an entry, since one stands in for none. -/
theorem length_orDefault_pos (o : StoragesOptions) : 0 < o.orDefault.length := by
  cases o with
  | nil => exact Nat.one_pos
  | cons x o => exact Nat.succ_pos _

end StoragesOptions

section SetUp

variable {id : StorageId} {item : StorageOptions} {o : StoragesOptions} {e : Error}

/-- An entry that is refused is not set up. -/
theorem addConfigured_of_refused (h : item.refusal? id = some e) (w : World) :
    ∃ w', w.addConfigured id item = (w', .error e) := by
  rw [World.addConfigured]
  obtain hkind | ⟨hnetworked, rfl⟩ := StorageOptions.refusal?_eq_some_iff.mp h
  · rw [hkind]
    exact ⟨w, rfl⟩
  · obtain ⟨r, hkind⟩ := (StorageOptions.isNetworked_iff id).mp hnetworked
    rw [hkind]
    exact ⟨w, rfl⟩

/-- A storage in memory has the capabilities that its entry does not hide. -/
theorem addConfigured_of_not_refused (h : item.refusal? id = none) (w : World) :
    ∃ w' s, w.addConfigured id item = (w', .ok s) ∧ ∀ c, s.has c = true ↔ ¬item.Hides c := by
  -- what is not refused is a storage in memory
  obtain ⟨m, hkind⟩ : ∃ m, item.kind id = .ok (.memory m) := by
    unfold StorageOptions.refusal? at h
    split at h
    next => exact nomatch h
    next => exact nomatch h
    next m hkind => exact ⟨m, hkind⟩
  rw [World.addConfigured, hkind]
  refine ⟨_, _, rfl, fun c => ?_⟩
  -- what is logged under a name has the capabilities of what is inside
  obtain ⟨rfl, -, -⟩ := StorageOptions.kind_eq_memory_iff.mp hkind
  cases c <;> simp [Storage.has, StorageOptions.Hides, MemoryOptions.hides]

/-- Entries are set up until one is refused. -/
theorem addAllConfigured_of_refused (h : o.refusal? = some e) (w : World) :
    ∃ w', w.addAllConfigured o = (w', .error e) := by
  induction o generalizing w with
  | nil => exact nomatch h
  | cons x o ih =>
    obtain ⟨id, item⟩ := x
    rw [StoragesOptions.refusal?, List.findSome?_cons] at h
    rw [World.addAllConfigured]
    cases hfirst : item.refusal? id with
    | some e' =>
      -- the entries behind it are not looked at
      rw [hfirst] at h
      obtain rfl := Option.some.inj h
      obtain ⟨w₁, hadd⟩ := addConfigured_of_refused hfirst w
      rw [hadd]
      exact ⟨w₁, rfl⟩
    | none =>
      rw [hfirst] at h
      obtain ⟨w₁, s, hadd, -⟩ := addConfigured_of_not_refused hfirst w
      obtain ⟨w₂, hrest⟩ := ih h w₁
      rw [hadd]
      dsimp only
      rw [hrest]
      exact ⟨w₂, rfl⟩

/-- Entries of which none is refused are all set up. -/
theorem addAllConfigured_of_not_refused (h : o.refusal? = none) (w : World) :
    ∃ w' storages, w.addAllConfigured o = (w', .ok storages) ∧ storages.length = o.length ∧
      ∀ c, Storage.anyHas c storages = true ↔ ∃ x ∈ o, ¬x.2.Hides c := by
  -- each entry is set up in the world that the one before has left
  induction o generalizing w with
  | nil => exact ⟨w, [], rfl, rfl, fun c => by simp [Storage.anyHas]⟩
  | cons x o ih =>
    obtain ⟨id, item⟩ := x
    obtain ⟨hfirst, hlater⟩ := List.forall_mem_cons.mp (List.findSome?_eq_none_iff.mp h)
    obtain ⟨w₁, s, hadd, hhas⟩ := addConfigured_of_not_refused hfirst w
    obtain ⟨w₂, storages, hrest, hlength, hany⟩ := ih (List.findSome?_eq_none_iff.mpr hlater) w₁
    refine ⟨w₂, (id, s) :: storages, ?_, congrArg (· + 1) hlength, fun c => ?_⟩
    · rw [World.addAllConfigured, hadd]
      dsimp only
      rw [hrest]
    · rw [Storage.anyHas, Bool.or_eq_true, hhas, hany, List.exists_mem_cons_iff]

/-- Storages are not set up if one of them is refused. -/
theorem configured_of_refused (h : o.refusal? = some e) (w : World) :
    (Storage.configured o w).2 = .error e := by
  -- the storages that stand in are never refused
  rw [← StoragesOptions.refusal?_orDefault] at h
  obtain ⟨w', hadd⟩ := addAllConfigured_of_refused h w
  rw [Storage.configured, hadd]

/-- Storages of which none is refused act as one, with the capabilities that one of them has. -/
theorem configured_of_not_refused (h : o.refusal? = none) (w : World) :
    ∃ s, (Storage.configured o w).2 = .ok s ∧
      ∀ c, s.has c = true ↔ ∃ x ∈ o.orDefault, ¬x.2.Hides c := by
  rw [← StoragesOptions.refusal?_orDefault] at h
  obtain ⟨w', storages, hadd, hlength, hany⟩ := addAllConfigured_of_not_refused h w
  -- there is at least one storage, since something stands in for no entries
  have hsome : storages.isEmpty = false := by
    rw [List.isEmpty_eq_false_iff, ← List.length_pos_iff, hlength]
    exact StoragesOptions.length_orDefault_pos o
  refine ⟨.decorated Storage.rootId (.multiplexer storages), ?_, fun c => ?_⟩
  · rw [Storage.configured, hadd]
    dsimp only
    rw [Storage.multiplex, hsome]
    rfl
  · rw [Storage.has, Storage.has, hany]

end SetUp

/-! ### The outcome -/

namespace StoragesOptions

variable {o : StoragesOptions} {e : Error}

/-- Setting up fails with the error, which is about this entry. Of those that are refused it comes
first in the order of the octets of the names. -/
structure StopsAt (o : StoragesOptions) (id : StorageId) (item : StorageOptions) (e : Error) :
    Prop where
  /-- It is one of the entries. -/
  mem : (id, item) ∈ o
  /-- It is refused. -/
  refused : item.IsRefused
  /-- All others that are refused come later. -/
  first : ∀ x ∈ o, x.2.IsRefused → x = (id, item) ∨ Text.octets id.text < Text.octets x.1.text
  /-- The error is about it. -/
  concerns : e.Concerns id
  /-- If it is not valid, the error is that of the check. -/
  invalid : ¬item.Valid → validate o = .error e
  /-- If it is networked, the error is that such storages are not available. -/
  networked : item.IsNetworked → e = StorageOptions.unavailable id

/-- Setting up these storages has the outcome that the check foretells. -/
structure SetUpAs (o : StoragesOptions) (outcome : Except Error Storage) : Prop where
  /-- The check accepts valid entries only. -/
  checked : validate o = .ok () ↔ ∀ x ∈ o, x.2.Valid
  /-- Entries are set up exactly if the check accepts them and none is networked. -/
  succeeds : (∃ s, outcome = .ok s) ↔ validate o = .ok () ∧ ∀ x ∈ o, ¬x.2.IsNetworked
  /-- An error is about the first entry that is refused. -/
  fails : ∀ e, outcome = .error e → ∃ id item, o.StopsAt id item e
  /-- The storage has the capabilities that some entry does not hide. -/
  able : ∀ s, outcome = .ok s → ∀ c, s.has c = true ↔ ∃ x ∈ o.orDefault, ¬x.2.Hides c

/-- In the order of their names, the octets of an entry come before those of all entries behind
it. -/
theorem octets_lt_of_mem {sooner later : StoragesOptions} {id : StorageId} {item : StorageOptions}
    (hsorted : (sooner ++ (id, item) :: later).Pairwise fun x y => before x.1 y.1 = true)
    {x : StorageId × StorageOptions} (hx : x ∈ later) :
    Text.octets id.text < Text.octets x.1.text := by
  obtain ⟨-, hbehind, -⟩ := List.pairwise_append.mp hsorted
  have hbefore : before id x.1 = true := (List.pairwise_cons.mp hbehind).1 x hx
  exact Text.lt_iff_octets_lt.mp (of_decide_eq_true hbefore)

/-- The check comes as far as setting up does: if the entry behind accepted ones is not valid, the
error is its own. -/
theorem validate_of_refused {accepted later : StoragesOptions} {id : StorageId}
    {item : StorageOptions} (haccepted : ∀ x ∈ accepted, x.2.Valid)
    (h : item.refusal? id = some e) (hnot : ¬item.Valid) :
    validate (accepted ++ (id, item) :: later) = .error e := by
  rw [validate_append haccepted, validate]
  obtain hkind | ⟨hnetworked, -⟩ := StorageOptions.refusal?_eq_some_iff.mp h
  · rw [hkind]
  · exact absurd hnetworked.valid hnot

/-- An error that stops setting up is about the first entry that is refused. -/
theorem exists_stopsAt (hsorted : o.Pairwise fun x y => before x.1 y.1 = true)
    (h : o.refusal? = some e) : ∃ id item, o.StopsAt id item e := by
  obtain ⟨accepted, ⟨id, item⟩, later, rfl, hrefusal, haccepted⟩ :=
    List.findSome?_eq_some_iff.mp h
  have hrefused : item.IsRefused := StorageOptions.isRefused_iff.mpr ⟨e, hrefusal⟩
  -- what comes before the first refusal is valid and not in a network
  have hvalid : ∀ x ∈ accepted, x.2.Valid ∧ ¬x.2.IsNetworked := fun x hx =>
    StorageOptions.refusal?_eq_none_iff.mp (haccepted x hx)
  refine ⟨id, item, by simp, hrefused, fun x hx hx' => ?_,
    StorageOptions.concerns_of_refusal? hrefusal,
    validate_of_refused (fun x hx => (hvalid x hx).1) hrefusal, fun hnetworked => ?_⟩
  · -- entries before this one are set up, and those behind it come later
    obtain hsooner | hx := List.mem_append.mp hx
    · obtain ⟨hok, hlocal⟩ := hvalid x hsooner
      exact absurd hx' (not_or.mpr ⟨not_not.mpr hok, hlocal⟩)
    · obtain rfl | hlater := List.mem_cons.mp hx
      · exact Or.inl rfl
      · exact Or.inr (octets_lt_of_mem hsorted hlater)
  · obtain ⟨r, hkind⟩ := (StorageOptions.isNetworked_iff id).mp hnetworked
    rw [StorageOptions.refusal?, hkind] at hrefusal
    exact (Option.some.inj hrefusal).symm

/-- Setting up storages that stand in the order of their names has the outcome that the check
foretells. -/
theorem setUpAs_configured (hsorted : o.Pairwise fun x y => before x.1 y.1 = true) (w : World) :
    o.SetUpAs (Storage.configured o w).2 := by
  -- whether an entry is refused decides, in the check as in setting up
  cases hrefusal : o.refusal? with
  | none =>
    obtain ⟨s, hs, hable⟩ := configured_of_not_refused hrefusal w
    rw [hs]
    refine ⟨validate_eq_ok_iff, iff_of_true ⟨s, rfl⟩ (refusal?_eq_none_iff.mp hrefusal), nofun, ?_⟩
    intro s' hs'
    exact Except.ok.inj hs' ▸ hable
  | some e =>
    have hnot : ¬(validate o = .ok () ∧ ∀ x ∈ o, ¬x.2.IsNetworked) := fun hok =>
      nomatch hrefusal.symm.trans (refusal?_eq_none_iff.mpr hok)
    rw [configured_of_refused hrefusal w]
    refine ⟨validate_eq_ok_iff, iff_of_false nofun hnot, ?_, nofun⟩
    intro e' he'
    exact Except.error.inj he' ▸ exists_stopsAt hsorted hrefusal

end StoragesOptions

namespace ServerOptions

variable {o : ServerOptions}

/-- Settings are valid if those of each part are. -/
theorem validate_eq_ok_iff : o.validate = .ok () ↔ o.http.validate = .ok () ∧
    StoragesOptions.validate o.storages = .ok () ∧
    ∃ c, Catalogue.ofRules o.channels = .ok c := by
  unfold validate
  cases o.http.validate <;> cases StoragesOptions.validate o.storages <;>
    cases Catalogue.ofRules o.channels <;> simp [bind, Except.bind, Except.mapError]

/-- A server is started if its channels and storages can be set up. -/
theorem exists_start {c : Catalogue} (hchannels : Catalogue.ofRules o.channels = .ok c)
    (hstorages : ∀ w, ∃ s, (Storage.configured o.storages w).2 = .ok s) (filter : LogFilter)
    (clock : Timestamp) : ∃ server, (Http.Server.start o filter clock).2 = .ok server := by
  unfold Http.Server.start
  rw [hchannels]
  dsimp only
  obtain ⟨s, hs⟩ := hstorages (.start clock ⟨.catalogue c, false, 0, some (.start clock)⟩ filter)
  split
  next heq => rw [heq] at hs; exact nomatch hs
  next => exact ⟨_, rfl⟩

/-- Storages are set up with the outcome that the check foretells. So accepted settings that name no
storages in a network can be set up: their channels, their storages, and the server itself. -/
theorem set_up_as_checked :
    (∀ (o : StoragesOptions) (w : World),
      (o.Pairwise fun x y => StoragesOptions.before x.1 y.1 = true) →
        o.SetUpAs (Storage.configured o w).2) ∧
    ∀ text given o, parse text given = .ok o → (∀ x ∈ o.storages, ¬x.2.IsNetworked) →
      (∃ c, Catalogue.ofRules o.channels = .ok c) ∧
      (∀ w, ∃ s, (Storage.configured o.storages w).2 = .ok s) ∧
      ∀ filter clock, ∃ server, (Http.Server.start o filter clock).2 = .ok server := by
  refine ⟨fun o w hsorted => StoragesOptions.setUpAs_configured hsorted w, ?_⟩
  intro text given o hparse hlocal
  -- accepted settings have passed the check
  obtain ⟨-, -, -, hvalid⟩ := parse_eq_ok_iff.mp hparse
  obtain ⟨-, hstorages, c, hchannels⟩ := validate_eq_ok_iff.mp hvalid
  have hrefusal := StoragesOptions.refusal?_eq_none_iff.mpr ⟨hstorages, hlocal⟩
  have hconfigured := fun w => (configured_of_not_refused hrefusal w).imp fun _ h => h.1
  exact ⟨⟨c, hchannels⟩, hconfigured, exists_start hchannels hconfigured⟩

namespace Sample

/-- The settings of a storage for revocations. -/
def tokenOptions : MemoryOptions := { MemoryOptions.default with disablePubSub := true }

/-- A storage for revocations, one in a network, and one of no kind, in the order of the octets of
their names. -/
def mixed : StoragesOptions :=
  [(⟨"tokens"⟩, ⟨some tokenOptions, none⟩), (⟨"zone"⟩, ⟨none, some ⟨none, none⟩⟩),
    (⟨"étage"⟩, ⟨none, none⟩)]

/-- A world without backends. -/
def quiet : World := .start (.clamp 0) ⟨.uniform (.seconds 60), false, 0, none⟩ ⟨"off", []⟩

/-- Settings with a storage for revocations, and one for nothing. -/
def tokensOnly : String :=
  "storages:\n  tokens: \x7bonmemory: \x7bdisablePubSub: true\x7d\x7d\n" ++
    "  idle: \x7bonmemory: \x7bdisablePubSub: true, disableJwt: true\x7d\x7d\n"

/-- The storages of these settings, in the order of their names. -/
def idleAndTokens : StoragesOptions :=
  [(⟨"idle"⟩, ⟨some { tokenOptions with disableJwt := true }, none⟩),
    (⟨"tokens"⟩, ⟨some tokenOptions, none⟩)]

end Sample

/-- The entry for a network comes first in the order of octets, and the settings for revocations
alone can be set up. -/
theorem set_up_as_checked_sample :
    (Sample.mixed.Pairwise fun x y => StoragesOptions.before x.1 y.1 = true) ∧
      Sample.mixed.validate =
        .error (StorageOptions.itemError ⟨"étage"⟩ "no storage type under the item") ∧
      (Storage.configured Sample.mixed Sample.quiet).2 =
        .error (StorageOptions.unavailable ⟨"zone"⟩) ∧
      ∃ o, parse Sample.tokensOnly .none = .ok o ∧ (∀ x ∈ o.storages, ¬x.2.IsNetworked) ∧
        (∃ server, (Http.Server.start o ⟨"off", []⟩ (.clamp 0)).2 = .ok server) ∧
        ∃ s, (Storage.configured o.storages Sample.quiet).2 = .ok s ∧
          s.has .pubsub = false ∧ s.has .jwt = true := by
  obtain ⟨hsetUp, hstart⟩ := set_up_as_checked
  -- the names are in the order of their octets, which is not the one of letters
  have hsorted : Sample.mixed.Pairwise fun x y => StoragesOptions.before x.1 y.1 = true := by
    decide +kernel
  refine ⟨hsorted, rfl, ?_, ?_⟩
  · have hmixed := hsetUp Sample.mixed Sample.quiet hsorted
    cases houtcome : (Storage.configured Sample.mixed Sample.quiet).2 with rw [houtcome] at hmixed
    | ok s => exact absurd (hmixed.succeeds.mp ⟨s, rfl⟩).2 (by decide)
    | error e =>
      obtain ⟨id, item, hstops⟩ := hmixed.fails e rfl
      -- the entry of no kind is refused, too, but the octets of its name come later
      have hnone : ∀ x ∈ Sample.mixed, x.2.IsRefused →
          ¬Text.octets x.1.text < Text.octets "zone" := by decide +kernel
      obtain heq | hbefore := hstops.first (⟨"zone"⟩, ⟨none, some ⟨none, none⟩⟩) (by decide)
        (by decide)
      · obtain ⟨rfl, rfl⟩ := Prod.mk.inj heq
        exact congrArg Except.error (hstops.networked ⟨_, rfl⟩)
      · exact absurd hbefore (hnone _ hstops.mem hstops.refused)
  · have hstorages : (parse Sample.tokensOnly .none).toOption.map (·.storages) =
        some Sample.idleAndTokens := by decide +kernel
    cases hparse : parse Sample.tokensOnly .none with rw [hparse] at hstorages
    | error e => exact nomatch hstorages
    | ok o =>
      have heq : o.storages = Sample.idleAndTokens := Option.some.inj hstorages
      have hlocal : ∀ x ∈ o.storages, ¬x.2.IsNetworked := by rw [heq]; decide
      obtain ⟨-, hconfigured, hserver⟩ := hstart _ _ _ hparse hlocal
      obtain ⟨s, hs⟩ := hconfigured Sample.quiet
      have hable := (hsetUp o.storages Sample.quiet (by rw [heq]; decide +kernel)).able s hs
      rw [heq] at hable
      refine ⟨o, rfl, hlocal, hserver _ _, s, hs, ?_, ?_⟩
      · rw [Bool.eq_false_iff, ne_eq, hable]
        decide
      · rw [hable]
        decide

end ServerOptions

end LongPoll
