import LongPoll.Channel.Catalogue
import LongPoll.Proofs.Time.Duration
/-!
# How rules make a channel

A catalogue folds over the rules that apply to a name, and keeps the longest expiry and the first
token policy. Read as a law, the expiry is the greatest of the rules that apply and so does not
depend on their order, while the policy is that of the first rule in the list that applies and has
one. Rules added at the end can therefore add names, lengthen expiries and give a policy to channels
without one, but never take anything away.

* `Catalogue.matching`: the rules that apply to a name.
* `Catalogue.FirstPolicy`: the policy of the first rule that applies and has one.
* `Catalogue.Resolves`: the channel that the rules make of a name.
* `channel_merges_matching_rules`: a catalogue finds that channel, and added rules only add to it.
-/

namespace LongPoll

namespace Duration

variable {d : Duration} {ds : List Duration} {n : Nat}

/-- The length of the longer duration is the greater length. -/
@[simp]
theorem nanos_max (a b : Duration) : (a.max b).nanos = Nat.max a.nanos b.nanos := by
  unfold Duration.max
  split
  next h => exact (Nat.max_eq_right h).symm
  next h => exact (Nat.max_eq_left (Nat.le_of_not_le h)).symm

/-- The longest of several durations is the least one that none of them exceeds. -/
theorem nanos_foldl_max_le_iff :
    (ds.foldl max d).nanos ≤ n ↔ d.nanos ≤ n ∧ ∀ d' ∈ ds, d'.nanos ≤ n := by
  induction ds generalizing d with
  | nil => simp
  | cons d' ds ih =>
    rw [List.foldl_cons, ih, nanos_max, List.forall_mem_cons, ← and_assoc]
    exact and_congr_left fun _ => Nat.max_le

theorem nanos_le_foldl_max {d' : Duration} (h : d' ∈ ds) : d'.nanos ≤ (ds.foldl max d).nanos :=
  (nanos_foldl_max_le_iff.mp (Nat.le_refl _)).2 d' h

/-- Durations of which each one is among the others too have the same longest one. -/
theorem foldl_max_congr {ds' : List Duration} (h : ∀ d', d' ∈ ds ↔ d' ∈ ds') :
    ds.foldl max d = ds'.foldl max d := by
  refine ext_nanos (Nat.le_antisymm ?_ ?_) <;> rw [nanos_foldl_max_le_iff]
  · exact ⟨(nanos_foldl_max_le_iff.mp (Nat.le_refl _)).1,
      fun d' hd' => nanos_le_foldl_max ((h d').mp hd')⟩
  · exact ⟨(nanos_foldl_max_le_iff.mp (Nat.le_refl _)).1,
      fun d' hd' => nanos_le_foldl_max ((h d').mpr hd')⟩

/-- The longest duration is one of them. -/
theorem foldl_max_mem (d : Duration) (ds : List Duration) : ds.foldl max d ∈ d :: ds := by
  induction ds generalizing d with
  | nil => exact List.mem_singleton_self d
  | cons d' ds ih =>
    -- the longer of two durations is one of the two
    have hmax : d.max d' = d ∨ d.max d' = d' := by
      unfold Duration.max
      split
      · exact Or.inr rfl
      · exact Or.inl rfl
    rw [List.foldl_cons]
    obtain hfirst | hlater := List.mem_cons.mp (ih (d.max d'))
    · rw [hfirst]
      obtain heq | heq := hmax <;> simp [heq]
    · exact List.mem_cons_of_mem _ (List.mem_cons_of_mem _ hlater)

/-- Of several durations, if there are any, the longest is one of them even when nothing is the
least that it can be. -/
theorem foldl_max_zero_mem (h : ds ≠ []) : ds.foldl max zero ∈ ds := by
  obtain hzero | hmem := List.mem_cons.mp (foldl_max_mem zero ds)
  · -- None of them is longer than nothing, so that each of them is nothing.
    obtain ⟨d, rest, rfl⟩ := List.exists_cons_of_ne_nil h
    have hle : d.nanos ≤ zero.nanos := hzero ▸ nanos_le_foldl_max List.mem_cons_self
    have hd : d = zero := ext_nanos (Nat.eq_zero_of_le_zero hle)
    rw [hzero, hd]
    exact List.mem_cons_self
  · exact hmem

end Duration

namespace Catalogue

variable {c : Catalogue} {id : ChannelId} {ch : Channel}

/-- The rules that apply to the name, in order. -/
def matching (c : Catalogue) (id : ChannelId) : List CatalogueEntry :=
  c.entries.filter (·.appliesTo id)

/-- The catalogue with rules added at the end. -/
def extend (c : Catalogue) (more : List CatalogueEntry) : Catalogue := ⟨c.entries ++ more⟩

/-- The rules for a name are those of the catalogue that apply to it. -/
theorem mem_matching_iff {e : CatalogueEntry} :
    e ∈ c.matching id ↔ e ∈ c.entries ∧ e.appliesTo id = true := List.mem_filter

/-- Rules added at the end stand behind those that applied before. -/
theorem matching_extend (c : Catalogue) (more : List CatalogueEntry) (id : ChannelId) :
    (c.extend more).matching id = c.matching id ++ more.filter (·.appliesTo id) :=
  List.filter_append ..

/-- The policy is that of the first rule in the list that applies to the name and has one. -/
def FirstPolicy (c : Catalogue) (id : ChannelId) (p : JwtPolicy) : Prop :=
  ∃ before e after, c.entries = before ++ e :: after ∧ e.appliesTo id = true ∧ e.jwt = some p ∧
    ∀ e' ∈ before, e'.appliesTo id = true → e'.jwt = none

/-- The channel is what the rules of the catalogue make of the name. -/
structure Resolves (c : Catalogue) (id : ChannelId) (ch : Channel) : Prop where
  /-- The channel has that name. -/
  name : ch.id = id
  /-- Some rule that applies has its expiry. -/
  expire_mem : ∃ e ∈ c.matching id, e.expire = ch.expire
  /-- No rule that applies has a longer one. -/
  expire_le : ∀ e ∈ c.matching id, e.expire.nanos ≤ ch.expire.nanos
  /-- Its policy is the first one, and it has none if there is no first one. -/
  policy : ∀ p, ch.jwt = some p ↔ c.FirstPolicy id p
  /-- The leeway that it grants is at most the greatest that any rule grants. -/
  leeway : ∀ p ∈ ch.jwt, p.leeway.nanos ≤ c.maxLeeway.nanos

/-! ### Merging -/

/-- Rules are merged into the longest expiry and the first policy. -/
theorem merge_eq (entries : List CatalogueEntry) : merge entries =
    ((entries.map (·.expire)).foldl Duration.max .zero, entries.findSome? (·.jwt)) := by
  -- the fold goes on from what was merged so far, so the statement is about any such start
  suffices h : ∀ expire jwt, entries.foldl
      (fun merged (e : CatalogueEntry) => (merged.1.max e.expire, merged.2 <|> e.jwt))
      (expire, jwt) = ((entries.map (·.expire)).foldl Duration.max expire,
        jwt <|> entries.findSome? (·.jwt)) from h _ _
  induction entries with
  | nil => simp
  | cons e entries ih =>
    intro expire jwt
    rw [List.foldl_cons, List.map_cons, List.foldl_cons, List.findSome?_cons, ih]
    cases jwt <;> cases e.jwt <;> rfl

/-- A name without any rule is invalid, and otherwise the rules for it are merged. -/
theorem find_eq (c : Catalogue) (id : ChannelId) : c.find id =
    if (c.matching id).isEmpty then .error (.invalidChannel id.text)
    else .ok ⟨id, ((c.matching id).map (·.expire)).foldl Duration.max .zero,
      (c.matching id).findSome? (·.jwt)⟩ := by
  unfold find
  rw [← matching]
  cases hmatching : c.matching id with
  | nil => rfl
  | cons e entries =>
    rw [if_neg (by simp)]
    dsimp only
    rw [merge_eq]

/-- A channel is found exactly if some rule applies, and it is what they merge into. -/
theorem find_eq_ok_iff : c.find id = .ok ch ↔ c.matching id ≠ [] ∧
    ch = ⟨id, ((c.matching id).map (·.expire)).foldl Duration.max .zero,
      (c.matching id).findSome? (·.jwt)⟩ := by
  rw [find_eq]
  split
  next h => exact ⟨nofun, fun hfound => absurd (List.isEmpty_iff.mp h) hfound.1⟩
  next h =>
    have hsome : c.matching id ≠ [] := fun hnil => h (List.isEmpty_iff.mpr hnil)
    exact ⟨fun hfound => ⟨hsome, (Except.ok.inj hfound).symm⟩, fun hch => congrArg _ hch.2.symm⟩

/-- There is a channel exactly if some rule of the catalogue applies. -/
theorem exists_find_iff :
    (∃ ch, c.find id = .ok ch) ↔ ∃ e ∈ c.entries, e.appliesTo id = true := by
  constructor
  · rintro ⟨ch, h⟩
    obtain ⟨e, rest, he⟩ := List.exists_cons_of_ne_nil (find_eq_ok_iff.mp h).1
    exact ⟨e, mem_matching_iff.mp (he ▸ List.mem_cons_self)⟩
  · rintro ⟨e, he⟩
    exact ⟨_, find_eq_ok_iff.mpr ⟨List.ne_nil_of_mem (mem_matching_iff.mpr he), rfl⟩⟩

/-- A name that no rule applies to is invalid. -/
theorem find_of_none (h : ∀ e ∈ c.entries, e.appliesTo id = false) :
    c.find id = .error (.invalidChannel id.text) := by
  have hnone : c.matching id = [] := by simpa [matching] using h
  rw [find_eq, hnone]
  rfl

/-- The greatest leeway is that of the policies of all rules. -/
theorem maxLeeway_eq (c : Catalogue) : c.maxLeeway =
    ((c.entries.filterMap (·.jwt)).map (·.leeway)).foldl Duration.max .zero :=
  List.foldl_map.symm

/-! ### What the merge is -/

/-- The first policy among the rules for a name is the first one in the catalogue that applies. -/
theorem findSome?_matching_eq_some_iff {p : JwtPolicy} :
    (c.matching id).findSome? (·.jwt) = some p ↔ c.FirstPolicy id p := by
  -- to look among the rules that apply is to pass over those that do not
  rw [matching, ← List.head?_filterMap, List.filterMap_filter, List.head?_filterMap,
    List.findSome?_eq_some_iff]
  simp [FirstPolicy, and_assoc]

/-- No policy grants more than the greatest leeway. -/
theorem leeway_le_maxLeeway {e : CatalogueEntry} {p : JwtPolicy} (he : e ∈ c.entries)
    (hp : e.jwt = some p) : p.leeway.nanos ≤ c.maxLeeway.nanos := by
  rw [maxLeeway_eq]
  exact Duration.nanos_le_foldl_max
    (List.mem_map_of_mem (List.mem_filterMap.mpr ⟨e, he, hp⟩))

/-- The greatest leeway is no smaller with more rules. -/
theorem maxLeeway_le_extend (c : Catalogue) (more : List CatalogueEntry) :
    c.maxLeeway.nanos ≤ (c.extend more).maxLeeway.nanos := by
  rw [maxLeeway_eq, maxLeeway_eq, Duration.nanos_foldl_max_le_iff]
  refine ⟨Nat.zero_le _, fun d hd => Duration.nanos_le_foldl_max ?_⟩
  rw [extend, List.filterMap_append, List.map_append]
  exact List.mem_append_left _ hd

/-- What is found is what the rules make of the name. -/
theorem resolves_of_find (h : c.find id = .ok ch) : c.Resolves id ch := by
  obtain ⟨hsome, rfl⟩ := find_eq_ok_iff.mp h
  have hexpires : (c.matching id).map (·.expire) ≠ [] := by simpa using hsome
  exact {
    name := rfl
    expire_mem := List.mem_map.mp (Duration.foldl_max_zero_mem hexpires)
    expire_le := fun e he => Duration.nanos_le_foldl_max (List.mem_map_of_mem he)
    policy := fun p => findSome?_matching_eq_some_iff
    leeway := fun p hp => by
      obtain ⟨e, he, hjwt⟩ := List.exists_of_findSome?_eq_some hp
      exact leeway_le_maxLeeway (mem_matching_iff.mp he).1 hjwt }

/-- Where the same rules apply, in whatever order, the expiry is the same. -/
theorem find_of_perm {c' : Catalogue} (h : c.find id = .ok ch)
    (hperm : (c'.matching id).Perm (c.matching id)) :
    ∃ ch', c'.find id = .ok ch' ∧ ch'.expire = ch.expire := by
  obtain ⟨hsome, rfl⟩ := find_eq_ok_iff.mp h
  have hsome' : c'.matching id ≠ [] := fun hnil => hsome (hnil ▸ hperm).nil_eq.symm
  refine ⟨_, find_eq_ok_iff.mpr ⟨hsome', rfl⟩, Duration.foldl_max_congr fun d => ?_⟩
  exact (hperm.map (·.expire)).mem_iff

/-- Rules added at the end take nothing away from a channel. -/
theorem find_extend (h : c.find id = .ok ch) (more : List CatalogueEntry) :
    ∃ ch', (c.extend more).find id = .ok ch' ∧ ch.expire.nanos ≤ ch'.expire.nanos ∧
      ∀ p, ch.jwt = some p → ch'.jwt = some p := by
  obtain ⟨hsome, rfl⟩ := find_eq_ok_iff.mp h
  have hmore := matching_extend c more id
  have hsome' : (c.extend more).matching id ≠ [] := by
    rw [hmore]
    exact List.append_ne_nil_of_left_ne_nil hsome _
  refine ⟨_, find_eq_ok_iff.mpr ⟨hsome', rfl⟩, ?_, fun p hp => ?_⟩
  · refine Duration.nanos_foldl_max_le_iff.mpr ⟨Nat.zero_le _, fun d hd => ?_⟩
    -- each rule that applied before still does
    refine Duration.nanos_le_foldl_max ?_
    rw [hmore, List.map_append]
    exact List.mem_append_left _ hd
  -- the rules that applied before come first
  · change ((c.extend more).matching id).findSome? (·.jwt) = some p
    have hfirst : (c.matching id).findSome? (·.jwt) = some p := hp
    rw [hmore, List.findSome?_append, hfirst, Option.some_or]

/-- A catalogue finds a channel if some rule applies to its name, and it is what the rules that apply
make of it. The expiry does not depend on their order. Rules added at the end take nothing away: the
name still has a channel, with an expiry that is no shorter and with the policy that it had, and the
greatest leeway is no smaller. -/
theorem channel_merges_matching_rules (c : Catalogue) (id : ChannelId) :
    ((∃ ch, c.find id = .ok ch) ↔ ∃ e ∈ c.entries, e.appliesTo id = true) ∧
    ((∀ e ∈ c.entries, e.appliesTo id = false) → c.find id = .error (.invalidChannel id.text)) ∧
    (∀ ch, c.find id = .ok ch →
      c.Resolves id ch ∧
      (∀ c' : Catalogue, (c'.matching id).Perm (c.matching id) →
        ∃ ch', c'.find id = .ok ch' ∧ ch'.expire = ch.expire) ∧
      ∀ more, ∃ ch', (c.extend more).find id = .ok ch' ∧ ch.expire.nanos ≤ ch'.expire.nanos ∧
        ∀ p, ch.jwt = some p → ch'.jwt = some p) ∧
    ∀ more, c.maxLeeway.nanos ≤ (c.extend more).maxLeeway.nanos :=
  ⟨exists_find_iff, find_of_none,
    fun _ h => ⟨resolves_of_find h, fun _ => find_of_perm h, find_extend h⟩,
    c.maxLeeway_le_extend⟩

namespace Sample

/-- The policy of secure rooms. -/
def strict : JwtPolicy := ⟨["https://issuer.example.com"], .seconds 5⟩

/-- The policy of all other rooms. -/
def lenient : JwtPolicy := ⟨["https://other.example.com"], .seconds 30⟩

/-- Rooms, secure rooms, and everything. -/
def rules : List ChannelRule :=
  [⟨"chat-.+", .seconds 60, none⟩, ⟨"chat-secure-.+", .seconds 300, some strict⟩,
    ⟨".+", .seconds 10, some lenient⟩]

/-- The rules with their patterns read. -/
def catalogue : Catalogue := (ofRules rules).toOption.getD ⟨[]⟩

/-- A secure room, to which all of the rules apply. -/
def secure : ChannelId := ⟨"chat-secure-1", by decide +kernel⟩

end Sample

/-- Of three rules that apply, the second has the longest expiry and the first policy. -/
theorem channel_merges_matching_rules_secure :
    Sample.catalogue.find Sample.secure =
      .ok ⟨Sample.secure, .seconds 300, some Sample.strict⟩ ∧
    Sample.catalogue.FirstPolicy Sample.secure Sample.strict ∧
    Sample.strict.leeway.nanos ≤ Sample.catalogue.maxLeeway.nanos ∧
    Sample.catalogue.maxLeeway = .seconds 30 ∧
    ∃ ch, (Sample.catalogue.extend Sample.catalogue.entries).find Sample.secure = .ok ch ∧
      ch.jwt = some Sample.strict := by
  have hfind : Sample.catalogue.find Sample.secure =
      .ok ⟨Sample.secure, .seconds 300, some Sample.strict⟩ := by
    have hsome : (Sample.catalogue.find Sample.secure).toOption =
        some ⟨Sample.secure, .seconds 300, some Sample.strict⟩ := by decide +kernel
    -- errors are not decidable, so the channel is found by its parts
    cases hresult : Sample.catalogue.find Sample.secure with rw [hresult] at hsome
    | error e => exact nomatch hsome
    | ok ch => exact congrArg Except.ok (Option.some.inj hsome)
  -- the general statement about this catalogue, with its rules once more at the end
  obtain ⟨-, -, hfound, -⟩ := channel_merges_matching_rules Sample.catalogue Sample.secure
  obtain ⟨hresolves, -, hextend⟩ := hfound _ hfind
  obtain ⟨ch, hch, -, hpolicy⟩ := hextend Sample.catalogue.entries
  exact ⟨hfind, (hresolves.policy _).mp rfl, hresolves.leeway _ rfl, by decide +kernel, ch, hch,
    hpolicy _ rfl⟩

end Catalogue

end LongPoll
