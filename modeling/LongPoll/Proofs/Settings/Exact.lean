import LongPoll.Proofs.Settings.Reading
import LongPoll.Settings.Server
/-!
# Settings are read as they are written

Settings are written in full: every field is written, with the value that was read or that stands in
for one, except an optional block that is left out. A document that says what was written is read as
the very same settings if these are exact: the durations are whole milliseconds, the port is a
number of 16 bits, and the storages stand in the order of their names. All settings that are read
from a document are exact.

* `ServerOptions.Exact`, with one such predicate for each part: the settings are exact.
* `ServerOptions.reads_toJson`: exact settings are read as they are written.
* `ServerOptions.yields_ofDocument?`: what is read is exact.
-/

namespace LongPoll

open Document

/-! ### Exact settings -/

/-- The durations are whole milliseconds. -/
structure MemoryOptions.Exact (o : MemoryOptions) : Prop where
  /-- The time between two passes is. -/
  interval : o.collectInterval.IsWhole
  /-- The time for a pass is. -/
  timeout : o.collectTimeout.IsWhole

/-- The durations are whole milliseconds. -/
def StorageOptions.Exact (o : StorageOptions) : Prop := ∀ m ∈ o.memory, m.Exact

/-- The durations are whole milliseconds, and the entries stand in the order of their names, no two
of them under the same one. -/
structure StoragesOptions.Exact (o : StoragesOptions) : Prop where
  /-- The entries stand in their order. -/
  sorted : o.Pairwise fun e e' => before e.1 e'.1 = true
  /-- The durations are whole milliseconds. -/
  entries : ∀ e ∈ o, e.2.Exact

/-- The durations are whole milliseconds. -/
structure ChannelRule.Exact (r : ChannelRule) : Prop where
  /-- The time after which messages expire is. -/
  expire : r.expire.IsWhole
  /-- The time that a clock may be off is. -/
  leeway : ∀ p ∈ r.jwt, p.leeway.IsWhole

/-- The port is a number of 16 bits, and the duration is whole milliseconds. -/
structure HttpOptions.Exact (o : HttpOptions) : Prop where
  /-- The port is a number of 16 bits. -/
  port : o.port < Word.values16
  /-- The longest time that a request may wait is whole milliseconds. -/
  maxWait : o.maxWait.IsWhole

/-- The settings are exact. -/
structure ServerOptions.Exact (o : ServerOptions) : Prop where
  /-- Those of the HTTP interface are. -/
  http : o.http.Exact
  /-- Those of channels are. -/
  channels : ∀ r ∈ o.channels, r.Exact
  /-- Those of storages are. -/
  storages : StoragesOptions.Exact o.storages

/-! ### Reading what is written -/

/-- Exact settings of a storage in memory are read as they are written. -/
theorem MemoryOptions.reads_toJson {o : MemoryOptions} (h : o.Exact) :
    Reads ofDocument? o.toJson o := by
  intro d hd
  obtain ⟨fields, hfields, hsay⟩ := fields?_of_value?
    ["disablePubSub", "disableJwt", "gcInterval", "gcTimeout"] hd (by simp) (by simp)
  rw [ofDocument?, hfields]
  simp only [Option.bind_eq_bind, Option.bind_some,
    hsay.getD?_of_find? "disablePubSub" rfl (reads_bool _),
    hsay.getD?_of_find? "disableJwt" rfl (reads_bool _),
    hsay.getD?_of_find? "gcInterval" rfl (reads_duration h.interval),
    hsay.getD?_of_find? "gcTimeout" rfl (reads_duration h.timeout)]

/-- Settings of a storage in a network are read as they are written. -/
theorem RedisOptions.reads_toJson (o : RedisOptions) : Reads ofDocument? o.toJson o := by
  intro d hd
  obtain ⟨fields, hfields, hsingle, hcluster⟩ := fields?_of_options (by decide) Json.text Json.texts
    hd (fun s _ => reads_text s) (fun ss _ => reads_texts ss) nofun nofun
  rw [ofDocument?, hfields]
  simp only [Option.bind_eq_bind, Option.bind_some, hsingle, hcluster]

/-- An exact entry is read as it is written. -/
theorem StorageOptions.reads_toJson {o : StorageOptions} (h : o.Exact) :
    Reads ofDocument? o.toJson o := by
  intro d hd
  obtain ⟨fields, hfields, hmemory, hredis⟩ := fields?_of_options (by decide) MemoryOptions.toJson
    RedisOptions.toJson hd (fun m hm => MemoryOptions.reads_toJson (h m hm))
    (fun r _ => r.reads_toJson) nofun nofun
  rw [ofDocument?, hfields]
  simp only [Option.bind_eq_bind, Option.bind_some, hmemory, hredis]

/-- A policy is read as it is written if its leeway is whole milliseconds. -/
theorem JwtPolicy.reads_toJson {p : JwtPolicy} (h : p.leeway.IsWhole) :
    Reads ofDocument? p.toJson p := by
  intro d hd
  obtain ⟨fields, hfields, hsay⟩ := fields?_of_value? ["iss", "clockSkewLeeway"] hd
    (by simp) (by simp)
  rw [ofDocument?, hfields]
  simp only [Option.bind_eq_bind, Option.bind_some,
    hsay.getD?_of_find? "iss" rfl (reads_texts _),
    hsay.getD?_of_find? "clockSkewLeeway" rfl (reads_duration h)]

/-- An exact rule is read as it is written. -/
theorem ChannelRule.reads_toJson {r : ChannelRule} (h : r.Exact) :
    Reads ofDocument? r.toJson r := by
  obtain ⟨pattern, expire, jwt⟩ := r
  intro d hd
  obtain ⟨fields, hfields, hsay⟩ := fields?_of_value? ["regex", "expire", "jwt"] hd
    (by cases jwt <;> simp) (by cases jwt <;> simp)
  -- a rule has to have a pattern, and all else may be left out
  have hpattern := hsay.require?_of_find? "regex" rfl (reads_text _)
  have hjwt := hsay.getD?_option "jwt" JwtPolicy.toJson jwt
    (by cases jwt <;> rfl) (fun p hp => JwtPolicy.reads_toJson (h.leeway p hp)) nofun
  rw [ofDocument?, hfields]
  simp only [Option.bind_eq_bind, Option.bind_some, hpattern,
    hsay.getD?_of_find? "expire" rfl (reads_duration h.expire), hjwt]

/-- Settings of the log are read as they are written. -/
theorem LogOptions.reads_toJson (o : LogOptions) : Reads ofDocument? o.toJson o := by
  intro d hd
  obtain ⟨fields, hfields, hsay⟩ := fields?_of_value? ["filter", "json"] hd
    (by simp) (by simp)
  rw [ofDocument?, hfields]
  simp only [Option.bind_eq_bind, Option.bind_some,
    hsay.getD?_of_find? "filter" rfl (reads_text _),
    hsay.getD?_of_find? "json" rfl (reads_bool _)]

/-- Exact settings of the HTTP interface are read as they are written. -/
theorem HttpOptions.reads_toJson {o : HttpOptions} (h : o.Exact) :
    Reads ofDocument? o.toJson o := by
  intro d hd
  obtain ⟨fields, hfields, hsay⟩ := fields?_of_value?
    ["listen", "port", "pathPrefix", "longPollingMaxTimeout"] hd (by simp) (by simp)
  rw [ofDocument?, hfields]
  simp only [Option.bind_eq_bind, Option.bind_some,
    hsay.getD?_of_find? "listen" rfl (reads_text _),
    hsay.getD?_of_find? "port" rfl (reads_nat h.port),
    hsay.getD?_of_find? "pathPrefix" rfl (reads_text _),
    hsay.getD?_of_find? "longPollingMaxTimeout" rfl (reads_duration h.maxWait)]

/-! ### What is read -/

/-- Settings of a storage in memory that are read are exact. -/
theorem MemoryOptions.yields_ofDocument? : Yields ofDocument? Exact := by
  intro d o h
  simp only [ofDocument?, Option.bind_eq_bind, Option.bind_eq_some_iff] at h
  obtain ⟨fields, -, _, -, _, -, interval, hinterval, timeout, htimeout, h⟩ := h
  obtain rfl := Option.some.inj h
  exact ⟨yields_duration.getD? hinterval (by decide), yields_duration.getD? htimeout (by decide)⟩

/-- An entry that is read is exact. -/
theorem StorageOptions.yields_ofDocument? : Yields ofDocument? Exact := by
  intro d o h
  simp only [ofDocument?, Option.bind_eq_bind, Option.bind_eq_some_iff] at h
  obtain ⟨fields, -, memory, hmemory, _, -, h⟩ := h
  obtain rfl := Option.some.inj h
  exact MemoryOptions.yields_ofDocument?.option.getD? hmemory nofun

/-- A policy that is read has a leeway of whole milliseconds. -/
theorem JwtPolicy.yields_ofDocument? : Yields ofDocument? fun p => p.leeway.IsWhole := by
  intro d p h
  simp only [ofDocument?, Option.bind_eq_bind, Option.bind_eq_some_iff] at h
  obtain ⟨fields, -, _, -, leeway, hleeway, h⟩ := h
  obtain rfl := Option.some.inj h
  exact yields_duration.getD? hleeway (by decide)

/-- A rule that is read is exact. -/
theorem ChannelRule.yields_ofDocument? : Yields ofDocument? Exact := by
  intro d r h
  simp only [ofDocument?, Option.bind_eq_bind, Option.bind_eq_some_iff] at h
  obtain ⟨fields, -, _, -, expire, hexpire, jwt, hjwt, h⟩ := h
  obtain rfl := Option.some.inj h
  exact ⟨yields_duration.getD? hexpire (by decide),
    JwtPolicy.yields_ofDocument?.option.getD? hjwt nofun⟩

theorem HttpOptions.exact_default : HttpOptions.default.Exact := ⟨by decide, by decide⟩

/-- Settings of the HTTP interface that are read are exact. -/
theorem HttpOptions.yields_ofDocument? : Yields ofDocument? Exact := by
  intro d o h
  simp only [ofDocument?, Option.bind_eq_bind, Option.bind_eq_some_iff] at h
  obtain ⟨fields, -, _, -, port, hport, _, -, maxWait, hmaxWait, h⟩ := h
  obtain rfl := Option.some.inj h
  exact ⟨(yields_nat _).getD? hport exact_default.port,
    yields_duration.getD? hmaxWait exact_default.maxWait⟩

/-! ### Entries of storages -/

namespace StoragesOptions

theorem before_trans {a b c : StorageId} (h : before a b = true) (h' : before b c = true) :
    before a c = true :=
  decide_eq_true (String.lt_trans (of_decide_eq_true h) (of_decide_eq_true h'))

/-- No name stands before itself. -/
theorem ne_of_before {a b : StorageId} (h : before a b = true) : a ≠ b := by
  rintro rfl
  exact String.lt_irrefl _ (of_decide_eq_true h)

/-- Of two names, at most one stands before the other. -/
theorem not_before {a b : StorageId} (h : before a b = true) : before b a = false := by
  by_contra hback
  exact ne_of_before (before_trans h (Bool.not_eq_false _ ▸ hback)) rfl

/-- Of two names one comes before the other. -/
theorem before_of_ne {a b : StorageId} (hne : a ≠ b) (h : before b a = false) :
    before a b = true := by
  have hle : a.text ≤ b.text := String.not_lt.mp (of_decide_eq_false h)
  -- names that are not before each other are the same
  refine decide_eq_true (Decidable.byContradiction fun hnot => hne ?_)
  obtain ⟨text⟩ := a
  exact congrArg StorageId.mk (String.le_antisymm hle (String.not_lt.mp hnot))

/-- An entry behind all others is added at the end. -/
theorem insert_of_last {id : StorageId} (o : StorageOptions) {entries : StoragesOptions}
    (h : ∀ e ∈ entries, before e.1 id = true) : insert id o entries = entries ++ [(id, o)] := by
  induction entries with
  | nil => rfl
  | cons e entries ih =>
    obtain ⟨hfirst, hlater⟩ := List.forall_mem_cons.mp h
    obtain ⟨id', o'⟩ := e
    -- the entry is neither that of the first name nor before it
    rw [insert, if_neg (ne_of_before hfirst), if_neg (by rw [not_before hfirst]; exact nofun),
      ih hlater, List.cons_append]

/-- To insert an entry adds no other one. -/
theorem mem_insert {id : StorageId} {o : StorageOptions} {entries : StoragesOptions}
    {e : StorageId × StorageOptions} (h : e ∈ insert id o entries) : e = (id, o) ∨ e ∈ entries := by
  induction entries with
  | nil => exact Or.inl (List.mem_singleton.mp h)
  | cons e' entries ih =>
    rw [insert] at h
    -- the new entry replaces one, or stands before it, or comes later
    split at h
    · obtain rfl | h := List.mem_cons.mp h
      · exact Or.inl rfl
      · exact Or.inr (List.mem_cons_of_mem _ h)
    · split at h
      · exact List.mem_cons.mp h
      · obtain rfl | h := List.mem_cons.mp h
        · exact Or.inr List.mem_cons_self
        · exact (ih h).imp_right (List.mem_cons_of_mem _)

/-- Entries stay in the order of their names when one is inserted. -/
theorem sorted_insert {id : StorageId} {o : StorageOptions} {entries : StoragesOptions}
    (h : entries.Pairwise fun e e' => before e.1 e'.1 = true) :
    (insert id o entries).Pairwise fun e e' => before e.1 e'.1 = true := by
  induction entries with
  | nil => exact List.pairwise_singleton _ _
  | cons e entries ih =>
    obtain ⟨id', o'⟩ := e
    obtain ⟨hafter, hlater⟩ := List.pairwise_cons.mp h
    rw [insert]
    -- an entry of the same name is replaced
    split
    next heq => exact List.pairwise_cons.mpr ⟨fun e he => heq ▸ hafter e he, hlater⟩
    next hne =>
      split
      next hbefore =>
        refine List.pairwise_cons.mpr ⟨fun e he => ?_, h⟩
        obtain rfl | he := List.mem_cons.mp he
        · exact hbefore
        · exact before_trans hbefore (hafter e he)
      next hbefore =>
        refine List.pairwise_cons.mpr ⟨fun e he => ?_, ih hlater⟩
        obtain rfl | he := mem_insert he
        · exact before_of_ne hne (Bool.not_eq_true _ ▸ hbefore)
        · exact hafter e he

/-- Entries stay exact when an exact one is inserted. -/
theorem Exact.insert {entries : StoragesOptions} (h : Exact entries) (id : StorageId)
    {o : StorageOptions} (ho : o.Exact) : Exact (insert id o entries) where
  sorted := sorted_insert h.sorted
  entries e he := by
    obtain rfl | he := mem_insert he
    · exact ho
    · exact h.entries e he

/-- Entries are read one after the other into those before them. -/
theorem extend?_of_members? (read : StoragesOptions) {o : StoragesOptions} (h : Exact (read ++ o))
    {entries : List (Document × Document)}
    (hsay : members? entries = some (o.map fun e => (e.1.text, e.2.toJson))) :
    extend? read entries = some (read ++ o) := by
  -- what was read grows by one entry at a time, at its end, since the entries are sorted
  induction o generalizing read entries with
  | nil =>
    cases entries with
    | nil => rw [extend?, List.append_nil]
    | cons entry entries =>
      rw [members?] at hsay
      split at hsay <;> cases hsay
  | cons e o ih =>
    cases entries with
    | nil => cases hsay
    | cons entry entries =>
      obtain ⟨key, d⟩ := entry
      rw [members?] at hsay
      split at hsay
      next name j ms hkey hd hms =>
        obtain ⟨heq, rfl⟩ := List.cons.inj (Option.some.inj hsay)
        obtain ⟨rfl, rfl⟩ := Prod.mk.inj heq
        -- this entry is read as it was written
        have hread := StorageOptions.reads_toJson
          (h.entries e (List.mem_append_right read List.mem_cons_self)) d hd
        -- all that has been read stands before this entry
        have hlast : ∀ e' ∈ read, before e'.1 e.1 = true := fun e' he' =>
          (List.pairwise_append.mp h.sorted).2.2 e' he' e List.mem_cons_self
        have hassoc : read ++ e :: o = read ++ [e] ++ o := by rw [List.append_assoc]; rfl
        rw [extend?, reads_text _ key hkey, hread]
        dsimp only
        rw [insert_of_last e.2 hlast, hassoc]
        exact ih (read ++ [e]) (hassoc ▸ h) hms
      next => cases hsay

/-- Exact entries are read as they are written. -/
theorem reads_toJson {o : StoragesOptions} (h : Exact o) : Reads ofDocument? (toJson o) o := by
  intro d hd
  cases says_of_value? hd with
  | mapping hms => exact extend?_of_members? [] h hms

/-- Exact entries that are extended by what is read are exact. -/
theorem Exact.extend? {read o : StoragesOptions} (h : Exact read)
    {entries : List (Document × Document)} (hread : extend? read entries = some o) : Exact o := by
  induction entries generalizing read with
  | nil => exact Option.some.inj hread ▸ h
  | cons entry entries ih =>
    obtain ⟨key, d⟩ := entry
    rw [StoragesOptions.extend?] at hread
    split at hread
    next name o' _ ho =>
      exact ih (h.insert ⟨name⟩ (StorageOptions.yields_ofDocument? d o' ho)) hread
    next => exact nomatch hread

/-- Entries that are read are exact. -/
theorem yields_ofDocument? : Yields ofDocument? Exact := by
  intro d o h
  obtain ⟨entries, -, h⟩ := Option.bind_eq_some_iff.mp h
  exact Exact.extend? ⟨List.Pairwise.nil, nofun⟩ h

end StoragesOptions

/-! ### Settings of a server -/

namespace ServerOptions

/-- The tokens are read as they are written. -/
theorem reads_adminTokens (tokens : List String) : Reads adminTokens?
    (.object [("auth", .object [("bearerTokens", .texts tokens)])]) tokens := by
  intro d hd
  obtain ⟨fields, hfields, hsay⟩ := fields?_of_value? ["auth"] hd (by simp) (by simp)
  -- the tokens are wrapped in two records
  have hauth : Reads adminTokens?.auth? (.object [("bearerTokens", .texts tokens)]) tokens := by
    intro d hd
    obtain ⟨fields, hfields, hsay⟩ := fields?_of_value? ["bearerTokens"] hd (by simp)
      (by simp)
    rw [adminTokens?.auth?, hfields]
    exact hsay.getD?_of_find? "bearerTokens" rfl (reads_texts tokens) []
  rw [adminTokens?, hfields]
  exact hsay.getD?_of_find? "auth" rfl hauth []

/-- Exact settings are read as they are written. -/
theorem reads_toJson {o : ServerOptions} (h : o.Exact) : Reads ofDocument? o.toJson o := by
  intro d hd
  obtain ⟨fields, hfields, hsay⟩ := fields?_of_value?
    ["http", "admin", "logging", "channels", "storages"] hd (by simp) (by simp)
  -- rules are read one by one
  have hchannels : Reads ChannelRule.listOfDocument? (ChannelRule.listToJson o.channels)
      o.channels :=
    reads_list <| List.forall₂_map_left_iff.mpr <| List.forall₂_same.mpr fun r hr =>
      ChannelRule.reads_toJson (h.channels r hr)
  rw [ofDocument?, hfields]
  simp only [Option.bind_eq_bind, Option.bind_some,
    hsay.getD?_of_find? "http" rfl (HttpOptions.reads_toJson h.http),
    hsay.getD?_of_find? "admin" rfl (reads_adminTokens o.adminTokens),
    hsay.getD?_of_find? "logging" rfl o.log.reads_toJson,
    hsay.getD?_of_find? "channels" rfl hchannels,
    hsay.getD?_of_find? "storages" rfl (StoragesOptions.reads_toJson h.storages)]

theorem exact_default : default.Exact := ⟨HttpOptions.exact_default, nofun, .nil, nofun⟩

/-- Settings that are read are exact. -/
theorem yields_ofDocument? : Yields ofDocument? Exact := by
  intro d o h
  simp only [ofDocument?, Option.bind_eq_bind, Option.bind_eq_some_iff] at h
  obtain ⟨fields, -, http, hhttp, _, -, _, -, channels, hchannels, storages, hstorages, h⟩ := h
  obtain rfl := Option.some.inj h
  exact ⟨HttpOptions.yields_ofDocument?.getD? hhttp exact_default.http,
    ChannelRule.yields_ofDocument?.list.getD? hchannels exact_default.channels,
    StoragesOptions.yields_ofDocument?.getD? hstorages exact_default.storages⟩

end ServerOptions

end LongPoll
