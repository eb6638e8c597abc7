import Mathlib.Data.List.DropRight
import LongPoll.Proofs.Settings.Exact
import LongPoll.Proofs.Yaml.Printable
/-!
# Settings survive being written and read

The text that settings are written as is accepted without overrides and gives the same settings
again, if they come from a text that was accepted. Three things make this so: what is read from a
text is exact, so that it is read as it is written; completing and overriding keep it exact; and
what has been completed is complete, whatever was overridden since. Nothing is assumed of YAML but
that a text of a value says that value; the text holds no tab character and is not blank.

* `Yaml.ReadsBack`: the text of a value says the value.
* `ServerOptions.exact_of_parse`: accepted settings are exact.
* `ServerOptions.complete_of_parse`: accepted settings are complete.
* `ServerOptions.parse_dump`: accepted settings survive being written and read.
-/

namespace LongPoll

/-- The document that is read from the text of a value says the value. -/
def Yaml.ReadsBack (j : Json) : Prop :=
  (Document.ofYaml? (Yaml.render j)).bind Document.value? = some j

namespace StoragesOptions

/-- What stands in for no storages is exact. -/
theorem exact_default : Exact default where
  sorted := List.pairwise_singleton _ _
  entries := List.forall_mem_singleton.mpr fun _ h => Option.mem_some.mp h ▸ ⟨by decide, by decide⟩

/-- Exact storages stay exact when something stands in for none. -/
theorem Exact.orDefault {o : StoragesOptions} (h : Exact o) : Exact o.orDefault := by
  unfold StoragesOptions.orDefault
  split
  · exact exact_default
  · exact h

theorem orDefault_orDefault (o : StoragesOptions) : o.orDefault.orDefault = o.orDefault := by
  cases o <;> rfl

end StoragesOptions

namespace ServerOptions

variable {o c : ServerOptions} {text : String} {given : Overrides}

/-! ### Exact settings stay exact -/

/-- Settings that are read are exact. -/
theorem exact_of_read (h : read text = .ok o) : o.Exact := by
  unfold read at h
  -- a text with tabs is refused, and a blank one stands for the defaults
  split at h
  · exact nomatch h
  · split at h
    · exact Except.ok.inj h ▸ exact_default
    · split at h
      next o' hread =>
        obtain ⟨d, -, hd⟩ := Option.bind_eq_some_iff.mp hread
        exact Except.ok.inj h ▸ yields_ofDocument? d o' hd
      next => exact nomatch h

/-- Exact settings stay exact when they are completed. -/
theorem Exact.complete (h : o.Exact) : o.complete.Exact where
  http := { port := h.http.port, maxWait := h.http.maxWait }
  channels := by
    change ∀ r ∈ if o.channels.isEmpty then [.catchAll] else o.channels, r.Exact
    split
    · exact List.forall_mem_singleton.mpr ⟨by decide, nofun⟩
    · exact h.channels
  storages := h.storages.orDefault

/-- Exact settings stay exact when a port of 16 bits is given. -/
theorem Exact.override (h : o.Exact) (hport : ∀ port ∈ given.port, port < Word.values16) :
    (o.override given).Exact where
  http := by
    refine ⟨?_, h.http.maxWait⟩
    change given.port.getD o.http.port < Word.values16
    cases hgiven : given.port with
    | none => exact h.http.port
    | some port => exact hport port hgiven
  channels := h.channels
  storages := h.storages

/-! ### Complete settings stay complete -/

/-- Complete settings are not changed when they are completed. -/
theorem complete_complete (o : ServerOptions) : o.complete.complete = o.complete := by
  obtain ⟨http, adminTokens, log, channels, storages⟩ := o
  -- trimming slashes off twice is trimming them off once
  have hprefix : Text.dropWhileEnd (· == '/') (Text.dropWhileEnd (· == '/')
      http.pathPrefix.toList) = Text.dropWhileEnd (· == '/') http.pathPrefix.toList :=
    List.rdropWhile_idempotent _ _
  simp only [complete, String.toList_ofList, hprefix, StoragesOptions.orDefault_orDefault]
  cases channels <;> rfl

/-- What is overridden is no part of what is completed. -/
theorem complete_override (o : ServerOptions) (given : Overrides) :
    (o.override given).complete = o.complete.override given := rfl

theorem override_none (o : ServerOptions) : o.override .none = o := rfl

/-! ### Accepted settings -/

/-- Settings are accepted if they are valid once they are read, completed and overridden. -/
theorem parse_eq_ok_iff : parse text given = .ok c ↔
    ∃ o, read text = .ok o ∧ c = o.complete.override given ∧ c.validate = .ok () := by
  unfold parse
  cases read text with
  | error e => exact ⟨nofun, nofun⟩
  | ok o =>
    dsimp only [bind, Except.bind]
    -- reading and completing cannot fail from here on, and only the check is left
    cases hvalid : (o.complete.override given).validate with
    | error e =>
      refine ⟨nofun, ?_⟩
      rintro ⟨_, hread, rfl, hc⟩
      obtain rfl := Except.ok.inj hread
      exact nomatch hvalid.symm.trans hc
    | ok _ =>
      refine ⟨fun h => ⟨o, rfl, (Except.ok.inj h).symm, ?_⟩, ?_⟩
      · exact Except.ok.inj h ▸ hvalid
      · rintro ⟨_, hread, rfl, -⟩
        obtain rfl := Except.ok.inj hread
        rfl

/-- Accepted settings are exact. -/
theorem exact_of_parse (h : parse text given = .ok c)
    (hport : ∀ port ∈ given.port, port < Word.values16) : c.Exact := by
  obtain ⟨o, hread, rfl, -⟩ := parse_eq_ok_iff.mp h
  exact (exact_of_read hread).complete.override hport

/-- Accepted settings are complete. -/
theorem complete_of_parse (h : parse text given = .ok c) : c.complete = c := by
  obtain ⟨o, -, rfl, -⟩ := parse_eq_ok_iff.mp h
  rw [complete_override, complete_complete]

/-! ### Reading what was written -/

/-- A text of settings begins with the name of their first field. -/
theorem head?_dump (o : ServerOptions) : o.dump.toList.head? = some 'h' := by
  rw [dump, Yaml.render, String.toList_ofList]
  rfl

/-- Exact settings are read as they are dumped. -/
theorem read_dump (h : o.Exact) (hyaml : Yaml.ReadsBack o.toJson) : read o.dump = .ok o := by
  obtain ⟨d, hd, hsays⟩ := Option.bind_eq_some_iff.mp hyaml
  rw [read, if_neg, if_neg, dump, hd, Option.bind_some, reads_toJson h d hsays]
  -- the text is not blank, and it has no tabs
  · intro hblank
    have hh := Text.isBlank_of_trim_eq_nil (List.isEmpty_iff.mp hblank) 'h'
      (List.mem_of_mem_head? (head?_dump o))
    exact absurd hh (by decide)
  · rw [List.contains_iff_mem]
    exact Yaml.tab_notMem_render o.toJson

/-- Accepted settings survive being written and read. -/
theorem parse_dump (h : parse text given = .ok c)
    (hport : ∀ port ∈ given.port, port < Word.values16) (hyaml : Yaml.ReadsBack c.toJson) :
    parse c.dump .none = .ok c := by
  refine parse_eq_ok_iff.mpr ⟨c, read_dump (exact_of_parse h hport) hyaml, ?_, ?_⟩
  · rw [override_none, complete_of_parse h]
  · obtain ⟨-, -, -, hvalid⟩ := parse_eq_ok_iff.mp h
    exact hvalid

namespace Sample

/-- A text with a prefix that is trimmed, a channel with a token policy, and a storage under a name
that looks like a number. -/
def written : String :=
  "http: \x7bpathPrefix: /a/\x7d\n" ++
    "channels: [\x7bregex: a, expire: 1d, jwt: \x7b\x7d\x7d]\n" ++
      "storages: \x7b'1': \x7bredis: \x7b\x7d\x7d\x7d\n"

/-- A port, and that the log is for debugging. -/
def overrides : Overrides := ⟨some 80, none, true⟩

/-- The settings that the text and the overrides make. -/
def options : ServerOptions where
  http := { HttpOptions.default with port := 80, pathPrefix := "/a" }
  adminTokens := []
  log := { LogOptions.default with filter := LogOptions.debugFilter }
  channels := [⟨"a", .seconds 86400, some ⟨[], .zero⟩⟩]
  storages := [(⟨"1"⟩, ⟨none, some ⟨none, none⟩⟩)]

end Sample

/-- Settings with overrides and a name that looks like a number survive. -/
theorem parse_dump_sample :
    parse Sample.written Sample.overrides = .ok Sample.options ∧
      parse Sample.options.dump .none = .ok Sample.options := by
  have hparse : parse Sample.written Sample.overrides = .ok Sample.options := by
    have hsome : (parse Sample.written Sample.overrides).toOption = some Sample.options := by
      decide +kernel
    cases hresult : parse Sample.written Sample.overrides with rw [hresult] at hsome
    | error e => exact nomatch hsome
    | ok o => exact congrArg Except.ok (Option.some.inj hsome)
  have hport : ∀ port ∈ Sample.overrides.port, port < Word.values16 := by decide
  have hyaml : Yaml.ReadsBack Sample.options.toJson := by
    -- There is no need to encode the characters of the text only to decode them again.
    rw [Yaml.ReadsBack, Document.ofYaml?, Yaml.Token.ofText?, Yaml.render, String.toList_ofList]
    decide +kernel
  exact ⟨hparse, parse_dump hparse hport hyaml⟩

end ServerOptions

end LongPoll
