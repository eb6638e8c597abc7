import Mathlib.Data.List.Forall2
import LongPoll.Proofs.Time.Duration
import LongPoll.Yaml.Meaning
/-!
# Reading documents that say a value

A document says a JSON value if it can be read without being told what to look for: a scalar in
quotes is a text, and a plain one is `null`, a truth value or a number if it looks like one.
Settings are read from documents by being told what to look for. They are the same whatever
document says the value that they are read from.

* `Document.value?`: the value that a document says.
* `Document.Reads`: whatever document says a value, a reader reads the same from it.
* `Document.reads_text` and so on: what the readers of single values read.
* `Document.fields?_of_value?`, `Document.FieldsSay.getD?_of_find?`: what the readers of records
  read.
* `Document.Yields`: whatever a reader reads, from any document, has a property.
-/

namespace LongPoll.Document

/-! ### The value that a document says -/

/-- The value that a plain scalar says. Numbers below zero, large ones and fractions are left out,
for they are no part of any settings. -/
def plainValue? (s : String) : Option Json :=
  if s.isEmpty || isNullWord s then some .null
  else
    match boolWord? s, natWord? s with
    | some b, _ => some (.bool b)
    | none, some n => if n < Word.values64 then some (.count n) else none
    | none, none => if Yaml.isTyped s then none else some (.text s)

/-- The value that a scalar says. Tags are left out. -/
def scalarValue? : ScalarStyle → Option String → String → Option Json
  | _, some _, _ => none
  | .plain, none, s => plainValue? s
  | _, none, s => some (.text s)

mutual

/-- The value that a document says. -/
def value? : Document → Option Json
  | null => some .null
  | bool b => some (.bool b)
  | int n => some (.int n)
  | scalar style tag s => scalarValue? style tag s
  | list _ items => (values? items).map .array
  | mapping entries => (members? entries).map .object

/-- The values that several documents say. -/
def values? : List Document → Option (List Json)
  | [] => some []
  | d :: ds =>
    match d.value?, values? ds with
    | some j, some js => some (j :: js)
    | _, _ => none

/-- The members of an object that the entries of a mapping say. -/
def members? : List (Document × Document) → Option (List (String × Json))
  | [] => some []
  | (key, d) :: entries =>
    match key.value?, d.value?, members? entries with
    | some (.text name), some j, some members => some ((name, j) :: members)
    | _, _, _ => none

end

/-- The forms of a document that says a value. -/
inductive Says : Document → Json → Prop where
  /-- It is `null`. -/
  | null : Says null .null
  /-- It is a truth value. -/
  | bool (b : Bool) : Says (bool b) (.bool b)
  /-- It is a whole number. -/
  | int (n : Int) : Says (int n) (.int n)
  /-- It is a plain scalar that means `null`. -/
  | nullWord {s : String} : Says (scalar .plain none s) .null
  /-- It is a plain scalar that means a truth value. -/
  | boolWord {s : String} {b : Bool} (h : boolWord? s = some b) :
    Says (scalar .plain none s) (.bool b)
  /-- It is a plain scalar that means a number. -/
  | natWord {s : String} {n : Nat} (h : natWord? s = some n) :
    Says (scalar .plain none s) (.count n)
  /-- It is a plain scalar that means a text. -/
  | word {s : String} : Says (scalar .plain none s) (.text s)
  /-- It is a text. -/
  | text {style : ScalarStyle} {s : String} (h : style ≠ .plain) :
    Says (scalar style none s) (.text s)
  /-- It is a list of documents that say the items. -/
  | list {record : Bool} {items : List Document} {js : List Json} (h : values? items = some js) :
    Says (list record items) (.array js)
  /-- It is a mapping of documents that say the members. -/
  | mapping {entries : List (Document × Document)} {ms : List (String × Json)}
    (h : members? entries = some ms) : Says (mapping entries) (.object ms)

/-- A plain scalar says what it means. -/
theorem says_of_plainValue? {s : String} {j : Json} (h : plainValue? s = some j) :
    Says (scalar .plain none s) j := by
  unfold plainValue? at h
  -- by the meaning that is tried first
  split at h
  next => exact Option.some.inj h ▸ .nullWord
  next =>
    split at h
    next b hbool => exact Option.some.inj h ▸ .boolWord hbool
    next n _ hnat =>
      split at h
      · exact Option.some.inj h ▸ .natWord hnat
      · exact nomatch h
    next =>
      split at h
      · exact nomatch h
      · exact Option.some.inj h ▸ .word

/-- Every document that says a value has one of these forms. -/
theorem says_of_value? {d : Document} {j : Json} (h : d.value? = some j) : Says d j := by
  cases d with
  | null => exact Option.some.inj h ▸ .null
  | bool b => exact Option.some.inj h ▸ .bool b
  | int n => exact Option.some.inj h ▸ .int n
  | scalar style tag s =>
    -- a scalar with a tag says nothing
    cases tag with
    | some tag => cases style <;> exact nomatch h
    | none =>
      cases style with
      | plain => exact says_of_plainValue? h
      | _ => exact Option.some.inj h ▸ .text nofun
  | list record items =>
    obtain ⟨js, hjs, rfl⟩ := Option.map_eq_some_iff.mp h
    exact .list hjs
  | mapping entries =>
    obtain ⟨ms, hms, rfl⟩ := Option.map_eq_some_iff.mp h
    exact .mapping hms

/-- Whatever document says the value, the reader reads the same from it. -/
def Reads {α : Type} (read? : Document → Option α) (j : Json) (a : α) : Prop :=
  ∀ d, d.value? = some j → read? d = some a

/-! ### Single values -/

/-- A text is read as it is, quoted or not. -/
theorem reads_text (s : String) : Reads text? (.text s) s := by
  intro d h
  cases says_of_value? h <;> rfl

/-- A truth value is read as it is. -/
theorem reads_bool (b : Bool) : Reads bool? (.bool b) b := by
  intro d h
  cases says_of_value? h with
  | bool => rfl
  | boolWord hb => exact hb

/-- A number within the limit is read as it is. -/
theorem reads_nat {n limit : Nat} (hn : n < limit) : Reads (nat? limit) (.count n) n := by
  intro d h
  cases says_of_value? h with
  | int => simp [nat?, hn]
  | natWord hword => simp [nat?, mayBe, hword, hn]

/-- A duration of whole milliseconds is read as it is written. -/
theorem reads_duration {t : Duration} (h : t.IsWhole) : Reads duration? (.text t.toText) t := by
  intro d hd
  rw [duration?, reads_text t.toText d hd, Option.bind_some, Duration.parse?_toText,
    Duration.inMillis_of_isWhole h]

section Combined

variable {α : Type} {read? : Document → Option α}

/-- Documents that say values are read one by one. -/
theorem mapM_of_values? {items : List Document} {js : List Json} {as : List α}
    (h : values? items = some js) (hread : List.Forall₂ (Reads read?) js as) :
    items.mapM read? = some as := by
  induction items generalizing js as with
  | nil =>
    obtain rfl := Option.some.inj h
    cases hread
    rfl
  | cons d items ih =>
    rw [values?] at h
    split at h
    next j js' hj hjs =>
      obtain rfl := Option.some.inj h
      -- an item that is said is an item that is read
      cases hread with
      | cons hfirst hrest =>
        rw [List.mapM_cons, hfirst d hj, ih hjs hrest]
        rfl
    next => exact nomatch h

/-- A list is read if its items are. -/
theorem reads_list {js : List Json} {as : List α} (h : List.Forall₂ (Reads read?) js as) :
    Reads (list? read?) (.array js) as := by
  intro d hd
  cases says_of_value? hd with
  | list hjs => exact mapM_of_values? hjs h

theorem reads_texts (ss : List String) : Reads (list? text?) (.texts ss) ss :=
  reads_list (List.forall₂_map_left_iff.mpr (List.forall₂_same.mpr fun s _ => reads_text s))

/-- A value that may be `null` is read as it is otherwise, if it is not. -/
theorem reads_option {j : Json} {a : α} (h : Reads read? j a) (hj : j ≠ .null) :
    Reads (option? read?) j (some a) := by
  intro d hd
  have hread : (read? d).map some = some (some a) := by rw [h d hd, Option.map_some]
  cases d with
  | null => exact absurd (Option.some.inj hd).symm hj
  | scalar style tag s =>
    -- only a scalar could be taken for `null`
    have htag : tag = none := by cases says_of_value? hd <;> rfl
    subst htag
    cases style with
    | plain =>
      -- a plain scalar that means `null` would have said so
      have hsome : (s.isEmpty || isNullWord s) = false := by
        by_contra hnull
        rw [Bool.not_eq_false] at hnull
        rw [value?, scalarValue?, plainValue?, if_pos hnull] at hd
        exact hj (Option.some.inj hd).symm
      change (if (s.isEmpty || isNullWord s) = true then _ else _) = _
      rw [hsome]
      exact hread
    | _ => exact hread
  | _ => exact hread

end Combined

/-! ### Records -/

/-- The fields that are given say the members of an object. -/
def FieldsSay (fields : Fields) (ms : List (String × Json)) : Prop :=
  List.Forall₂ (fun field m => field.1 = m.1 ∧ field.2.value? = some m.2) fields ms

/-- Fields that say members have their names. -/
theorem FieldsSay.names {fields : Fields} {ms : List (String × Json)} (h : FieldsSay fields ms) :
    fields.map Prod.fst = ms.map Prod.fst := by
  induction h with
  | nil => rfl
  | cons hfirst hrest ih => rw [List.map_cons, List.map_cons, hfirst.1, ih]

/-- Entries that say members with known names, each given once, are read as fields that say so. -/
theorem namedFields?_of_members? {names : List String} {entries : List (Document × Document)}
    {ms : List (String × Json)} (h : members? entries = some ms)
    (hnames : ∀ m ∈ ms, m.1 ∈ names) (hdistinct : (ms.map Prod.fst).Nodup) :
    ∃ fields, namedFields? names entries = some fields ∧ FieldsSay fields ms := by
  induction entries generalizing ms with
  | nil =>
    obtain rfl := Option.some.inj h
    exact ⟨[], rfl, .nil⟩
  | cons entry entries ih =>
    obtain ⟨key, d⟩ := entry
    rw [members?] at h
    split at h
    next name j ms' hkey hd hms =>
      obtain rfl := Option.some.inj h
      obtain ⟨hname, hnames⟩ := List.forall_mem_cons.mp hnames
      obtain ⟨hnew, hdistinct⟩ := List.nodup_cons.mp hdistinct
      obtain ⟨fields, hfields, hsay⟩ := ih hms hnames hdistinct
      refine ⟨(name, d) :: fields, ?_, .cons ⟨rfl, hd⟩ hsay⟩
      -- a name that occurs once among the members occurs once among the fields
      have hfresh : fields.any (·.1 == name) = false := by
        refine List.any_eq_false.mpr fun field hfield heq => hnew ?_
        exact hsay.names ▸ beq_iff_eq.mp heq ▸ List.mem_map_of_mem hfield
      rw [namedFields?, reads_text name key hkey, hfields]
      simp [hname, hfresh]
    next => exact nomatch h

/-- The fields of a record are read if its members are among the known ones, each given once. -/
theorem fields?_of_value? (names : List String) {d : Document} {ms : List (String × Json)}
    (h : d.value? = some (.object ms)) (hnames : ∀ m ∈ ms, m.1 ∈ names)
    (hdistinct : (ms.map Prod.fst).Nodup) :
    ∃ fields, d.fields? names = some fields ∧ FieldsSay fields ms := by
  cases says_of_value? h with
  | mapping hms => exact namedFields?_of_members? hms hnames hdistinct

section Fields

variable {α : Type} {read? : Document → Option α} {fields : Fields} {ms : List (String × Json)}

/-- The field of a name says the member of this name. -/
theorem FieldsSay.get?_of_find? (h : FieldsSay fields ms) (name : String) :
    (fields.get? name).map Document.value? = (ms.find? (·.1 == name)).map fun m => some m.2 := by
  unfold Fields.get?
  induction h with
  | nil => rfl
  | @cons field m fields ms hfirst hrest ih =>
    rw [List.find?_cons, List.find?_cons, hfirst.1]
    split
    · simp [hfirst.2]
    · exact ih

/-- A field that must be there is read if the member is. -/
theorem FieldsSay.require?_of_find? (h : FieldsSay fields ms) (name : String) {j : Json}
    (hfind : ms.find? (·.1 == name) = some (name, j)) {a : α} (hread : Reads read? j a) :
    fields.require? name read? = some a := by
  have hget := h.get?_of_find? name
  rw [hfind] at hget
  obtain ⟨d, hd, hsays⟩ := Option.map_eq_some_iff.mp hget
  rw [Fields.require?, hd]
  exact hread d hsays

/-- A field that may be left out is read if the member is there. -/
theorem FieldsSay.getD?_of_find? (h : FieldsSay fields ms) (name : String) {j : Json}
    (hfind : ms.find? (·.1 == name) = some (name, j)) {a : α} (hread : Reads read? j a)
    (standIn : α) : fields.getD? name read? standIn = some a := by
  -- a field that is there is read as one that has to be
  have hrequire := h.require?_of_find? name hfind hread
  obtain ⟨d, hd, -⟩ := Option.bind_eq_some_iff.mp hrequire
  rw [Fields.getD?, hd]
  rwa [Fields.require?, hd] at hrequire

/-- A field is stood in for if there is no such member. -/
theorem FieldsSay.getD?_of_absent (h : FieldsSay fields ms) (name : String)
    (hfind : ms.find? (·.1 == name) = none) (standIn : α) :
    fields.getD? name read? standIn = some standIn := by
  have hget := h.get?_of_find? name
  rw [hfind] at hget
  rw [Fields.getD?, Option.map_eq_none_iff.mp hget]

/-- A field that may be left out is read, if it is left out wherever it has no value. -/
theorem FieldsSay.getD?_option (h : FieldsSay fields ms) (name : String) (toJson : α → Json)
    (o : Option α) (hfind : ms.find? (·.1 == name) = o.map fun a => (name, toJson a))
    (hread : ∀ a ∈ o, Reads read? (toJson a) a) (hnull : ∀ a ∈ o, toJson a ≠ .null) :
    fields.getD? name (option? read?) none = some o := by
  cases o with
  | none => exact h.getD?_of_absent name hfind none
  | some a => exact h.getD?_of_find? name hfind (reads_option (hread a rfl) (hnull a rfl)) none

/-- The fields of a record are read if it has two, which are left out wherever they have no value. -/
theorem fields?_of_options {β : Type} {read'? : Document → Option β} {name name' : String}
    (hne : name ≠ name') (toJson : α → Json) (toJson' : β → Json) {o : Option α} {o' : Option β}
    {d : Document} (h : d.value? = some (.object (o.toList.map (fun a => (name, toJson a)) ++
      o'.toList.map fun b => (name', toJson' b))))
    (hread : ∀ a ∈ o, Reads read? (toJson a) a) (hread' : ∀ b ∈ o', Reads read'? (toJson' b) b)
    (hnull : ∀ a, toJson a ≠ .null) (hnull' : ∀ b, toJson' b ≠ .null) :
    ∃ fields, d.fields? [name, name'] = some fields ∧
      fields.getD? name (option? read?) none = some o ∧
      fields.getD? name' (option? read'?) none = some o' := by
  obtain ⟨fields, hfields, hsay⟩ := fields?_of_value? [name, name'] h
    (by cases o <;> cases o' <;> simp) (by cases o <;> cases o' <;> simp [hne])
  refine ⟨fields, hfields, hsay.getD?_option name toJson o ?_ hread fun a _ => hnull a,
    hsay.getD?_option name' toJson' o' ?_ hread' fun b _ => hnull' b⟩
  · cases o <;> cases o' <;> simp [hne.symm]
  · cases o <;> cases o' <;> simp [hne]

end Fields

/-! ### What is read -/

/-- Whatever the reader reads has the property. -/
def Yields {α : Type} (read? : Document → Option α) (P : α → Prop) : Prop :=
  ∀ d a, read? d = some a → P a

theorem yields_nat (limit : Nat) : Yields (nat? limit) (· < limit) :=
  fun _ _ h => of_decide_eq_true (Option.filter_eq_some_iff.mp h).2

/-- Durations that are read are whole milliseconds. -/
theorem yields_duration : Yields duration? Duration.IsWhole := by
  intro d t h
  obtain ⟨s, -, hs⟩ := Option.bind_eq_some_iff.mp h
  exact Duration.isWhole_of_parse? hs

section Yielded

variable {α : Type} {read? : Document → Option α} {P : α → Prop}

/-- What is read of several documents has the property item by item. -/
theorem Yields.mapM (h : Yields read? P) {items : List Document} {as : List α}
    (hread : items.mapM read? = some as) : ∀ a ∈ as, P a := by
  induction items generalizing as with
  | nil =>
    obtain rfl := Option.some.inj hread
    exact nofun
  | cons d items ih =>
    rw [List.mapM_cons] at hread
    obtain ⟨a, ha, hread⟩ := Option.bind_eq_some_iff.mp hread
    obtain ⟨as, has, hread⟩ := Option.bind_eq_some_iff.mp hread
    obtain rfl := Option.some.inj hread
    exact List.forall_mem_cons.mpr ⟨h d a ha, ih has⟩

/-- What is read of a list has the property item by item. -/
theorem Yields.list (h : Yields read? P) : Yields (list? read?) fun as => ∀ a ∈ as, P a := by
  intro d as hread
  unfold list? at hread
  -- a list that is missing is an empty one
  split at hread
  next => exact h.mapM hread
  next =>
    split at hread
    · obtain rfl := Option.some.inj hread
      exact nofun
    · exact nomatch hread

/-- What is read of a document that may be `null` has the property if it is there. -/
theorem Yields.option (h : Yields read? P) : Yields (option? read?) fun o => ∀ a ∈ o, P a := by
  intro d o hread a ha
  obtain rfl := Option.mem_def.mp ha
  have hmap (hmap : (read? d).map some = some (some a)) : P a :=
    h d a (by simpa using hmap)
  -- Where it is not `null`, the document is read as one that must not be.
  unfold option? at hread
  repeat' split at hread
  all_goals first
    | exact hmap hread
    | cases hread

/-- What is read of a field has the property if what stands in for it has. -/
theorem Yields.getD? (h : Yields read? P) {fields : Fields} {name : String} {standIn a : α}
    (hread : fields.getD? name read? standIn = some a) (hstandIn : P standIn) : P a := by
  unfold Fields.getD? at hread
  split at hread
  next d _ => exact h d a hread
  next => exact Option.some.inj hread ▸ hstandIn

end Yielded

end LongPoll.Document
