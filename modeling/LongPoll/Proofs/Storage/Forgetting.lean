import LongPoll.Proofs.Storage.Operation
import LongPoll.Proofs.Storage.Revocation
/-!
# When revocations are forgotten

A token that was revoked counts as revoked until its revocation is forgotten. An engine forgets it
in a complete pass at a moment after the token has expired, and the moment of expiry that counts is
that of the last revocation (`LastRevoked`). A storage forgets it when the last of its engines does.

* `LastRevoked.contains_iff`: an engine still has a revocation if no pass was too late for it.
* `World.Operates.answer_isRevoked`: a storage in operation answers at once, and says what one of
  its engines has.
* `revocations_kept_until_collected`: both together, for every run of a configured storage.
-/

namespace LongPoll

/-- A token was revoked for the last time with this moment of expiry, and these are the episodes
since then. -/
structure LastRevoked (jti : Jti) (exp : Timestamp) (since history : List Episode) : Prop where
  /-- The history goes on from the revocation. -/
  split : ∃ earlier, history = since ++ .revoked jti exp :: earlier
  /-- The token was not revoked once more. -/
  not_again : ∀ exp', .revoked jti exp' ∉ since

namespace Episode

/-- Whether a token is revoked. -/
def revokes (jti : Jti) : Episode → Bool
  | revoked jti' _ => decide (jti' = jti)
  | collected .. => false

/-- Whether the engine of a place goes on to keep a revocation of a token that expires then. -/
def spares (slot : Nat) (exp : Timestamp) : Episode → Bool
  | revoked .. => true
  | collected slot' clock => decide (slot' = slot → clock ≤ exp)

variable {slot : Nat} {jti : Jti} {t : Table Jti Timestamp} {e : Episode}

/-- An episode that does not revoke the token again keeps its revocation or ends it. -/
theorem get?_revise (h : e.revokes jti = false) :
    (e.revise slot t).get? jti = (t.get? jti).filter (e.spares slot) := by
  cases e with
  | revoked jti' exp =>
    have hne : jti' ≠ jti := by simpa [revokes] using h
    rw [revise, Table.get?_insert_of_ne _ hne]
    cases t.get? jti <;> rfl
  | collected slot' clock =>
    by_cases hslot : slot' = slot
    · simp [revise, spares, hslot, Table.get?_filter]
    · rw [revise, if_neg hslot]
      cases t.get? jti <;> simp [spares, hslot, Option.filter_some]

end Episode

section History

variable {slot : Nat} {jti : Jti} {exp : Timestamp} {since history : List Episode}

/-- Episodes that do not revoke a token spare its revocation, or else it is lost. -/
theorem get?_revocationsAt_append (hsince : ∀ e ∈ since, e.revokes jti = false) :
    (revocationsAt slot (since ++ history)).get? jti =
      ((revocationsAt slot history).get? jti).filter fun exp => since.all (·.spares slot exp) := by
  induction since with
  | nil =>
    rw [List.nil_append]
    cases (revocationsAt slot history).get? jti <;> rfl
  | cons e since ih =>
    obtain ⟨he, hrest⟩ := List.forall_mem_cons.mp hsince
    rw [List.cons_append, revocationsAt_cons, Episode.get?_revise he, ih hrest,
      Option.filter_filter]
    simp only [List.all_cons, Bool.and_comm]

/-- After the last time, the token is not revoked again. -/
theorem LastRevoked.not_revokes (h : LastRevoked jti exp since history) :
    ∀ e ∈ since, e.revokes jti = false := by
  intro e he
  cases e with
  | revoked jti' exp' =>
    refine decide_eq_false fun heq => h.not_again exp' ?_
    rwa [← heq]
  | collected slot' clock => rfl

/-- An engine still has the revocation of a token unless a pass was complete after the token had
expired. -/
theorem LastRevoked.contains_iff (h : LastRevoked jti exp since history) (slot : Nat) :
    (revocationsAt slot history).contains jti = true ↔
      ∀ clock, .collected slot clock ∈ since → clock ≤ exp := by
  obtain ⟨earlier, rfl⟩ := h.split
  rw [Table.contains, get?_revocationsAt_append h.not_revokes, revocationsAt_cons, Episode.revise,
    Table.get?_insert_self, Option.filter_some, Option.isSome_ite, List.all_eq_true]
  constructor
  · intro hall clock hclock
    simpa [Episode.spares] using hall _ hclock
  · intro hclocks e he
    cases e with
    | revoked jti' exp' => rfl
    | collected slot' clock =>
      refine decide_eq_true fun heq => hclocks clock ?_
      rwa [← heq]

/-- Only what was revoked is known to be. -/
theorem exists_lastRevoked (h : (revocationsAt slot history).contains jti = true) :
    ∃ exp since, LastRevoked jti exp since history := by
  cases hfind : history.find? (Episode.revokes jti) with
  | none =>
    -- without a revocation there is nothing to be kept
    have hnone : ∀ e ∈ history, e.revokes jti = false := fun e he => by
      simpa using List.find?_eq_none.mp hfind e he
    have hempty : (revocationsAt slot (history ++ [])).get? jti = none :=
      get?_revocationsAt_append hnone
    rw [List.append_nil] at hempty
    rw [Table.contains, hempty] at h
    exact Bool.noConfusion h
  | some e =>
    obtain ⟨he, since, earlier, rfl, hsince⟩ := List.find?_eq_some_iff_append.mp hfind
    cases e with
    | revoked jti' exp =>
      obtain rfl : jti' = jti := of_decide_eq_true he
      refine ⟨exp, since, ⟨earlier, rfl⟩, fun exp' hmem => ?_⟩
      have hnot := hsince _ hmem
      simp [Episode.revokes] at hnot
    | collected slot' clock => exact Bool.noConfusion he

end History

/-! ### Answers -/

section Answers

variable {w : World} {o : StoragesOptions} {entries asked : List (StorageId × Backend)}
  {history : List Episode}

/-- What an engine says about a token after a history. -/
def inquiryAnswer (history : List Episode) (jti : Jti) (e : StorageId × Backend) :
    StorageId × StorageAnswer :=
  (e.1, .ok (.revoked ((revocationsAt e.2.slot history).contains jti)))

/-- Several storages say that a token is revoked if one of them does. -/
theorem combineAnswers_inquiry (history : List Episode) (jti : Jti)
    (asked : List (StorageId × Backend)) :
    combineAnswers (.isRevoked jti) (asked.map (inquiryAnswer history jti)) =
      .ok (.revoked (asked.any fun e => (revocationsAt e.2.slot history).contains jti)) := by
  cases hany : asked.any fun e => (revocationsAt e.2.slot history).contains jti with
  | true =>
    obtain ⟨e, he, hcontains⟩ := List.any_eq_true.mp hany
    refine combineAnswers_of_revoked ⟨_, List.mem_map_of_mem he, ?_⟩
    rw [inquiryAnswer, hcontains]
  | false =>
    have hno : ∀ x ∈ asked.map (inquiryAnswer history jti), x.2 = .ok (.revoked false) := by
      intro x hx
      obtain ⟨e, he, rfl⟩ := List.mem_map.mp hx
      rw [inquiryAnswer, Bool.eq_false_iff.mpr (List.any_eq_false.mp hany e he)]
    refine (combineAnswers_eq_valid_iff fun x hx => ?_).mpr hno
    rw [hno x hx]
    exact .ok rfl

namespace World.Operates

/-- A logged engine that keeps revocations answers at once. -/
theorem answer_logged (h : w.Operates o entries history) {e : StorageId × Backend}
    (he : e ∈ entries) (hjwt : e.2.jwt = true) (jti : Jti) (spans : List LogSpan) :
    ((Storage.decorated e.1 (.backend e.2)).start spans (.isRevoked jti) w).2.answer? =
      some (inquiryAnswer history jti e).2 := by
  obtain ⟨item, b, -, -, hb, hrevoked⟩ := h e he
  have hable : (Storage.backend e.2).isAble (.isRevoked jti) = true := hjwt
  rw [Storage.start, startDecorated_of_isAble hable, Call.answer?_observe, Storage.start]
  unfold Backend.start
  rw [backend?_of_memory? hb]
  simp only [startMemory, Call.answer?, inquiryAnswer, Memory.isRevoked, hrevoked hjwt]

/-- Logged engines that are asked one after the other answer at once. -/
theorem answers_logged (h : w.Operates o entries history)
    (hasked : ∀ e ∈ asked, e ∈ entries ∧ e.2.jwt = true) (jti : Jti) (spans : List LogSpan) :
    Call.answers? (startAll (Storage.members (Storage.logged asked)) spans (.isRevoked jti) w).2 =
      some (asked.map (inquiryAnswer history jti)) := by
  induction asked generalizing w with
  | nil => rfl
  | cons e asked ih =>
    obtain ⟨⟨he, hjwt⟩, hrest⟩ := List.forall_mem_cons.mp hasked
    -- to be asked changes no engine
    have hkeeps := guarantee_keepsRevocations.start (.decorated e.1 (.backend e.2)) spans
      (r := .isRevoked jti) rfl w
    exact Call.answers?_cons (h.answer_logged he hjwt jti spans) (ih (h.keep hkeeps) hrest)

/-- A storage that keeps revocations answers at once that a token is revoked if one of its engines
says so, and that it is not otherwise. -/
theorem answer_isRevoked (h : w.Operates o entries history)
    (hjwt : (Storage.assembled entries).has .jwt = true) (jti : Jti) (spans : List LogSpan) :
    ((Storage.assembled entries).start spans (.isRevoked jti) w).2.answer? =
      some (.ok (.revoked ((entries.filter (·.2.jwt)).any fun e =>
        (revocationsAt e.2.slot history).contains jti))) := by
  have hable : (Storage.multiplexer (Storage.logged entries)).isAble (.isRevoked jti) = true := hjwt
  have hcapable : (Storage.logged entries).filter (·.2.isAble (.isRevoked jti)) =
      Storage.logged (entries.filter (·.2.jwt)) := by
    rw [Storage.logged, List.filter_map]
    rfl
  rw [Storage.assembled, Storage.start, startDecorated_of_isAble hable, Call.answer?_observe,
    Storage.start, startMultiplexer_of_isAble rfl hable, hcapable, gather,
    h.answers_logged (fun e he => List.mem_filter.mp he) jti, Call.answer?, combineAnswers_inquiry]

end World.Operates

end Answers

/-- A configured storage that keeps revocations says at any time whether a token is revoked. It is
if it was revoked and, since it was for the last time, one of the engines that keep revocations has
not completed a pass at a moment after the token had expired. So nothing but revocations and passes
counts, no revocation is forgotten before the token has expired, and each is forgotten when all
those engines have completed a pass after that. -/
theorem revocations_kept_until_collected {o : StoragesOptions} {s : Storage} {w : World}
    {history : List Episode} (h : s.Operated o w history) (hjwt : s.has .jwt = true) (jti : Jti) :
    ∃ revoked, (∀ spans,
        (s.start spans (.isRevoked jti) w).2.answer? = some (.ok (.revoked revoked))) ∧
      (revoked = true ↔ ∃ exp since, LastRevoked jti exp since history ∧
        ∃ l ∈ s.leaves, l.backend.jwt = true ∧
          ∀ clock, .collected l.backend.slot clock ∈ since → clock ≤ exp) ∧
      (∀ exp since, LastRevoked jti exp since history →
        (∀ slot clock, .collected slot clock ∈ since → clock ≤ exp) → revoked = true) ∧
      (∀ exp since, LastRevoked jti exp since history →
        (∀ l ∈ s.leaves, l.backend.jwt = true →
          ∃ clock, .collected l.backend.slot clock ∈ since ∧ exp < clock) → revoked = false) := by
  obtain ⟨entries, rfl, hoperates⟩ := h.operates
  have hleaves : ∀ {P : Backend → Prop}, (∃ l ∈ (Storage.assembled entries).leaves,
      l.backend.jwt = true ∧ P l.backend) ↔ ∃ e ∈ entries.filter (·.2.jwt), P e.2 := by
    intro P
    simp [Storage.leaves_assembled, and_assoc]
  -- the tree says yes if one of its engines does
  have hknown : ((entries.filter (·.2.jwt)).any fun e =>
      (revocationsAt e.2.slot history).contains jti) = true ↔
        ∃ l ∈ (Storage.assembled entries).leaves, l.backend.jwt = true ∧
          (revocationsAt l.backend.slot history).contains jti = true := by
    rw [hleaves (P := fun b => (revocationsAt b.slot history).contains jti = true),
      List.any_eq_true]
  refine ⟨_, fun spans => hoperates.answer_isRevoked hjwt jti spans, hknown.trans ?_,
    fun exp since hlast hclocks => hknown.mpr ?_, fun exp since hlast hgone => ?_⟩
  · constructor
    · rintro ⟨l, hl, hkeeps, hcontains⟩
      obtain ⟨exp, since, hlast⟩ := exists_lastRevoked hcontains
      exact ⟨exp, since, hlast, l, hl, hkeeps, (hlast.contains_iff _).mp hcontains⟩
    · rintro ⟨exp, since, hlast, l, hl, hkeeps, hclocks⟩
      exact ⟨l, hl, hkeeps, (hlast.contains_iff _).mpr hclocks⟩
  · obtain ⟨l, hl, hkeeps⟩ := (Storage.has_iff .jwt _).mp hjwt
    exact ⟨l, hl, hkeeps, (hlast.contains_iff _).mpr fun clock => hclocks _ clock⟩
  · refine Bool.eq_false_iff.mpr fun hany => ?_
    obtain ⟨l, hl, hkeeps, hcontains⟩ := hknown.mp hany
    obtain ⟨clock, hclock, hlate⟩ := hgone l hl hkeeps
    exact Timestamp.not_lt.mpr ((hlast.contains_iff _).mp hcontains clock hclock) hlate

namespace Sample

/-- Two storages in memory that keep revocations. -/
def registers : StoragesOptions :=
  [(⟨"north"⟩, ⟨some .default, none⟩), (⟨"south"⟩, ⟨some .default, none⟩)]

/-- The two storages as one. -/
def registry : Storage :=
  .assembled [(⟨"north"⟩, ⟨0, "onmemory", 0, true, true⟩),
    (⟨"south"⟩, ⟨1, "onmemory", 0, true, true⟩)]

/-- A world without backends. -/
def registryWorld : World := .start (.clamp 0) ⟨.uniform (.seconds 60), false, 0, none⟩ ⟨"off", []⟩

/-- The world in which the storages have been made. -/
def registryOpened : World := (Storage.configured registers registryWorld).1

theorem configured_registers : Storage.configured registers registryWorld =
    (registryOpened, .ok registry) := Prod.ext rfl rfl

/-- The token is revoked until ten seconds have passed. Then the clock shows twenty. -/
def registryRevoked : World :=
  let expiry := (Timestamp.clamp 0).plus (.seconds 10)
  { (registry.start [] (.revoke expiry token) registryOpened).1 with
    clock := (Timestamp.clamp 0).plus (.seconds 20) }

/-- The first engine has completed a pass since then. -/
def registryHalfCollected : World := (registryRevoked.collect 0 (.seconds 3)).1

/-- The second engine has completed a pass, too. -/
def registryCollected : World := (registryHalfCollected.collect 1 (.seconds 3)).1

/-- The storages are in operation, and one of their engines has been collected. -/
theorem operated_registryHalfCollected : registry.Operated registers registryHalfCollected
    [.collected 0 ((Timestamp.clamp 0).plus (.seconds 20)),
      .revoked token ((Timestamp.clamp 0).plus (.seconds 10))] := by
  have hopened : registry.Operated registers registryOpened [] :=
    .configured configured_registers
  have hrevoked := (hopened.start [] (.revoke ((Timestamp.clamp 0).plus (.seconds 10)) token)).pass
    ((Timestamp.clamp 0).plus (.seconds 20)) 0
  exact hrevoked.collect 0 (.seconds 3) .unhurried

/-- The storages are in operation, and both of their engines have been collected. -/
theorem operated_registryCollected : registry.Operated registers registryCollected
    [.collected 1 ((Timestamp.clamp 0).plus (.seconds 20)),
      .collected 0 ((Timestamp.clamp 0).plus (.seconds 20)),
      .revoked token ((Timestamp.clamp 0).plus (.seconds 10))] :=
  operated_registryHalfCollected.collect 1 (.seconds 3) .unhurried

end Sample

/-- The token is still revoked after one of two engines has been collected, and no longer after both
have. -/
theorem revocations_kept_until_collected_registry :
    Sample.registry.has .jwt = true ∧
      (Sample.registry.start [] (.isRevoked Sample.token) Sample.registryHalfCollected).2.answer? =
        some (.ok (.revoked true)) ∧
      (Sample.registry.start [] (.isRevoked Sample.token) Sample.registryCollected).2.answer? =
        some (.ok (.revoked false)) := by
  have hjwt : Sample.registry.has .jwt = true := by decide +kernel
  refine ⟨hjwt, ?_, ?_⟩
  · obtain ⟨revoked, hanswer, hiff, -, -⟩ := revocations_kept_until_collected
      Sample.operated_registryHalfCollected hjwt Sample.token
    have hrevoked : revoked = true := by
      refine hiff.mpr ⟨_, [_], ⟨⟨[], rfl⟩, by simp⟩, ?_⟩
      -- the second engine has not completed a pass
      exact ⟨⟨[⟨"south"⟩], ⟨1, "onmemory", 0, true, true⟩⟩, by decide +kernel, rfl, by simp⟩
    rw [hanswer, hrevoked]
  · obtain ⟨revoked, hanswer, -, -, hgone⟩ := revocations_kept_until_collected
      Sample.operated_registryCollected hjwt Sample.token
    have hrevoked : revoked = false := by
      refine hgone _ [_, _] ⟨⟨[], rfl⟩, by simp⟩ fun l hl _ =>
        ⟨(Timestamp.clamp 0).plus (.seconds 20), ?_, by decide +kernel⟩
      have hslots : ∀ l ∈ Sample.registry.leaves, l.backend.slot = 0 ∨ l.backend.slot = 1 := by
        decide +kernel
      rcases hslots l hl with hslot | hslot <;> rw [hslot] <;> simp
    rw [hanswer, hrevoked]

end LongPoll
