import LongPoll.Proofs.Storage.FanOut
/-!
# Questions about revocations

A storage answers that a token is revoked if one of its backends says so, that it is not revoked
only if all backends that keep revocations say so, and with a failure otherwise
(`revocation_lookup_fails_closed`). So a backend that fails cannot hide what another one knows, and
no failure is taken for a no. This is so at every multiplexer, and hence for the whole tree.
-/

namespace LongPoll

section Combine

variable {jti : Jti} {answers : List (StorageId × StorageAnswer)}

/-- A multiplexer says that a token is revoked exactly if one of its storages does. -/
theorem combineAnswers_eq_revoked_iff :
    combineAnswers (.isRevoked jti) answers = .ok (.revoked true) ↔
      ∃ x ∈ answers, x.2 = .ok (.revoked true) := by
  refine ⟨fun heq => ?_, combineAnswers_of_revoked⟩
  by_contra hnone
  have hno : ∀ x ∈ answers, x.2 ≠ .ok (.revoked true) := fun x hx hyes => hnone ⟨x, hx, hyes⟩
  by_cases hok : failuresOf answers = []
  · rw [combineAnswers_of_ok hno hok] at heq
    exact absurd heq nofun
  · rw [combineAnswers_of_failures hno hok] at heq
    exact absurd heq nofun

/-- A reply to a question about a revocation is a yes or a no. -/
theorem StorageAnswer.Fits.revoked {a : StorageAnswer} (h : a.Fits (.isRevoked jti)) :
    (∃ e, a = .error e) ∨ ∃ b, a = .ok (.revoked b) := by
  cases a with
  | error e => exact Or.inl ⟨e, rfl⟩
  | ok reply =>
    have hsuits := h reply rfl
    cases reply with
    | revoked b => exact Or.inr ⟨b, rfl⟩
    | _ => exact Bool.noConfusion hsuits

/-- A multiplexer says that a token is not revoked exactly if all of its storages do. -/
theorem combineAnswers_eq_valid_iff (hfits : ∀ x ∈ answers, x.2.Fits (.isRevoked jti)) :
    combineAnswers (.isRevoked jti) answers = .ok (.revoked false) ↔
      ∀ x ∈ answers, x.2 = .ok (.revoked false) := by
  -- one that says neither yes nor no has failed
  constructor
  · intro heq x hx
    have hno : ∀ x ∈ answers, x.2 ≠ .ok (.revoked true) := fun x hx hyes => by
      rw [combineAnswers_of_revoked ⟨x, hx, hyes⟩] at heq
      exact absurd heq nofun
    rcases (hfits x hx).revoked with ⟨e, hfailed⟩ | ⟨b, hanswer⟩
    · -- a failure of one storage would have been a failure of the whole
      have hmem : (x.1, .error e) ∈ answers := by
        rw [← hfailed]
        exact hx
      have hfailures : failuresOf answers ≠ [] := List.ne_nil_of_mem (mem_failuresOf_iff.mpr hmem)
      rw [combineAnswers_of_failures hno hfailures] at heq
      exact absurd heq nofun
    · cases b with
      | false => exact hanswer
      | true => exact absurd hanswer (hno x hx)
  · intro hall
    have hno : ∀ x ∈ answers, x.2 ≠ .ok (.revoked true) := fun x hx hyes => by
      rw [hall x hx] at hyes
      exact absurd hyes nofun
    rw [combineAnswers_of_ok hno (failuresOf_eq_nil_iff.mpr fun x hx => ⟨_, hall x hx⟩)]

end Combine

namespace Storage.Gathers

variable {jti : Jti} {s : Storage} {calls : List LeafCall} {a : StorageAnswer}
  (h : s.Gathers (.isRevoked jti) (fun answers a => a = combineAnswers (.isRevoked jti) answers)
    calls a)

include h

/-- The storages know a token to be revoked exactly if one of their backends does. -/
theorem eq_revoked_iff : a = .ok (.revoked true) ↔ ∃ x ∈ calls, x.answer = .ok (.revoked true) := by
  -- along the tree: a multiplexer asks for its storages what they have gathered
  induction h with
  | backend b a => simp only [List.mem_singleton, exists_eq_left]
  | decorated id inside ih => exact ih
  | @multiplexer children branches a able inside joined ih =>
    rw [joined, combineAnswers_eq_revoked_iff,
      Branch.exists_answer_iff (P := (· = .ok (.revoked true)))]
    simp only [List.mem_map, exists_exists_and_eq_and]
    exact exists_congr fun x => and_congr_right fun hx => ih x hx

/-- The storages know a token not to be revoked exactly if all of their backends do. -/
theorem eq_valid_iff (hfits : ∀ x ∈ calls, x.answer.Fits (.isRevoked jti)) :
    a = .ok (.revoked false) ↔ ∀ x ∈ calls, x.answer = .ok (.revoked false) := by
  induction h with
  | backend b a => simp only [List.mem_singleton, forall_eq]
  | decorated id inside ih => exact ih hfits
  | @multiplexer children branches a able inside joined ih =>
    have hinner := Branch.forall_answer_iff.mp hfits
    have hanswers : ∀ x ∈ branches.map fun x => (x.id, x.answer), x.2.Fits (.isRevoked jti) := by
      intro answer hanswer
      obtain ⟨x, hx, rfl⟩ := List.mem_map.mp hanswer
      exact (inside x hx).fits rfl (hinner x hx)
    rw [joined, combineAnswers_eq_valid_iff hanswers, List.forall_mem_map,
      Branch.forall_answer_iff (P := (· = .ok (.revoked false)))]
    exact forall₂_congr fun x hx => ih x hx (hinner x hx)

end Storage.Gathers

/-- A storage keeps revocations if one of its backends does. When it is asked about a token, it asks
all of these, once each and no others. It says that the token is revoked if one of them does, that
it is not revoked if all of them say so, and fails otherwise. -/
theorem revocation_lookup_fails_closed (s : Storage) (jti : Jti) (spans : List LogSpan)
    (w : World) :
    (s.has .jwt = true ↔ ∃ l ∈ s.leaves, l.backend.jwt = true) ∧
    (s.has .jwt = true → ∃ calls a,
      calls.map LeafCall.leaf = s.leaves.filter (·.backend.jwt) ∧
      Round (.isRevoked jti) calls w (s.start spans (.isRevoked jti) w).1 ∧
      (s.start spans (.isRevoked jti) w).2.Concludes a ∧
      (a = .ok (.revoked true) ↔ ∃ x ∈ calls, x.answer = .ok (.revoked true)) ∧
      (a = .ok (.revoked false) ↔ ∀ x ∈ calls, x.answer = .ok (.revoked false)) ∧
      ((∃ e, a = .error e) ↔ (∀ x ∈ calls, x.answer ≠ .ok (.revoked true)) ∧
        ∃ x ∈ calls, x.answer ≠ .ok (.revoked false))) := by
  -- who is able to answer is who keeps revocations
  have hleaf : ∀ l : Leaf, l.isAble (.isRevoked jti) = l.backend.jwt := fun l => by
    rw [Leaf.isAble, Storage.isAble_of_needs? rfl, Storage.has]
  refine ⟨Storage.has_iff .jwt s |>.trans ?_, fun hhas => ?_⟩
  · simp only [Storage.has]
  · have hable : s.isAble (.isRevoked jti) = true := hhas
    obtain ⟨calls, a, hround, hforeseen, hgathers⟩ := s.fan_out rfl hable spans w
    have hfits := hround.fits rfl
    -- a yes and a no pass through the tree
    have hyes := hgathers.eq_revoked_iff
    have hno := hgathers.eq_valid_iff hfits
    refine ⟨calls, a, ?_, hround, Call.concludes_of_foreseen? hforeseen, hyes, hno, ?_⟩
    · rw [hgathers.leaves_eq hable]
      exact List.filter_congr fun l _ => hleaf l
    · -- what is neither a yes nor a no is a failure
      have hneither :
          (∃ e, a = .error e) ↔ ¬a = .ok (.revoked true) ∧ ¬a = .ok (.revoked false) := by
        rcases (hgathers.fits rfl hfits).revoked with ⟨e, rfl⟩ | ⟨b, rfl⟩
        · exact iff_of_true ⟨e, rfl⟩ (by simp)
        · refine iff_of_false (by simp) fun hneither => ?_
          cases b with
          | false => exact hneither.2 rfl
          | true => exact hneither.1 rfl
      rw [hneither, hyes, hno]
      simp only [not_exists, not_and, not_forall, exists_prop, ne_eq]

namespace Sample

/-- A backend that answers for revocations, but not at once and never with success. -/
def faulty : ScriptedStorage :=
  ⟨⟨[], [], [], [⟨some 100, .error (.storage "down")⟩], [], [], []⟩, []⟩

/-- A backend that knows all tokens to be revoked, and takes its time to say so. -/
def strict : ScriptedStorage := ⟨⟨[], [], [], [⟨some 50, .ok true⟩], [], [], []⟩, []⟩

/-- Storages in storages: a faulty backend beside one that keeps no revocations, and a backend in
memory beside a strict one. -/
def vault : Storage :=
  .decorated ⟨"#root"⟩ <| .multiplexer
    [(⟨"inner"⟩, .multiplexer
        [(⟨"faulty"⟩, .decorated ⟨"faulty"⟩ (.backend ⟨0, "scripted", 0, false, true⟩)),
          (⟨"memory"⟩, .backend ⟨1, "onmemory", 0, true, false⟩)]),
      (⟨"outer"⟩, .multiplexer
        [(⟨"memory"⟩, .backend ⟨1, "onmemory", 0, true, true⟩),
          (⟨"strict"⟩, .decorated ⟨"strict"⟩ (.backend ⟨2, "scripted", 0, false, true⟩))])]

/-- A world with the backends of these storages. -/
def vaultWorld : World :=
  { World.start (.clamp 0) ⟨.uniform (.seconds 60), false, 0, none⟩ ⟨"off", []⟩ with
    backends := [.scripted faulty, .memory ⟨.default, .empty, none⟩, .scripted strict] }

/-- A token. -/
def token : Jti := ⟨"token", by decide +kernel⟩

/-- The question about the token. -/
def inquiry : World × Call := vault.start [] (.isRevoked token) vaultWorld

end Sample

/-- One backend fails, but a strict one knows the token to be revoked. -/
theorem revocation_lookup_fails_closed_vault :
    (∃ l ∈ Sample.vault.leaves, l.backend.jwt = true) ∧
      Sample.inquiry.2.Concludes (.ok (.revoked true)) ∧
      ∃ calls, Round (.isRevoked Sample.token) calls Sample.vaultWorld Sample.inquiry.1 ∧
        calls.map (·.leaf.path.map (·.text)) =
          [["inner", "faulty"], ["outer", "memory"], ["outer", "strict"]] ∧
        ∃ x ∈ calls, x.answer = .ok (.revoked true) := by
  have hhas : Sample.vault.has .jwt = true := by decide +kernel
  obtain ⟨hleaf, hlookup⟩ :=
    revocation_lookup_fails_closed Sample.vault Sample.token [] Sample.vaultWorld
  obtain ⟨calls, a, hleaves, hround, hconcludes, hyes, -, -⟩ := hlookup hhas
  -- after a second all backends have answered
  have hend := hconcludes.ends Sample.inquiry.2 .here [] { Sample.inquiry.1 with time := 1000 }
    (by decide +kernel)
  have hsays : (Sample.inquiry.2.resume [] { Sample.inquiry.1 with time := 1000 }).2.answer?.map
      saysRevoked = some true := by decide +kernel
  rw [hend, Option.map_some, Option.some_inj, saysRevoked_iff] at hsays
  subst hsays
  refine ⟨hleaf.mp hhas, hconcludes, calls, hround, ?_, hyes.mp rfl⟩
  have hpaths : calls.map (·.leaf.path.map (·.text)) =
      (calls.map LeafCall.leaf).map (·.path.map (·.text)) := by
    rw [List.map_map]
    rfl
  rw [hpaths, hleaves]
  decide +kernel

end LongPoll
