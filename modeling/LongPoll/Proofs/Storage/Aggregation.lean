import LongPoll.Proofs.Engine.Serving
import LongPoll.Proofs.Storage.FanOut
/-!
# Joined answers

Publishing, revoking, stopping and probing go to every backend that is able to, whatever the others
answer. A multiplexer succeeds if all of its storages do. Otherwise its failure lists those that
have failed, each with its own failure, which may be such a list again; the report of a probe has
one entry for each storage (`Joins`). `fan_out_joins` says so of every multiplexer in a tree, and of
what the tree as a whole answers.
-/

namespace LongPoll

/-- What several storages answer, joined as the answer of one. -/
structure Joins (r : StorageRequest) (answers : List (StorageId × StorageAnswer))
    (a : StorageAnswer) : Prop where
  /-- A success is reported with a reply of the kind that the operation asks for. -/
  fits : a.Fits r
  /-- The whole succeeds exactly if all storages do. -/
  ok_iff : (∃ reply, a = .ok reply) ↔ ∀ x ∈ answers, ∃ reply, x.2 = .ok reply
  /-- A failure lists the storages that have failed, in the order of their names and no name twice,
  with what they have failed with. -/
  failed : ∀ e, a = .error e → ∃ failures, e = .aggregate failures ∧
    ((failures.map Prod.fst).Pairwise fun id id' => id.text < id'.text) ∧
    ∀ id e', (id, e') ∈ failures ↔ (id, .error e') ∈ answers
  /-- The report of a probe has an entry for every storage and no other, with what the storage
  reports. -/
  detail : ∀ j, a = .ok (.detail j) → ∃ entries, j = .object entries ∧
    entries.map Prod.fst = answers.map (·.1.text) ∧ (entries.map Prod.fst).Nodup ∧
    ∀ x ∈ answers, ∃ j', x.2 = .ok (.detail j') ∧ (x.1.text, j') ∈ entries

section Combine

variable {r : StorageRequest} {answers : List (StorageId × StorageAnswer)}

/-- What a storage reports has an entry under its name. -/
theorem mem_detailsOf {id : StorageId} {j : Json} (h : (id, .ok (.detail j)) ∈ answers) :
    (id.text, j) ∈ detailsOf answers :=
  List.mem_filterMap.mpr ⟨_, h, rfl⟩

/-- Every storage that reports has an entry of its own. -/
theorem names_detailsOf (h : ∀ x ∈ answers, ∃ j, x.2 = .ok (.detail j)) :
    (detailsOf answers).map Prod.fst = answers.map (·.1.text) := by
  induction answers with
  | nil => rfl
  | cons x answers ih =>
    obtain ⟨id, a⟩ := x
    obtain ⟨hx, hrest⟩ := List.forall_mem_cons.mp h
    obtain ⟨j, rfl⟩ := hx
    exact congrArg (id.text :: ·) (ih hrest)

variable (hlookup : ∀ jti, r ≠ .isRevoked jti)

include hlookup

/-- Only a question about a revocation is answered with one. -/
theorem StorageAnswer.Fits.ne_revoked {a : StorageAnswer} (h : a.Fits r) (b : Bool) :
    a ≠ .ok (.revoked b) := by
  rintro rfl
  have hsuits := h _ rfl
  cases r with
  | isRevoked jti => exact hlookup jti rfl
  | _ => exact Bool.noConfusion hsuits

/-- A multiplexer joins the answers of its storages. -/
theorem joins_combineAnswers (hpoll : r.isPoll = false)
    (hsorted : (answers.map Prod.fst).Pairwise fun id id' => id.text < id'.text)
    (hfits : ∀ x ∈ answers, x.2.Fits r) : Joins r answers (combineAnswers r answers) := by
  have hwhole := fits_combineAnswers hpoll hfits
  have hno : ∀ x ∈ answers, x.2 ≠ .ok (.revoked true) := fun x hx =>
    (hfits x hx).ne_revoked hlookup true
  by_cases hok : failuresOf answers = []
  · have hall := failuresOf_eq_nil_iff.mp hok
    rw [combineAnswers_of_ok hno hok] at hwhole ⊢
    refine ⟨hwhole, iff_of_true ⟨_, rfl⟩ hall, nofun, fun j hj => ?_⟩
    -- reports come from probes only
    obtain ⟨hprobe, rfl⟩ : (∀ reply : StorageReply, reply.suits r = true →
        ∃ j', reply = .detail j') ∧ j = .object (detailsOf answers) := by
      cases r with
      | liveness | readiness =>
        refine ⟨fun reply hsuits => ?_, (StorageReply.detail.inj (Except.ok.inj hj)).symm⟩
        cases reply with
        | detail j' => exact ⟨j', rfl⟩
        | _ => exact Bool.noConfusion hsuits
      | _ => exact absurd (Except.ok.inj hj) nofun
    have hdetails : ∀ x ∈ answers, ∃ j', x.2 = .ok (.detail j') := fun x hx => by
      obtain ⟨reply, hreply⟩ := hall x hx
      obtain ⟨j', rfl⟩ := hprobe reply (hfits x hx reply hreply)
      exact ⟨j', hreply⟩
    refine ⟨_, rfl, names_detailsOf hdetails, ?_, fun x hx => ?_⟩
    · rw [names_detailsOf hdetails]
      refine List.pairwise_map.mpr ((List.pairwise_map.mp hsorted).imp fun hlt heq => ?_)
      rw [heq] at hlt
      exact String.lt_irrefl _ hlt
    · obtain ⟨j', hj'⟩ := hdetails x hx
      exact ⟨j', hj', mem_detailsOf (hj' ▸ hx)⟩
  · rw [combineAnswers_of_failures hno hok] at hwhole ⊢
    refine ⟨hwhole, iff_of_false nofun (mt failuresOf_eq_nil_iff.mpr hok), fun e he => ?_, nofun⟩
    refine ⟨failuresOf answers, (Except.error.inj he).symm, ?_, fun id e' => mem_failuresOf_iff⟩
    exact hsorted.sublist (ids_failuresOf_sublist answers)

end Combine

namespace Storage.Gathers

variable {r : StorageRequest} {s : Storage} {calls : List LeafCall} {a : StorageAnswer}

/-- Every multiplexer in a tree joins the answers of its storages. -/
theorem joins (h : s.Gathers r (fun answers a => a = combineAnswers r answers) calls a)
    (hs : s.Ordered) (hpoll : r.isPoll = false) (hlookup : ∀ jti, r ≠ .isRevoked jti)
    (hfits : ∀ x ∈ calls, x.answer.Fits r) : s.Gathers r (Joins r) calls a := by
  induction h with
  | backend b a => exact .backend b a
  | decorated id inside ih =>
    cases hs with
    | decorated _ hinside => exact .decorated id (ih hinside hfits)
  | @multiplexer children branches a able inside joined ih =>
    cases hs with
    | multiplexer sorted ordered =>
      have hinner := Branch.forall_answer_iff.mp hfits
      -- a storage that takes part is a child, so it is in order itself
      have hordered : ∀ x ∈ branches, x.storage.Ordered := fun x hx => by
        have hmem : (x.id, x.storage) ∈ children.filter (·.2.isAble r) :=
          able ▸ List.mem_map_of_mem (f := fun x : Branch => (x.id, x.storage)) hx
        exact ordered _ (List.mem_filter.mp hmem).1
      refine .multiplexer able (fun x hx => ih x hx (hordered x hx) (hinner x hx)) ?_
      rw [joined]
      refine joins_combineAnswers hlookup hpoll ?_ fun answer hanswer => ?_
      · -- the storages that take part stand in the same order as all
        have hids : (branches.map fun x => (x.id, x.answer)).map Prod.fst =
            (children.filter (·.2.isAble r)).map Prod.fst := by
          rw [← able, List.map_map, List.map_map]
          rfl
        rw [hids]
        exact sorted.sublist (List.filter_sublist.map Prod.fst)
      · obtain ⟨x, hx, rfl⟩ := List.mem_map.mp hanswer
        exact (inside x hx).fits hpoll (hinner x hx)

variable (h : s.Gathers r (Joins r) calls a)

include h

/-- A tree succeeds exactly if all backends do that were called. -/
theorem ok_iff :
    (∃ reply, a = .ok reply) ↔ ∀ x ∈ calls, ∃ reply, x.answer = .ok reply := by
  induction h with
  | backend b a => simp only [List.mem_singleton, forall_eq]
  | decorated id inside ih => exact ih
  | @multiplexer children branches a able inside joined ih =>
    rw [joined.ok_iff, List.forall_mem_map,
      Branch.forall_answer_iff (P := fun a => ∃ reply, a = .ok reply)]
    exact forall₂_congr fun x hx => ih x hx

/-- No storage but a backend turns down what the tree is able to do. -/
theorem exists_unsupported {text : String} (ha : a = .error (.unsupported text)) :
    ∃ x ∈ calls, x.answer = .error (.unsupported text) := by
  induction h with
  | backend b a => exact ⟨_, List.mem_singleton_self _, ha⟩
  | decorated id inside ih => exact ih ha
  | multiplexer able inside joined ih =>
    obtain ⟨failures, heq, -⟩ := joined.failed _ ha
    exact absurd heq nofun

end Storage.Gathers

/-! ### What scripted storages have seen -/

/-- A backend that starts an operation changes no other backend. -/
theorem confined_start (b : Backend) (spans : List LogSpan) (r : StorageRequest) (w : World) :
    World.Confined [b.slot] w (b.start spans r w).1 := by
  unfold Backend.start
  split
  next mb _ => exact confined_startMemory b.slot mb spans r w
  next script _ =>
    unfold startScripted
    dsimp only
    split
    next => split <;> exact w.confined_setBackend b.slot _
    next => exact w.confined_setBackend b.slot _
  next => exact .refl

/-- A scripted storage records the operation when it is called. -/
theorem backend?_start_scripted {b : Backend} {script : ScriptedStorage} {w : World}
    (h : w.backend? b.slot = some (.scripted script)) (spans : List LogSpan)
    (r : StorageRequest) :
    (b.start spans r w).1.backend? b.slot = some (.scripted (script.record r)) := by
  unfold Backend.start
  rw [h]
  dsimp only
  unfold startScripted
  dsimp only
  split
  next => split <;> exact World.backend?_setBackend_self h
  next => exact World.backend?_setBackend_self h

/-- The place of a scripted storage has been called as often as backends stand for it. -/
theorem Round.recorded {r : StorageRequest} {calls : List LeafCall} {w w' : World}
    (h : Round r calls w w') {slot : Nat} {script : ScriptedStorage}
    (hslot : w.backend? slot = some (.scripted script)) :
    w'.backend? slot = some (.scripted { script with
      calls := List.replicate (calls.countP (·.leaf.backend.slot = slot)) r ++ script.calls }) := by
  induction h generalizing script with
  | done hlogs =>
    rw [World.backend?, hlogs.backends_eq]
    exact hslot
  | @call x rest w w₁ w' hlogs spans hanswer hrest ih =>
    have hbefore : w₁.backend? slot = some (.scripted script) := by
      rw [World.backend?, hlogs.backends_eq]
      exact hslot
    -- the call is written down in front of the earlier ones, here or elsewhere
    by_cases hx : x.leaf.backend.slot = slot
    · subst hx
      rw [ih (backend?_start_scripted hbefore spans r), List.countP_cons_of_pos (by simp),
        List.replicate_succ', List.append_assoc]
      rfl
    · have hother := (confined_start x.leaf.backend spans r w₁).backend?_eq slot fun hmem =>
        hx (List.mem_singleton.mp hmem).symm
      rw [ih (hother.trans hbefore), List.countP_cons_of_neg (by simpa using hx)]

/-- An operation that is no poll and no question calls every backend that is able to carry it out
exactly once, whatever they answer; and if it needs no capability, it calls all of them. The whole
succeeds exactly if all of these calls do. Every multiplexer joins the answers of its storages, and
nobody turns the operation down but a backend. -/
theorem fan_out_joins {s : Storage} (hs : s.Ordered) {r : StorageRequest}
    (hpoll : r.isPoll = false) (hlookup : ∀ jti, r ≠ .isRevoked jti) (hable : s.isAble r = true)
    (spans : List LogSpan) (w : World) :
    ∃ calls a,
      calls.map LeafCall.leaf = s.leaves.filter (Leaf.isAble r) ∧
      (r.needs? = none → calls.map LeafCall.leaf = s.leaves) ∧
      (calls.map (·.leaf.path)).Nodup ∧
      Round r calls w (s.start spans r w).1 ∧
      (∀ slot script, w.backend? slot = some (.scripted script) →
        (s.start spans r w).1.backend? slot = some (.scripted { script with
          calls := List.replicate (calls.countP (·.leaf.backend.slot = slot)) r ++
            script.calls })) ∧
      (s.start spans r w).2.Concludes a ∧
      s.Gathers r (Joins r) calls a ∧
      ((∃ reply, a = .ok reply) ↔ ∀ x ∈ calls, ∃ reply, x.answer = .ok reply) ∧
      (∀ text, a = .error (.unsupported text) →
        ∃ x ∈ calls, x.answer = .error (.unsupported text)) := by
  obtain ⟨calls, a, hround, hforeseen, hgathers⟩ := s.fan_out hpoll hable spans w
  have hleaves := hgathers.leaves_eq hable
  have hjoins := hgathers.joins hs hpoll hlookup (hround.fits hpoll)
  refine ⟨calls, a, hleaves, fun hneeds => ?_, ?_, hround, fun slot script hslot =>
    hround.recorded hslot, Call.concludes_of_foreseen? hforeseen, hjoins, hjoins.ok_iff,
    fun text ha => hjoins.exists_unsupported ha⟩
  · rw [hleaves]
    exact List.filter_eq_self.mpr fun l _ => Storage.isAble_of_needs?_none hneeds _
  -- each backend is called under the way that leads to it, and no two ways are the same
  · have hpaths : calls.map (·.leaf.path) = (calls.map LeafCall.leaf).map Leaf.path := by
      rw [List.map_map]
      rfl
    rw [hpaths, hleaves]
    exact hs.nodup_paths.sublist (List.filter_sublist.map Leaf.path)

namespace Sample

/-- Storages in storages: one that fails after a while beside one in memory, and one that fails at
once. -/
def cluster : Storage :=
  .decorated ⟨"#root"⟩ <| .multiplexer
    [(⟨"east"⟩, .multiplexer
        [(⟨"broken"⟩, .backend ⟨0, "scripted", 0, true, false⟩),
          (⟨"memory"⟩, .decorated ⟨"memory"⟩ (.backend ⟨1, "onmemory", 0, true, true⟩)),
          (⟨"tokens"⟩, .backend ⟨1, "onmemory", 0, false, true⟩)]),
      (⟨"west"⟩, .decorated ⟨"west"⟩ (.backend ⟨2, "scripted", 0, true, false⟩))]

/-- The names in the sample storage are sorted. -/
theorem ordered_cluster : cluster.Ordered := by
  refine .decorated _ (.multiplexer (by decide +kernel) ?_)
  simp only [List.forall_mem_cons, List.not_mem_nil, false_implies, implies_true, and_true]
  refine ⟨.multiplexer (by decide +kernel) ?_, .decorated _ (.backend _)⟩
  simp only [List.forall_mem_cons, List.not_mem_nil, false_implies, implies_true, and_true]
  exact ⟨.backend _, .decorated _ (.backend _), .backend _⟩

/-- A world with the backends of these storages. -/
def clusterWorld : World :=
  { World.start (.clamp 0) ⟨.uniform (.seconds 60), false, 0, none⟩ ⟨"off", []⟩ with
    backends :=
      [.scripted ⟨⟨[⟨some 100, .error (.storage "down")⟩], [], [], [], [], [], []⟩, []⟩,
        .memory ⟨.default, .empty, none⟩,
        .scripted ⟨⟨[⟨none, .error (.storage "full")⟩], [], [], [], [], [], []⟩, []⟩] }

/-- A message is published to all of them. -/
def broadcast : World × Call := cluster.start [] (.publish greeting) clusterWorld

/-- The wording of the failure that an answer tells of, if it tells of one. -/
def errorText : StorageAnswer → String
  | .error e => e.message
  | .ok _ => ""

end Sample

/-- Every storage is asked to publish, and the failures are joined multiplexer by multiplexer. -/
theorem fan_out_joins_cluster :
    Sample.cluster.Ordered ∧ (Sample.cluster.isAble (.publish Sample.greeting) = true) ∧
      ∃ calls e, Sample.broadcast.2.Concludes (.error e) ∧
        calls.map (·.leaf.path.map (·.text)) = [["east", "broken"], ["east", "memory"], ["west"]] ∧
        Round (.publish Sample.greeting) calls Sample.clusterWorld Sample.broadcast.1 ∧
        e.message = "2 storage(s) failed: storage \"east\": 1 storage(s) failed: " ++
          "storage \"broken\": Storage error: down; storage \"west\": Storage error: full" := by
  have hable : Sample.cluster.isAble (.publish Sample.greeting) = true := by decide +kernel
  obtain ⟨calls, a, hleaves, -, -, hround, -, hconcludes, -⟩ :=
    fan_out_joins Sample.ordered_cluster rfl (fun _ heq => StorageRequest.noConfusion heq) hable
      [] Sample.clusterWorld
  have hend := hconcludes.ends Sample.broadcast.2 .here [] { Sample.broadcast.1 with time := 1000 }
    (by decide +kernel)
  have hmessage : (Sample.broadcast.2.resume []
      { Sample.broadcast.1 with time := 1000 }).2.answer?.map Sample.errorText =
        some ("2 storage(s) failed: storage \"east\": 1 storage(s) failed: " ++
          "storage \"broken\": Storage error: down; storage \"west\": Storage error: full") := by
    decide +kernel
  rw [hend, Option.map_some, Option.some_inj] at hmessage
  cases a with
  | ok reply =>
    have hempty : "" = _ := hmessage
    exact absurd hempty (by decide +kernel)
  | error e =>
    refine ⟨Sample.ordered_cluster, hable, calls, e, hconcludes, ?_, hround, hmessage⟩
    have hpaths : calls.map (·.leaf.path.map (·.text)) =
        (calls.map LeafCall.leaf).map (·.path.map (·.text)) := by
      rw [List.map_map]
      rfl
    rw [hpaths, hleaves]
    decide +kernel

end LongPoll
