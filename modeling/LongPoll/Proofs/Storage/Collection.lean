import LongPoll.Proofs.Storage.Forgetting
/-!
# Passes with the time allowed by the settings

Each engine collects its garbage in passes of limited length, and its settings say how long that is.
No settings are accepted that leave no time at all, so a pass that nothing hinders completes,
whatever the wall clock shows and however long channels keep things. Others may hold the engine, or
the time may be over before the end of the pass. Then it gives up with what it has removed, and the
revocations are as they were (`Memory.Passed`).

But any other time is accepted, and one that ends beyond what a clock can show is fatal to every
pass before it has begun: such an engine never forgets anything (`passes_complete_or_abort`).

The moment before which things are garbage is that of arithmetic which is checked at every step
(`Timestamp.minus_eq_getD`).
-/

namespace LongPoll

/-! ### The moment before which things are garbage -/

/-- The longest span of time that moments can be moved by, in nanoseconds: its milliseconds are
counted in 63 bits. -/
def Timestamp.spanLimit : Nat := (Word.values63 - 1) * nanosPerMilli

/-- To go back is to cut the span to what moments can be moved by, and to end up at the first moment
if there is none that early. -/
theorem Timestamp.minus_eq_getD (t : Timestamp) (d : Duration) :
    t.minus d = (ofNanos? (t.nanos - (Min.min d.nanos spanLimit : Nat))).getD first := by
  have hlow := t.le_nanos
  have hhigh := t.nanos_le
  -- the span that is cut already reaches from the last moment beyond the first one
  have hspan : maxNanos - minNanos < (spanLimit : Int) := by decide +kernel
  unfold minus clamp ofNanos?
  split
  next hbefore =>
    rw [dif_neg fun hin => by omega]
    rfl
  next hnot =>
    have hmin : Min.min d.nanos spanLimit = d.nanos := by omega
    have hin : minNanos ≤ t.nanos - (d.nanos : Int) ∧ t.nanos - (d.nanos : Int) ≤ maxNanos := by
      omega
    rw [dif_neg (by omega), hmin, dif_pos hin]
    rfl

/-! ### Passes -/

/-- Settings that are accepted leave some time. -/
theorem StorageOptions.isZero_of_kind {item : StorageOptions} {id : StorageId}
    {options : MemoryOptions} (h : item.kind id = .ok (.memory options)) :
    options.collectInterval.isZero = false ∧ options.collectTimeout.isZero = false := by
  obtain ⟨-, hinterval, htimeout⟩ := kind_eq_memory_iff.mp h
  exact ⟨Duration.isZero_eq_false_iff.mpr hinterval, Duration.isZero_eq_false_iff.mpr htimeout⟩

namespace Memory

/-- What can become of the engine `m` in a pass that is not aborted: the pass is complete, or it gives
up. Then it has removed garbage from channels at most. -/
inductive Passed (m : Memory) (now : Timestamp) (newest : ChannelId → Option Channel) :
    Memory → CollectResult → Prop
  /-- The pass is complete. -/
  | complete : Passed m now newest (m.collect now newest).1 (.done (m.collect now newest).2)
  /-- The pass gives up. -/
  | cancelled {m' : Memory} (text : String) (thins : m.Thins m') (revoked : m'.revoked = m.revoked) :
    Passed m now newest m' (.failed (.cancelled text))

/-- A pass that has begun is complete or gives up, and then all revocations are still there. -/
theorem passed_collectWithin (m : Memory) (pace : Pace) (now : Timestamp)
    (newest : ChannelId → Option Channel) : m.Passed now newest
      (m.collectWithin pace now newest).memory (m.collectWithin pace now newest).result := by
  rcases m.collectWithin_cases pace now newest with hdone | ⟨hlate, hrevoked⟩
  · rw [hdone]
    exact .complete
  · rw [hlate]
    exact .cancelled _ (m.thins_collectWithin now newest pace) hrevoked

/-- If there is some time, and the clock can show the end of it, a pass is refused only where others
hold the engine. -/
theorem collectRefusal?_of_ends {pace : Pace} {timeout : Duration} (hsome : timeout.isZero = false)
    (hends : timeout.endsBeyond pace.reading = false) : collectRefusal? pace timeout =
      if pace.admitted then none
      else some (.failed (.cancelled "GC could not acquire the storage lock in time")) := by
  rw [collectRefusal?, hends, hsome, if_neg Bool.false_ne_true, if_neg Bool.false_ne_true]
  cases pace.admitted <;> rfl

/-- A pass whose end the clock cannot show does not begin. -/
theorem collectRefusal?_of_endsBeyond {pace : Pace} {timeout : Duration}
    (h : timeout.endsBeyond pace.reading = true) :
    collectRefusal? pace timeout = some .overflow := by
  rw [collectRefusal?, if_pos h]

end Memory

namespace World

variable {w : World} {slot : Nat} {b : MemoryBackend} {pace : Pace}

/-- A pass that the engine itself starts has the time allowed by its settings. -/
theorem due?_eq_some {timeout : Duration} (hb : w.memory? slot = some b)
    (h : w.due? slot = some timeout) : timeout = b.options.collectTimeout := by
  rw [due?, hb, Option.bind_some] at h
  obtain ⟨due, -, heq⟩ := Option.map_eq_some_iff.mp h
  exact heq.symm

/-- An engine whose passes all end before they have begun keeps everything. -/
theorem collectIfDue_of_overflow (hb : w.memory? slot = some b)
    (h : w.collect slot b.options.collectTimeout pace = (w, .overflow)) :
    w.dueEpisodes slot pace = [] ∧
      ∃ b', (w.collectIfDue slot pace).memory? slot = some b' ∧ b'.memory = b.memory := by
  -- the pass is reported and the next one planned, and what the engine holds is as it was
  unfold dueEpisodes
  cases hdue : w.due? slot with
  | none =>
    rw [collectIfDue_of_not_due hdue]
    exact ⟨rfl, b, hb, rfl⟩
  | some timeout =>
    obtain rfl := due?_eq_some hb hdue
    obtain ⟨events, next, heq⟩ := collectIfDue_of_due hdue pace
    dsimp only
    rw [h] at heq
    rw [hb] at heq
    refine ⟨by rw [passEpisodes, h], { b with nextCollect := some next }, ?_, rfl⟩
    rw [heq]
    exact memory?_of_backend? (backend?_setBackend_self (backend?_of_memory? hb))

/-- How a pass gets along bears on what the engine does with it only by how it ends. -/
theorem collectIfDue_congr {pace' : Pace} (hb : w.memory? slot = some b)
    (h : w.collect slot b.options.collectTimeout pace =
      w.collect slot b.options.collectTimeout pace') :
    w.collectIfDue slot pace = w.collectIfDue slot pace' := by
  unfold collectIfDue
  rw [hb]
  dsimp only
  rw [h]

/-- A pass for which there is some time, the end of which the clock can show, is complete or gives
up. If nothing hinders it, it is complete. -/
theorem passed_collect {timeout : Duration} (hb : w.memory? slot = some b)
    (hsome : timeout.isZero = false) (hends : timeout.endsBeyond pace.reading = false) :
    (∃ m', (w.collect slot timeout pace).1.memory? slot = some { b with memory := m' } ∧
      b.memory.Passed w.clock (w.answers (pace.route b.memory)) m'
        (w.collect slot timeout pace).2) ∧
    (pace.admitted = true → pace.looks = .all →
      ∃ stats, (w.collect slot timeout pace).2 = .done stats) := by
  have hrefusal := Memory.collectRefusal?_of_ends hsome hends
  -- others hold the engine for all of the time, or the pass gets hold of it
  cases hadmitted : pace.admitted with
  | false =>
    rw [hadmitted, if_neg Bool.false_ne_true] at hrefusal
    rw [collect_of_refused hb hrefusal]
    exact ⟨⟨b.memory, hb, .cancelled _ (.refl _) rfl⟩, fun hheld => Bool.noConfusion hheld⟩
  | true =>
    rw [hadmitted, if_pos rfl] at hrefusal
    obtain ⟨ids, heq⟩ := collect_of_begun hb hrefusal
    rw [heq]
    have hids : (w.findChannels ids).1.memory? slot = some b := by
      rw [memory?, backend?, backends_findChannels]
      exact hb
    refine ⟨⟨_, memory?_of_backend? (backend?_setMemory_self hids _),
      b.memory.passed_collectWithin pace _ _⟩, fun _ hall => ?_⟩
    rw [b.memory.collectWithin_of_all _ _ hall]
    exact ⟨_, rfl⟩

end World

/-- Every engine of a configured storage has the settings of an entry. At any time and however a pass
gets along, one in the time that these allow is complete or gives up, and it is complete if nothing
hinders it. But if that time ends beyond what a clock can show, the pass ends before it has begun,
and whenever the engine starts a pass, everything in it stays. -/
theorem passes_complete_or_abort {o : StoragesOptions} {s : Storage} {w : World}
    {history : List Episode} (h : s.Operated o w history) :
    ∀ l ∈ s.leaves, ∃ id item b, (id, item) ∈ o.orDefault ∧
      item.kind id = .ok (.memory b.options) ∧ w.memory? l.backend.slot = some b ∧
      ∀ pace : Pace,
        (b.options.collectTimeout.endsBeyond pace.reading = false →
          (∃ m', (w.collect l.backend.slot b.options.collectTimeout pace).1.memory?
              l.backend.slot = some { b with memory := m' } ∧
            b.memory.Passed w.clock (w.answers (pace.route b.memory)) m'
              (w.collect l.backend.slot b.options.collectTimeout pace).2) ∧
          (pace.admitted = true → pace.looks = .all → ∃ stats,
            (w.collect l.backend.slot b.options.collectTimeout pace).2 = .done stats)) ∧
        (b.options.collectTimeout.endsBeyond pace.reading = true →
          w.collect l.backend.slot b.options.collectTimeout pace = (w, .overflow) ∧
          w.dueEpisodes l.backend.slot pace = [] ∧
          ∃ b', (w.collectIfDue l.backend.slot pace).memory? l.backend.slot = some b' ∧
            b'.memory = b.memory) := by
  obtain ⟨entries, rfl, hoperates⟩ := h.operates
  intro l hl
  rw [Storage.leaves_assembled] at hl
  obtain ⟨e, he, rfl⟩ := List.mem_map.mp hl
  obtain ⟨item, b, hitem, hkind, hb, -⟩ := hoperates e he
  -- an entry that allows a pass no time is not accepted
  have hsome := (StorageOptions.isZero_of_kind hkind).2
  refine ⟨e.1, item, b, hitem, hkind, hb, fun pace => ⟨World.passed_collect hb hsome, ?_⟩⟩
  intro hendless
  have hoverflow := World.collect_of_refused hb (Memory.collectRefusal?_of_endsBeyond hendless)
  exact ⟨hoverflow, World.collectIfDue_of_overflow hb hoverflow⟩

namespace Sample

/-- A pass that finds the time over at its first look at the clock. -/
def hurried : Pace := { Pace.unhurried with looks := .first 0 }

/-- A storage in memory whose passes may take as long as a duration can be. -/
def patient : StoragesOptions :=
  [(⟨"patient"⟩, ⟨some ⟨false, false, .seconds 1, .seconds 18446744073709551615⟩, none⟩)]

/-- The storage with these settings. -/
def archive : Storage := .assembled [(⟨"patient"⟩, ⟨0, "onmemory", 0, true, true⟩)]

/-- The world in which the storage has been made. -/
def archiveOpened : World := (Storage.configured patient registryWorld).1

theorem configured_patient : Storage.configured patient registryWorld =
    (archiveOpened, .ok archive) := Prod.ext rfl rfl

/-- A token that has expired is revoked, and then the first pass is due. -/
def archiveRevoked : World :=
  { (archive.start [] (.revoke (.clamp 0) token) archiveOpened).1 with
    clock := (Timestamp.clamp 0).plus (.seconds 20), time := 1000 }

/-- The sample storage is in operation when a token has been revoked. -/
theorem operated_archiveRevoked : archive.Operated patient archiveRevoked
    [.revoked token (.clamp 0)] := by
  have hopened := Storage.Operated.configured configured_patient
  exact (hopened.start [] (.revoke (.clamp 0) token)).pass _ _

/-- A pass over the engine ends before it has begun, however it gets along. -/
theorem collect_archiveRevoked (pace : Pace) :
    archiveRevoked.collect 0 (.seconds 18446744073709551615) pace =
      (archiveRevoked, .overflow) := by
  have hbeyond : (Duration.seconds 18446744073709551615).endsBeyond pace.reading = true := by
    have hlong : Word.values63 * nanosPerSecond ≤
        (Duration.seconds 18446744073709551615).nanos := by decide +kernel
    have hpos : 0 < nanosPerSecond := by decide
    rw [Duration.endsBeyond, decide_eq_true_eq, Nat.le_div_iff_mul_le hpos]
    omega
  exact World.collect_of_refused rfl (Memory.collectRefusal?_of_endsBeyond hbeyond)

end Sample

/-- The pass is complete; it gives up, and the revocation stays; it ends before it has begun. -/
theorem passes_complete_or_abort_samples :
    (∃ b stats, Sample.registryHalfCollected.memory? 1 = some b ∧
      (Sample.registryHalfCollected.collect 1 b.options.collectTimeout).2 = .done stats) ∧
    (∃ b m', Sample.registryHalfCollected.memory? 1 = some b ∧
      (Sample.registryHalfCollected.collect 1 b.options.collectTimeout Sample.hurried).1.memory? 1 =
        some { b with memory := m' } ∧ m'.revoked = b.memory.revoked) ∧
    (∃ b, Sample.archiveRevoked.memory? 0 = some b ∧
      Sample.archiveRevoked.collect 0 b.options.collectTimeout =
        (Sample.archiveRevoked, .overflow) ∧
      Sample.archiveRevoked.dueEpisodes 0 = []) := by
  have hends : ∀ b, Sample.registryHalfCollected.memory? 1 = some b →
      b.options.collectTimeout.endsBeyond nanosPerSecond = false := by
    intro b hb
    obtain rfl := Option.some.inj hb
    rfl
  have hendless : ∀ b, Sample.archiveRevoked.memory? 0 = some b →
      b.options.collectTimeout.endsBeyond nanosPerSecond = true := by
    intro b hb
    obtain rfl := Option.some.inj hb
    rfl
  obtain ⟨id, item, b, hitem, hkind, hb, hpaces⟩ := passes_complete_or_abort
    Sample.operated_registryHalfCollected
    ⟨[⟨"south"⟩], ⟨1, "onmemory", 0, true, true⟩⟩ (by decide +kernel)
  refine ⟨?_, ?_, ?_⟩
  · obtain ⟨stats, hdone⟩ := ((hpaces .unhurried).1 (hends b hb)).2 rfl rfl
    exact ⟨b, stats, hb, hdone⟩
  · obtain ⟨⟨m', hslot, hpassed⟩, -⟩ := (hpaces Sample.hurried).1 (hends b hb)
    refine ⟨b, m', hb, hslot, ?_⟩
    have hlate : (Sample.registryHalfCollected.collect 1 b.options.collectTimeout
        Sample.hurried).2 = .late := by
      obtain rfl := Option.some.inj hb
      rfl
    rw [hlate] at hpassed
    cases hpassed with
    | cancelled text thins revoked => exact revoked
  · obtain ⟨id, item, b, hitem, hkind, hb, hpaces⟩ := passes_complete_or_abort
      Sample.operated_archiveRevoked ⟨[⟨"patient"⟩], ⟨0, "onmemory", 0, true, true⟩⟩
      (by decide +kernel)
    obtain ⟨hoverflow, hnothing, -⟩ := (hpaces .unhurried).2 (hendless b hb)
    exact ⟨b, hb, hoverflow, hnothing⟩

/-- The settings are accepted, and the pass that is due ends before it has begun, however it gets
along. So a token that expired long ago still counts as revoked. -/
theorem endless_pass_aborts :
    Sample.patient.validate = .ok () ∧
      Storage.configured Sample.patient Sample.registryWorld =
        (Sample.archiveOpened, .ok Sample.archive) ∧
      ∀ pace, (∃ timeout, Sample.archiveRevoked.due? 0 = some timeout ∧
          (Sample.archiveRevoked.collect 0 timeout pace).2 = .overflow) ∧
        (Sample.archive.start [] (.isRevoked Sample.token)
          (Sample.archiveRevoked.collectIfDue 0 pace)).2.answer? = some (.ok (.revoked true)) := by
  refine ⟨rfl, Sample.configured_patient, fun pace => ⟨⟨_, rfl, ?_⟩, ?_⟩⟩
  · exact congrArg Prod.snd (Sample.collect_archiveRevoked pace)
  · have hsame : Sample.archiveRevoked.collectIfDue 0 pace =
        Sample.archiveRevoked.collectIfDue 0 .unhurried :=
      World.collectIfDue_congr rfl ((Sample.collect_archiveRevoked pace).trans
        (Sample.collect_archiveRevoked .unhurried).symm)
    rw [hsame]
    rfl

end LongPoll
