import LongPoll.Proofs.Storage.Veil
/-!
# Storages do not see errors

Storages of any kind act in worlds that are alike in ways that are alike: which errors their
backends give decides neither what they do nor how long it takes.

* `Storage.blind_start`: a storage starts an operation.
* `Call.alike_resume`: a call runs on.
* `Call.alike_drop`: a call is dropped.
* `World.Alike.collectIfDue`: garbage is collected.

What a call is about to do is the same, too (`Call.canResume_eq`, `Call.timers_eq`).
-/

namespace LongPoll

section Pairs

variable {p p' p'' : World × Call}

theorem Alike.symm (h : Alike p p') : Alike p' p := ⟨h.world.symm, h.call.symm⟩

theorem Alike.trans (h : Alike p p') (h' : Alike p' p'') : Alike p p'' :=
  ⟨h.world.trans h'.world, h.call.trans h'.call⟩

end Pairs

@[simp]
theorem PollMerge.veiled_veiled (p : PollMerge) : p.veiled.veiled = p.veiled := by
  simp [PollMerge.veiled, veilFailures, Function.comp_def]

namespace Call

/-- Calls are veiled one by one. -/
theorem allVeiled_eq_map (parts : List (StorageId × Call)) :
    allVeiled parts = parts.map fun part => (part.1, part.2.veiled) := by
  induction parts with
  | nil => rw [allVeiled, List.map_nil]
  | cons part parts ih =>
    obtain ⟨id, c⟩ := part
    rw [allVeiled, ih, List.map_cons]

/-- A call that is veiled twice is veiled. -/
@[simp]
theorem veiled_veiled (c : Call) : c.veiled.veiled = c.veiled := by
  -- only settled answers hold errors, and the rest of a call is veiled part by part
  induction c using Call.induct with
  | settled a => simp [veiled]
  | sleeping wake a => simp [veiled]
  | polling slot poll => simp [veiled]
  | observed spans inner ih => simp [veiled, ih]
  | gathering r parts ih | merging phase p parts ih =>
    simp only [veiled, allVeiled_eq_map, List.map_map, Function.comp_def, PollMerge.veiled_veiled]
    congr 1
    exact List.map_congr_left fun part hpart => Prod.ext rfl (ih part hpart)

/-! ### Dropping -/

variable {w w' : World} {c c' : Call} {parts parts' : List (StorageId × Call)}

/-- To drop a call or to drop it veiled comes to the same. -/
theorem alike_drop_veiled (c : Call) (h : w.Alike w') : (c.drop w).Alike (c.veiled.drop w') := by
  induction c using Call.induct generalizing w w' with
  | settled a => simpa only [veiled, drop]
  | sleeping wake a => simpa only [veiled, drop]
  | polling slot poll =>
    rw [veiled, drop, drop, h.memory?_eq slot]
    split
    · exact h.setMemory slot _
    · exact h
  | observed spans inner ih =>
    rw [veiled, drop, drop]
    exact ih h
  | gathering r parts ih | merging phase p parts ih =>
    rw [veiled, drop, drop]
    -- the calls inside are dropped one after the other
    induction parts generalizing w w' with
    | nil =>
      rw [allVeiled, dropAll, dropAll]
      exact h
    | cons part parts ihparts =>
      obtain ⟨id, c⟩ := part
      rw [allVeiled, dropAll, dropAll]
      exact ihparts (fun part hpart => ih part (List.mem_cons_of_mem _ hpart))
        (ih (id, c) List.mem_cons_self h)

/-- To drop calls that are alike comes to the same. -/
theorem alike_drop (hc : c.veiled = c'.veiled) (h : w.Alike w') :
    (c.drop w).Alike (c'.drop w') := by
  -- the veiled call stands between the two
  have hveiled' := c'.alike_drop_veiled (.refl w')
  rw [← hc] at hveiled'
  exact (c.alike_drop_veiled h).trans hveiled'.symm

/-- To drop lists of calls that are alike comes to the same. -/
theorem alike_dropAll (hparts : allVeiled parts = allVeiled parts') (h : w.Alike w') :
    (dropAll parts w).Alike (dropAll parts' w') := by
  have hveiled : (gathering .liveness parts).veiled = (gathering .liveness parts').veiled := by
    rw [veiled, veiled, hparts]
  have hdrop := alike_drop hveiled h
  rwa [drop, drop] at hdrop

end Call

/-! ### Starting -/

/-- A race has come to worlds and standings that differ in errors and in the log only. -/
structure RacesAlike (p p' : World × Race) : Prop where
  /-- The worlds are alike. -/
  world : p.1.Alike p'.1
  /-- The standings are alike. -/
  race : p.2.veiled = p'.2.veiled

section Start

variable {members : List Member} (hmembers : ∀ m ∈ members, m.start.Blind) {w w' : World}

include hmembers

/-- Blind members that start one after the other come to the same in worlds that are alike. -/
theorem blind_startAll (spans : List LogSpan) (r : StorageRequest) (h : w.Alike w') :
    AllAlike (startAll members spans r w) (startAll members spans r w') := by
  induction members generalizing w w' with
  | nil => exact ⟨h, rfl⟩
  | cons m members ih =>
    have hfirst := hmembers m List.mem_cons_self spans r h
    have hrest := ih (fun m' hm' => hmembers m' (List.mem_cons_of_mem m hm')) hfirst.world
    rw [startAll_cons, startAll_cons]
    refine ⟨hrest.world, ?_⟩
    rw [Call.allVeiled, Call.allVeiled, hfirst.call, hrest.calls]

/-- Blind members enter races that are alike in ways that are alike. -/
theorem alike_enter {r r' : Race} (hr : r.veiled = r'.veiled) (spans : List LogSpan)
    (h : w.Alike w') :
    RacesAlike (Race.enter spans members r w) (Race.enter spans members r' w') := by
  induction members generalizing r r' w w' with
  | nil => exact ⟨h, hr⟩
  | cons m members ih =>
    obtain ⟨hmerge, -, -⟩ := Race.mk.inj hr
    obtain ⟨hlocator, hmax, hwait, -, -, -, -⟩ := PollMerge.mk.inj hmerge
    rw [Race.enter, Race.enter, hlocator, hmax, hwait]
    have hfirst := hmembers m List.mem_cons_self spans
      (.poll r'.merge.locator r'.merge.max r'.merge.wait) h
    generalize m.start spans (.poll r'.merge.locator r'.merge.max r'.merge.wait) w = started
      at hfirst ⊢
    generalize m.start spans (.poll r'.merge.locator r'.merge.max r'.merge.wait) w' = started'
      at hfirst ⊢
    have htake : (r.take m.id started.2).veiled = (r'.take m.id started'.2).veiled := by
      rw [Race.veiled_take, Race.veiled_take, hr, hfirst.call]
    obtain ⟨-, -, hwinner⟩ := Race.mk.inj htake
    dsimp only
    rw [hwinner]
    -- whoever wins here wins there, since only answers without errors win
    split
    · exact ⟨hfirst.world, htake⟩
    · exact ih (fun m' hm' => hmembers m' (List.mem_cons_of_mem m hm')) htake hfirst.world

/-- Races that are alike have the same winner and end in ways that are alike. -/
theorem alike_afterRace {r r' : Race} (hr : r.veiled = r'.veiled) (spans : List LogSpan)
    (h : w.Alike w') :
    Alike (PollMerge.afterRace members spans r w) (PollMerge.afterRace members spans r' w') := by
  obtain ⟨hmerge, hpending, hwinner⟩ := Race.mk.inj hr
  obtain ⟨hlocator, hmax, -, -, hhealthy, -, -⟩ := PollMerge.mk.inj hmerge
  unfold PollMerge.afterRace
  rw [hwinner]
  split
  next winner _ =>
    -- those who have lost are dropped, and the same members start once more
    dsimp only
    rw [hhealthy, PollMerge.quickPoll, hlocator, hmax, ← PollMerge.quickPoll]
    have hothers : ∀ m ∈ (membersNamed members r'.merge.healthy).filter (·.id ≠ winner),
        m.start.Blind := fun m hm => hmembers m (List.mem_filter.mp (List.mem_filter.mp hm).1).1
    have hstarted := blind_startAll hothers spans r'.merge.quickPoll
      (Call.alike_dropAll hpending h)
    exact PollMerge.alike_afterClosing hmerge hstarted.calls hstarted.world spans
  next =>
    -- nobody waits on one side exactly if nobody does on the other
    have hempty : r.pending.isEmpty = r'.pending.isEmpty := by
      rw [Call.allVeiled_eq_map, Call.allVeiled_eq_map] at hpending
      simpa using congrArg List.isEmpty hpending
    rw [hempty]
    split
    · exact PollMerge.alike_finish hmerge h spans
    · refine ⟨h, ?_⟩
      rw [Call.veiled, Call.veiled, hmerge, hpending]

/-- First rounds that are alike lead to races that are alike, or to none. -/
theorem alike_afterSweep {p p' : PollMerge} {parts parts' : List (StorageId × Call)}
    (hp : p.veiled = p'.veiled) (hparts : Call.allVeiled parts = Call.allVeiled parts')
    (spans : List LogSpan) (h : w.Alike w') :
    Alike (p.afterSweep members spans parts w) (p'.afterSweep members spans parts' w') := by
  unfold PollMerge.afterSweep
  -- either all polls have ended on both sides, or neither
  rcases Call.answers?_cases hparts with ⟨hnone, hnone'⟩ | ⟨as, as', has, has', hveiled⟩
  · rw [hnone, hnone']
    refine ⟨h, ?_⟩
    rw [Call.veiled, Call.veiled, hp, hparts]
  · rw [has, has']
    dsimp only
    have hsweep : (p.takeSweep as).veiled = (p'.takeSweep as').veiled := by
      rw [PollMerge.veiled_takeSweep, PollMerge.veiled_takeSweep, hp, hveiled]
    generalize p.takeSweep as = swept at hsweep ⊢
    generalize p'.takeSweep as' = swept' at hsweep ⊢
    obtain ⟨-, -, hwait, -, hhealthy, hbatches, -⟩ := PollMerge.mk.inj hsweep
    -- whether there is a race depends on who is well and on what was brought
    have hrace : swept.mustRace = swept'.mustRace := by
      rw [PollMerge.mustRace, PollMerge.mustRace, hwait, hhealthy, hbatches]
    rw [hrace, hhealthy]
    split
    · have hhealthy : ∀ m ∈ membersNamed members swept'.healthy, m.start.Blind :=
        fun m hm => hmembers m (List.mem_filter.mp hm).1
      have hr : (⟨swept, [], none⟩ : Race).veiled = (⟨swept', [], none⟩ : Race).veiled := by
        rw [Race.veiled, Race.veiled, hsweep]
      have hentered := alike_enter hhealthy hr spans h
      exact alike_afterRace hmembers hentered.race spans hentered.world
    · exact PollMerge.alike_finish hsweep h spans

/-- A multiplexer of blind members is blind. -/
theorem blind_startMultiplexer : (startMultiplexer members).Blind := by
  intro spans r w w' h
  have hcapable : ∀ m ∈ capableMembers members r, m.start.Blind :=
    fun m hm => hmembers m (mem_of_mem_capableMembers hm)
  unfold startMultiplexer
  dsimp only
  split
  next => exact ⟨h, rfl⟩
  next =>
    split
    next locator max wait _ =>
      -- a poll begins by asking everybody without a wait
      have hstarted := blind_startAll hcapable spans (.poll locator max .zero) h
      exact alike_afterSweep hcapable rfl hstarted.calls spans hstarted.world
    next =>
      have hstarted := blind_startAll hcapable spans r h
      exact ⟨hstarted.world, Call.veiled_gather hstarted.calls r⟩

end Start

/-- No storage sees errors. -/
theorem Storage.blind_start (s : Storage) : s.start.Blind := by
  induction s using Storage.induct with
  | backend b =>
    rw [Storage.start]
    exact b.blind_start
  | multiplexer children ih =>
    rw [Storage.start]
    refine blind_startMultiplexer fun m hm => ?_
    rw [Storage.members_eq_map] at hm
    obtain ⟨child, hchild, rfl⟩ := List.mem_map.mp hm
    exact ih child hchild
  | decorated id inner ih =>
    intro spans r w w' h
    rw [Storage.start]
    unfold startDecorated
    rw [h.enter_eq]
    -- both sides enter the same span, since only what is logged there may differ
    have hstarted := ih (w'.enter spans (r.span id)) r h
    have hobserved := hstarted.world.observe hstarted.call (w'.enter spans (r.span id))
    split
    · split
      · exact hobserved
      · exact ⟨h, rfl⟩
    · exact hobserved

/-- The members of a multiplexer do not see errors. -/
theorem Storage.blind_members {children : List (StorageId × Storage)} :
    ∀ m ∈ Storage.members children, m.start.Blind := fun m hm => by
  rw [Storage.start_of_mem_members hm]
  exact m.storage.blind_start

/-! ### Running on -/

section Resume

variable {w w' : World} {c c' : Call} {parts : List (StorageId × Call)}

section Parts

variable (hparts : ∀ part ∈ parts, ∀ {w w' : World} (spans : List LogSpan), w.Alike w' →
  Alike (part.2.resume spans w) (part.2.veiled.resume spans w'))

include hparts

/-- Several calls run on as they do veiled, if each of them does. -/
theorem alike_resumeAll (spans : List LogSpan) (h : w.Alike w') :
    AllAlike (Call.resumeAll spans parts w) (Call.resumeAll spans (Call.allVeiled parts) w') := by
  induction parts generalizing w w' with
  | nil =>
    rw [Call.allVeiled, Call.resumeAll, Call.resumeAll]
    exact ⟨h, rfl⟩
  | cons part parts ih =>
    obtain ⟨id, c⟩ := part
    obtain ⟨hfirst, hlater⟩ := List.forall_mem_cons.mp hparts
    have hfirst := hfirst spans h
    have hrest := ih hlater hfirst.world
    rw [Call.allVeiled, Call.resumeAll_cons, Call.resumeAll_cons]
    refine ⟨hrest.world, ?_⟩
    rw [Call.allVeiled, Call.allVeiled, hfirst.call, hrest.calls]

/-- The calls of a race run on as they do veiled, if each of them does. -/
theorem alike_resumeRace {r r' : Race} (hr : r.veiled = r'.veiled) (spans : List LogSpan)
    (h : w.Alike w') : RacesAlike (Call.resumeRace spans parts r w)
      (Call.resumeRace spans (Call.allVeiled parts) r' w') := by
  induction parts generalizing r r' w w' with
  | nil =>
    rw [Call.allVeiled, Call.resumeRace, Call.resumeRace]
    exact ⟨h, hr⟩
  | cons part parts ih =>
    obtain ⟨id, c⟩ := part
    obtain ⟨hfirst, hlater⟩ := List.forall_mem_cons.mp hparts
    -- the same polls have had their turns, and the same one has won
    obtain ⟨hmerge, hpending, hwinner⟩ := Race.mk.inj hr
    rw [Call.allVeiled, Call.resumeRace, Call.resumeRace, hwinner]
    split
    · -- the race is won, and the call waits
      refine ih hlater ?_ h
      simp only [Race.veiled, Call.allVeiled_append, Call.allVeiled, Call.veiled_veiled]
      rw [hmerge, hpending]
    · have hfirst := hfirst spans h
      refine ih hlater ?_ hfirst.world
      rw [Race.veiled_take, Race.veiled_take, hr, hfirst.call]

end Parts

namespace Call

/-- A call runs on as it does veiled. -/
theorem alike_resume_veiled (c : Call) (spans : List LogSpan) (h : w.Alike w') :
    Alike (c.resume spans w) (c.veiled.resume spans w') := by
  induction c using Call.induct generalizing spans w w' with
  | settled a =>
    rw [veiled, resume, resume]
    exact ⟨h, by simp [veiled]⟩
  | sleeping wake a =>
    -- who sleeps wakes up by the time, whatever the answer is
    rw [veiled, resume, resume, h.time_eq]
    split <;> exact ⟨h, by simp [veiled]⟩
  | polling slot poll =>
    rw [veiled, resume, resume, h.memory?_eq slot, h.clock_eq, h.time_eq]
    split
    · exact h.polled spans slot _
    · exact ⟨h, rfl⟩
  | observed inside inner ih =>
    rw [veiled, resume, resume]
    have hinner := ih inside h
    exact hinner.world.observe hinner.call inside
  | gathering r parts ih =>
    rw [veiled, resume, resume]
    have hparts := alike_resumeAll ih spans h
    exact ⟨hparts.world, veiled_gather hparts.calls r⟩
  | merging phase p parts ih =>
    have hp : p.veiled = p.veiled.veiled := p.veiled_veiled.symm
    -- each phase has a lemma for its parts and one for what follows
    cases phase with
    | sweeping =>
      rw [veiled, resume, resume]
      have hparts := alike_resumeAll ih spans h
      exact alike_afterSweep Storage.blind_members hp hparts.calls spans hparts.world
    | racing =>
      rw [veiled, resume, resume]
      have hr : (⟨p, [], none⟩ : Race).veiled = (⟨p.veiled, [], none⟩ : Race).veiled := by
        rw [Race.veiled, Race.veiled, ← hp]
      have hparts := alike_resumeRace ih hr spans h
      exact alike_afterRace Storage.blind_members hparts.race spans hparts.world
    | closing =>
      rw [veiled, resume, resume]
      have hparts := alike_resumeAll ih spans h
      exact PollMerge.alike_afterClosing hp hparts.calls hparts.world spans

/-- Calls that are alike run on in ways that are alike. -/
theorem alike_resume (hc : c.veiled = c'.veiled) (spans : List LogSpan) (h : w.Alike w') :
    Alike (c.resume spans w) (c'.resume spans w') := by
  have hveiled' := c'.alike_resume_veiled spans (.refl w')
  rw [← hc] at hveiled'
  exact (c.alike_resume_veiled spans h).trans hveiled'.symm

/-! ### Waiting -/

/-- A call can go on exactly if it can go on veiled. -/
theorem canResume_veiled (c : Call) (h : w.Alike w') : c.veiled.canResume w' = c.canResume w := by
  induction c using Call.induct with
  | settled a => simp only [veiled, canResume]
  | sleeping wake a => rw [veiled, canResume, canResume, h.time_eq]
  | polling slot poll => rw [veiled, canResume, canResume, h.memory?_eq slot, h.time_eq]
  | observed spans inner ih => rw [veiled, canResume, canResume, ih]
  | gathering r parts ih | merging phase p parts ih =>
    rw [veiled, canResume, canResume]
    induction parts with
    | nil => rw [allVeiled, anyCanResume, anyCanResume]
    | cons part parts ihparts =>
      obtain ⟨id, c⟩ := part
      rw [allVeiled, anyCanResume, anyCanResume, ih (id, c) List.mem_cons_self,
        ihparts fun part hpart => ih part (List.mem_cons_of_mem _ hpart)]

/-- The timers of a call are those that it has veiled. -/
theorem timers_veiled (c : Call) : c.veiled.timers = c.timers := by
  induction c using Call.induct with
  | settled a => simp only [veiled, timers]
  | sleeping wake a => simp only [veiled, timers]
  | polling slot poll => simp only [veiled, timers]
  | observed spans inner ih => rw [veiled, timers, timers, ih]
  | gathering r parts ih | merging phase p parts ih =>
    rw [veiled, timers, timers]
    induction parts with
    | nil => rw [allVeiled, allTimers]
    | cons part parts ihparts =>
      obtain ⟨id, c⟩ := part
      rw [allVeiled, allTimers, allTimers, ih (id, c) List.mem_cons_self,
        ihparts fun part hpart => ih part (List.mem_cons_of_mem _ hpart)]

/-- Calls that are alike can go on at the same times. -/
theorem canResume_eq (hc : c.veiled = c'.veiled) (h : w.Alike w') :
    c.canResume w = c'.canResume w' := by
  rw [← c.canResume_veiled h, hc, c'.canResume_veiled (.refl w')]

/-- In calls that are alike something ends by itself at the same times. -/
theorem timers_eq (hc : c.veiled = c'.veiled) : c.timers = c'.timers := by
  rw [← c.timers_veiled, hc, c'.timers_veiled]

end Call

end Resume

/-! ### Collecting garbage -/

namespace World

variable {w w' : World}

/-- Directories that are alike give the same answers to several lookups. -/
theorem Alike.findChannels (h : w.Alike w') (ids : List ChannelId) :
    (w.findChannels ids).1.Alike (w'.findChannels ids).1 ∧
      (w.findChannels ids).2 = (w'.findChannels ids).2 := by
  induction ids generalizing w w' with
  | nil => exact ⟨h, rfl⟩
  | cons id ids ih =>
    obtain ⟨hworld, hanswer⟩ := h.findChannel [] id
    obtain ⟨hrest, hfound⟩ := ih hworld
    rw [World.findChannels, World.findChannels]
    dsimp only
    rw [hanswer, hfound]
    split <;> exact ⟨hrest, rfl⟩

/-- Passes over the same engine in worlds that are alike come to the same. -/
theorem Alike.collect (h : w.Alike w') (slot : Nat) (timeout : Duration) (pace : Pace) :
    (w.collect slot timeout pace).1.Alike (w'.collect slot timeout pace).1 := by
  unfold World.collect
  rw [h.memory?_eq slot]
  split
  next => exact h
  next b _ =>
    split
    next => exact h
    next =>
      -- the directories are the same, so the channels are
      have hanswers : w.answers (pace.route b.memory) = w'.answers (pace.route b.memory) := by
        funext id
        rw [answers, answers, (h.findChannels _).2]
      dsimp only
      rw [hanswers, h.clock_eq]
      exact (h.findChannels _).1.setMemory slot _

/-- Passes are due at the same times in worlds that are alike, and come to the same. -/
theorem Alike.collectIfDue (h : w.Alike w') (slot : Nat) (pace : Pace) :
    (w.collectIfDue slot pace).Alike (w'.collectIfDue slot pace) := by
  unfold World.collectIfDue
  rw [h.memory?_eq slot, h.time_eq]
  split
  next => exact h
  next b _ =>
    split
    next => exact h
    next =>
      split
      -- the reports may differ, as the log does
      · have hcollect := (h.collect slot b.options.collectTimeout pace).report []
          (collectNotice (w.collect slot b.options.collectTimeout pace).2)
          (collectNotice (w'.collect slot b.options.collectTimeout pace).2)
        dsimp only
        rw [hcollect.memory?_eq slot, hcollect.time_eq]
        split
        · exact hcollect.setBackend slot rfl
        · exact hcollect
      · exact h

end World

end LongPoll
