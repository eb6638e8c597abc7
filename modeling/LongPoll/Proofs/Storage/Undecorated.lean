import LongPoll.Proofs.Storage.Bare
/-!
# Storages do not see decoration

Decorated storages start their operations as they do without decoration, and calls run on and are
dropped in the same way. A storage that can be decorated is asked only for what it is able to do,
and a decorated storage looks at what the storage inside is able to do, so both agree about who
takes part in an operation.

* `Storage.startWith`, `Call.resumeWith`: what storages with backends of any kind do. Those of the
  program are one kind (`Storage.startWith_start`, `Call.resumeWith_start`).
* `Storage.matches_startWith_of_offers`: a storage starts an operation.
* `Call.matches_resumeWith`: a call runs on.
* `Call.muted_drop`: a call is dropped.
-/

namespace LongPoll

/-! ### Backends of any kind -/

mutual

/-- How a storage starts an operation if its backends start theirs in the given way. -/
def Storage.startWith (leaf : Backend → Starter) : Storage → Starter
  | .backend b => leaf b
  | .multiplexer children => startMultiplexer (Storage.membersWith leaf children)
  | .decorated id inner => startDecorated id inner (inner.startWith leaf)

/-- Named storages with these ways to start their operations. -/
def Storage.membersWith (leaf : Backend → Starter) : List (StorageId × Storage) → List Member
  | [] => []
  | (id, s) :: rest => ⟨id, s, s.startWith leaf⟩ :: Storage.membersWith leaf rest

end

mutual

/-- Run a call that waits, if backends start operations in the given way. -/
def Call.resumeWith (leaf : Backend → Starter) (spans : List LogSpan) :
    Call → World → World × Call
  | .settled a, w => (w, .settled a)
  | .sleeping wake a, w => (Call.sleeping wake a).resume spans w
  | .polling slot poll, w => (Call.polling slot poll).resume spans w
  | .gathering r parts, w =>
    let (w, parts) := Call.resumeAllWith leaf spans parts w
    (w, gather r parts)
  | .merging phase p parts, w =>
    match phase with
    | .sweeping =>
      let (w, parts) := Call.resumeAllWith leaf spans parts w
      p.afterSweep (Storage.membersWith leaf p.members) spans parts w
    | .racing =>
      let (w, r) := Call.resumeRaceWith leaf spans parts ⟨p, [], none⟩ w
      PollMerge.afterRace (Storage.membersWith leaf p.members) spans r w
    | .closing =>
      let (w, parts) := Call.resumeAllWith leaf spans parts w
      p.afterClosing spans parts w
  | .observed inside inner, w =>
    let (w, c) := inner.resumeWith leaf inside w
    observe inside c w

/-- Run several calls. -/
def Call.resumeAllWith (leaf : Backend → Starter) (spans : List LogSpan) :
    List (StorageId × Call) → World → World × List (StorageId × Call)
  | [], w => (w, [])
  | (id, c) :: rest, w =>
    let (w, c) := c.resumeWith leaf spans w
    let (w, rest) := Call.resumeAllWith leaf spans rest w
    (w, (id, c) :: rest)

/-- Run the calls of a race. -/
def Call.resumeRaceWith (leaf : Backend → Starter) (spans : List LogSpan) :
    List (StorageId × Call) → Race → World → World × Race
  | [], r, w => (w, r)
  | (id, c) :: rest, r, w =>
    if r.winner.isSome then
      Call.resumeRaceWith leaf spans rest { r with pending := r.pending ++ [(id, c)] } w
    else
      let (w, c) := c.resumeWith leaf spans w
      Call.resumeRaceWith leaf spans rest (r.take id c) w

end

namespace Storage

variable (leaf : Backend → Starter)

/-- Members start their operations each in its own way. -/
theorem membersWith_eq_map (children : List (StorageId × Storage)) :
    membersWith leaf children =
      children.map fun child => ⟨child.1, child.2, child.2.startWith leaf⟩ := by
  induction children with
  | nil => rw [membersWith, List.map_nil]
  | cons child children ih => rw [membersWith, ih, List.map_cons]

/-- The backends of the program are of one kind. -/
@[simp]
theorem startWith_start (s : Storage) : s.startWith Backend.start = s.start := by
  -- along the tree, since the members of a multiplexer are storages themselves
  induction s using Storage.induct with
  | backend b => rw [startWith, start]
  | multiplexer children ih =>
    rw [startWith, start, membersWith_eq_map, members_eq_map]
    exact congrArg startMultiplexer <| List.map_congr_left fun child hchild =>
      congrArg (Member.mk child.1 child.2) (ih child hchild)
  | decorated id inner ih => rw [startWith, start, ih]

/-- The members of a multiplexer of the program are of the same kind. -/
@[simp]
theorem membersWith_start (children : List (StorageId × Storage)) :
    membersWith Backend.start children = members children := by
  rw [membersWith_eq_map, members_eq_map]
  exact List.map_congr_left fun child _ =>
    congrArg (Member.mk child.1 child.2) child.2.startWith_start

end Storage

namespace Call

section Parts

variable {parts : List (StorageId × Call)}
  (hparts : ∀ part ∈ parts, ∀ spans w,
    part.2.resumeWith Backend.start spans w = part.2.resume spans w)

include hparts

/-- Several calls of the program run on as calls of this kind, if each of them does. -/
theorem resumeAllWith_start (spans : List LogSpan) (w : World) :
    resumeAllWith Backend.start spans parts w = resumeAll spans parts w := by
  induction parts generalizing w with
  | nil => rw [resumeAllWith, resumeAll]
  | cons part parts ih =>
    obtain ⟨hfirst, hlater⟩ := List.forall_mem_cons.mp hparts
    rw [resumeAllWith, resumeAll, hfirst]
    dsimp only
    rw [ih hlater]

/-- A race of the program runs on as one of this kind, if each of its calls does. -/
theorem resumeRaceWith_start (spans : List LogSpan) (r : Race) (w : World) :
    resumeRaceWith Backend.start spans parts r w = resumeRace spans parts r w := by
  induction parts generalizing r w with
  | nil => rw [resumeRaceWith, resumeRace]
  | cons part parts ih =>
    obtain ⟨hfirst, hlater⟩ := List.forall_mem_cons.mp hparts
    rw [resumeRaceWith, resumeRace, hfirst]
    dsimp only
    rw [ih hlater, ih hlater]

end Parts

/-- Calls of the program are of this kind, too. -/
@[simp]
theorem resumeWith_start (c : Call) (spans : List LogSpan) (w : World) :
    c.resumeWith Backend.start spans w = c.resume spans w := by
  induction c using Call.induct generalizing spans w with
  | settled a => rw [resumeWith, resume]
  | sleeping wake a => rw [resumeWith]
  | polling slot poll => rw [resumeWith]
  | observed inside inner ih => rw [resumeWith, resume, ih]
  | gathering r parts ih => rw [resumeWith, resume, resumeAllWith_start ih]
  | merging phase p parts ih =>
    cases phase <;>
      rw [resumeWith, resume] <;>
      simp only [resumeAllWith_start ih, resumeRaceWith_start ih, Storage.membersWith_start]

end Call

/-! ### Dropping -/

namespace Call

variable {w w' : World}

/-- To drop a call is to drop it without decoration, apart from the log. -/
theorem muted_drop (c : Call) (h : w.muted = w'.muted) :
    (c.drop w).muted = (c.bare.drop w').muted := by
  induction c using Call.induct generalizing w w' with
  | settled a =>
    rw [bare, drop, drop]
    exact h
  | sleeping wake a =>
    rw [bare, drop, drop]
    exact h
  | polling slot poll =>
    rw [bare, drop, drop, World.memory?_eq_of_muted h slot]
    split
    · exact World.muted_setMemory h slot _
    · exact h
  | observed spans inner ih =>
    rw [bare, drop]
    exact ih h
  | gathering r parts ih | merging phase p parts ih =>
    rw [bare, drop, drop]
    -- the calls inside are dropped one after the other
    induction parts generalizing w w' with
    | nil =>
      rw [allBare, dropAll, dropAll]
      exact h
    | cons part parts ihparts =>
      obtain ⟨hfirst, hlater⟩ := List.forall_mem_cons.mp ih
      rw [allBare, dropAll, dropAll]
      exact ihparts hlater (hfirst h)

/-- The same for several calls. -/
theorem muted_dropAll (parts : List (StorageId × Call)) (h : w.muted = w'.muted) :
    (dropAll parts w).muted = (dropAll (allBare parts) w').muted := by
  have hall := (gathering .liveness parts).muted_drop h
  rwa [bare, drop, drop] at hall

end Call

/-! ### Starting -/

/-- A member of a multiplexer with the decoration taken off. -/
def Member.bare (leaf : Backend → Starter) (m : Member) : Member :=
  ⟨m.id, m.storage.bare, m.storage.bare.startWith leaf⟩

section Start

variable {leaf : Backend → Starter} {members : List Member} {w w' : World}

/-- Members that match start one after the other in ways that match. -/
theorem matches_startAll {r : StorageRequest}
    (hmembers : ∀ m ∈ members, m.start.Matches r (m.bare leaf).start)
    (spans spans' : List LogSpan) (h : w.muted = w'.muted) :
    AllMatch (startAll members spans r w)
      (startAll (members.map (Member.bare leaf)) spans' r w') := by
  induction members generalizing w w' with
  | nil => exact ⟨h, rfl, trivial⟩
  | cons m members ih =>
    obtain ⟨hfirst, hlater⟩ := List.forall_mem_cons.mp hmembers
    have hstarted := hfirst spans spans' h
    have hrest := ih hlater hstarted.world
    rw [List.map_cons, startAll_cons, startAll_cons]
    refine ⟨hrest.world, ?_, hstarted.fit, hrest.fit⟩
    rw [Call.allBare, hstarted.call, hrest.calls]
    rfl

/-- Members are named in the same way without decoration. -/
theorem membersNamed_bare (members : List Member) (p : PollMerge) :
    membersNamed (members.map (Member.bare leaf)) p.bare.healthy =
      (membersNamed members p.healthy).map (Member.bare leaf) := by
  simp only [membersNamed, PollMerge.bare, Storage.allBare_eq_map, List.filter_map, List.any_map,
    Function.comp_def]
  rfl

section Polls

variable (hmembers : ∀ m ∈ members, ∀ locator max wait,
  m.start.Matches (.poll locator max wait) (m.bare leaf).start)

include hmembers

/-- Members that match enter a race in ways that match. -/
theorem matches_enter {p p' : World × Race} (h : RacesMatch p p') (spans spans' : List LogSpan) :
    RacesMatch (Race.enter spans members p.2 p.1)
      (Race.enter spans' (members.map (Member.bare leaf)) p'.2 p'.1) := by
  induction members generalizing p p' with
  | nil => exact h
  | cons m members ih =>
    obtain ⟨hfirst, hlater⟩ := List.forall_mem_cons.mp hmembers
    obtain ⟨w, r⟩ := p
    obtain ⟨w', r'⟩ := p'
    obtain rfl : r.bare = r' := h.race
    have hstarted := hfirst r.merge.locator r.merge.max r.merge.wait spans spans' h.world
    have htaken := Race.matches_take h.merge_fit h.pending_fit m.id hstarted
    rw [List.map_cons, Race.enter, Race.enter]
    exact htaken.unlessWon (ih hlater htaken)

/-- Those who have lost a race are dropped and asked again, and they are the same ones. -/
theorem matches_afterRace {p p' : World × Race} (h : RacesMatch p p')
    (spans spans' : List LogSpan) : Matches (PollMerge.afterRace members spans p.2 p.1)
      (PollMerge.afterRace (members.map (Member.bare leaf)) spans' p'.2 p'.1) := by
  obtain ⟨w, r⟩ := p
  obtain ⟨w', r'⟩ := p'
  obtain rfl : r.bare = r' := h.race
  unfold PollMerge.afterRace
  -- without a winner the polls wait on, or the time is over
  cases hwinner : r.winner with
  | none =>
    have hempty : (Call.allBare r.pending).isEmpty = r.pending.isEmpty := by
      cases r.pending <;> rfl
    rw [Race.bare, hwinner]
    dsimp only
    rw [hempty]
    split
    · exact PollMerge.matches_finish _ h.world spans spans'
    · exact ⟨h.world, rfl, h.merge_fit, h.pending_fit⟩
  | some winner =>
    have hothers : ∀ m ∈ (membersNamed members r.merge.healthy).filter (·.id ≠ winner),
        m.start.Matches r.merge.quickPoll (m.bare leaf).start := fun m hm =>
      hmembers m (List.mem_filter.mp (List.mem_filter.mp hm).1).1 _ _ _
    have hstarted := matches_startAll hothers spans spans'
      (Call.muted_dropAll r.pending h.world)
    -- those who have lost have the same names
    have hnamed : (membersNamed (members.map (Member.bare leaf)) r.merge.bare.healthy).filter
        (·.id ≠ winner) = ((membersNamed members r.merge.healthy).filter
          (·.id ≠ winner)).map (Member.bare leaf) := by
      rw [membersNamed_bare, List.filter_map]
      rfl
    rw [Race.bare, hwinner]
    dsimp only
    rw [hnamed]
    exact PollMerge.matches_afterClosing h.merge_fit hstarted spans spans'

/-- What follows on the first round of a poll matches, too. -/
theorem matches_afterSweep {p : PollMerge} (hp : p.Fit) {q q' : World × List (StorageId × Call)}
    (h : AllMatch q q') (spans spans' : List LogSpan) :
    Matches (p.afterSweep members spans q.2 q.1)
      (p.bare.afterSweep (members.map (Member.bare leaf)) spans' q'.2 q'.1) := by
  unfold PollMerge.afterSweep
  rw [← h.calls, Call.answers?_allBare h.fit]
  split
  · exact ⟨h.world, rfl, hp, h.fit⟩
  next answers _ =>
    -- what was taken in is what the storages have answered, decorated or not
    have hfit := PollMerge.fit_takeSweep hp answers
    rw [← PollMerge.bare_takeSweep]
    generalize p.takeSweep answers = swept at hfit ⊢
    dsimp only
    rw [PollMerge.mustRace_bare]
    split
    · have hhealthy : ∀ m ∈ membersNamed members swept.healthy, ∀ locator max wait,
          m.start.Matches (.poll locator max wait) (m.bare leaf).start :=
        fun m hm => hmembers m (List.mem_filter.mp hm).1
      -- the race starts with nobody in it
      have hblank : RacesMatch (q.1, ⟨swept, [], none⟩) (q'.1, ⟨swept.bare, [], none⟩) :=
        ⟨h.world, rfl, hfit, trivial⟩
      rw [membersNamed_bare]
      exact matches_afterRace hmembers (matches_enter hhealthy hblank spans spans') spans spans'
    · exact PollMerge.matches_finish swept h.world spans spans'

end Polls

/-- The same members take part without decoration. -/
theorem capableMembers_bare (members : List Member) (r : StorageRequest) :
    capableMembers (members.map (Member.bare leaf)) r =
      (capableMembers members r).map (Member.bare leaf) := by
  unfold capableMembers
  split
  · rw [List.filter_map]
    refine congrArg (List.map _) (List.filter_congr fun m _ => ?_)
    exact Storage.has_bare _ m.storage
  · rfl

/-- Members that take part in an operation are able to. -/
theorem isAble_of_mem_capableMembers {r : StorageRequest} {m : Member}
    (h : m ∈ capableMembers members r) : m.storage.isAble r = true := by
  cases hneeds : r.needs? with
  | none => exact Storage.isAble_of_needs?_none hneeds m.storage
  | some c =>
    rw [capableMembers, hneeds] at h
    exact (Storage.isAble_of_needs? hneeds m.storage).trans (List.mem_filter.mp h).2

/-- How storages that take part in an operation start it together. -/
def startTogether (capable : List Member) : Starter := fun spans r w =>
  match r with
  | .poll locator max wait =>
    let named := capable.map fun m => (m.id, m.storage)
    let p : PollMerge := ⟨locator, max, wait, named, named, ∅, []⟩
    let (w, parts) := startAll capable spans p.quickPoll w
    p.afterSweep capable spans parts w
  | _ =>
    let (w, parts) := startAll capable spans r w
    (w, gather r parts)

/-- A multiplexer refuses an operation that none of its members is able to carry out, and otherwise
those that are start it together. -/
theorem startMultiplexer_eq (members : List Member) (spans : List LogSpan) (r : StorageRequest)
    (w : World) : startMultiplexer members spans r w =
      match r.needs?, (capableMembers members r).isEmpty with
      | some c, true => (w, .settled (.error (Storage.lacks c)))
      | _, _ => startTogether (capableMembers members r) spans r w := by
  unfold startMultiplexer capableMembers
  cases r.needs? with
  | none => rfl
  | some c =>
    dsimp only
    cases members.filter fun m => Storage.has c m.storage <;> rfl

/-- A member that does the same without decoration, if it is able to do it at all. -/
def Member.Transparent (leaf : Backend → Starter) (m : Member) : Prop :=
  ∀ r, m.storage.isAble r = true → m.start.Matches r (m.bare leaf).start

/-- Members that match and are able to take part start an operation together in ways that match. -/
theorem matches_startTogether {r : StorageRequest} (hmembers : ∀ m ∈ members, m.Transparent leaf)
    (hable : ∀ m ∈ members, m.storage.isAble r = true) :
    (startTogether members).Matches r (startTogether (members.map (Member.bare leaf))) := by
  intro spans spans' w w' h
  -- operations that are not polls are started and gathered
  have hothers : Matches ((startAll members spans r w).1,
        gather r (startAll members spans r w).2)
      ((startAll (members.map (Member.bare leaf)) spans' r w').1,
        gather r (startAll (members.map (Member.bare leaf)) spans' r w').2) := by
    have hstarted := matches_startAll (fun m hm => hmembers m hm r (hable m hm)) spans spans' h
    refine ⟨hstarted.world, ?_, Call.fit_gather r hstarted.fit⟩
    rw [Call.bare_gather r hstarted.fit, hstarted.calls]
  cases r with
  | poll locator max wait =>
    -- all of them are able to take part in any poll
    have hpolls : ∀ m ∈ members, ∀ locator max wait,
        m.start.Matches (.poll locator max wait) (m.bare leaf).start :=
      fun m hm locator max wait => hmembers m hm _ (hable m hm)
    have hstarted := matches_startAll (fun m hm => hpolls m hm locator max .zero) spans spans' h
    let named := members.map fun m => (m.id, m.storage)
    let p : PollMerge := ⟨locator, max, wait, named, named, ∅, []⟩
    have hfit : p.Fit := by
      intro child hchild
      obtain ⟨m, hm, rfl⟩ := List.mem_map.mp hchild
      exact hable m hm
    have hbare : p.bare = ⟨locator, max, wait,
        (members.map (Member.bare leaf)).map fun m => (m.id, m.storage),
        (members.map (Member.bare leaf)).map fun m => (m.id, m.storage), ∅, []⟩ := by
      simp only [p, named, PollMerge.bare, Storage.allBare_eq_map, List.map_map]
      rfl
    have hswept := matches_afterSweep hpolls hfit hstarted spans spans'
    rw [hbare] at hswept
    exact hswept
  | _ => exact hothers

/-- Multiplexers match if their members do. -/
theorem matches_startMultiplexer (hmembers : ∀ m ∈ members, m.Transparent leaf)
    (r : StorageRequest) : (startMultiplexer members).Matches r
      (startMultiplexer (members.map (Member.bare leaf))) := by
  intro spans spans' w w' h
  rw [startMultiplexer_eq, startMultiplexer_eq, capableMembers_bare, List.isEmpty_map]
  split
  · exact matches_settled h _
  · exact matches_startTogether (fun m hm => hmembers m (mem_of_mem_capableMembers hm))
      (fun m hm => isAble_of_mem_capableMembers hm) spans spans' h

end Start

/-- To take the decoration off storages is to take it off members. -/
theorem Storage.membersWith_allBare (leaf : Backend → Starter)
    (children : List (StorageId × Storage)) :
    membersWith leaf (allBare children) =
      (membersWith leaf children).map (Member.bare leaf) := by
  rw [membersWith_eq_map, membersWith_eq_map, allBare_eq_map, List.map_map, List.map_map]
  rfl

section Leaf

variable {leaf : Backend → Starter} (hleaf : ∀ b r, (leaf b).Matches r (leaf b))

include hleaf

/-- A storage that is able to take part in an operation starts it as it does without decoration. -/
theorem Storage.matches_startWith {s : Storage} {r : StorageRequest} (hable : s.isAble r = true) :
    (s.startWith leaf).Matches r (s.bare.startWith leaf) := by
  induction s using Storage.induct generalizing r with
  | backend b =>
    rw [Storage.bare, Storage.startWith]
    exact hleaf b r
  | multiplexer children ih =>
    rw [Storage.bare, Storage.startWith, Storage.startWith, membersWith_allBare]
    refine matches_startMultiplexer (fun m hm r hable => ?_) r
    rw [membersWith_eq_map] at hm
    obtain ⟨child, hchild, rfl⟩ := List.mem_map.mp hm
    exact ih child hchild hable
  | decorated id inner ih =>
    rw [isAble_decorated] at hable
    intro spans spans' w w' h
    rw [Storage.bare, Storage.startWith, startDecorated_of_isAble hable]
    exact (ih hable _ spans' h).observe _

omit hleaf in
/-- Several storages that all lack a capability refuse what needs it, decorated or not. -/
theorem Storage.startWith_of_lacking {s : Storage} (hs : s.isMultiplexer = true)
    {r : StorageRequest} {c : Capability} (hneeds : r.needs? = some c) (hlacks : s.has c = false)
    (spans : List LogSpan) (w : World) :
    s.startWith leaf spans r w = (w, .settled (.error (lacks c))) := by
  cases s with
  | backend b => exact Bool.noConfusion hs
  | multiplexer children =>
    -- no member takes part
    have hcapable : capableMembers (membersWith leaf children) r = [] := by
      rw [has, anyHas_eq_any, List.any_eq_false] at hlacks
      rw [capableMembers, hneeds, membersWith_eq_map]
      refine List.filter_eq_nil_iff.mpr fun m hm => ?_
      obtain ⟨child, hchild, rfl⟩ := List.mem_map.mp hm
      exact hlacks child hchild
    rw [startWith, startMultiplexer_eq, hneeds, hcapable]
    rfl
  | decorated id inner =>
    rw [has] at hlacks
    -- the refusal comes before anything is logged
    rw [startWith, startDecorated, hneeds]
    dsimp only
    rw [hlacks]
    exact if_neg Bool.false_ne_true

/-- A storage starts every operation that it offers as it does without decoration. -/
theorem Storage.matches_startWith_of_offers {s : Storage} {r : StorageRequest}
    (h : s.offers r = true) : (s.startWith leaf).Matches r (s.bare.startWith leaf) := by
  -- a storage that is not able to do what it offers is a multiplexer, and refuses
  cases hable : s.isAble r with
  | true => exact matches_startWith hleaf hable
  | false =>
    rw [offers, hable, Bool.false_or] at h
    have hbare : s.bare.isMultiplexer = true := (isMultiplexer_bare s).trans h
    cases hneeds : r.needs? with
    | none => exact Bool.noConfusion ((isAble_of_needs?_none hneeds s).symm.trans hable)
    | some c =>
      have hlacks : s.has c = false := (isAble_of_needs? hneeds s).symm.trans hable
      intro spans spans' w w' hw
      rw [startWith_of_lacking h hneeds hlacks,
        startWith_of_lacking hbare hneeds ((has_bare c s).trans hlacks)]
      exact matches_settled hw _

/-- The members of a poll that is in progress do the same without decoration. -/
theorem Storage.matches_membersWith {p : PollMerge} (hp : p.Fit) :
    ∀ m ∈ membersWith leaf p.members, ∀ locator max wait,
      m.start.Matches (.poll locator max wait) (m.bare leaf).start := by
  intro m hm locator max wait
  rw [membersWith_eq_map] at hm
  obtain ⟨child, hchild, rfl⟩ := List.mem_map.mp hm
  exact matches_startWith hleaf (hp child hchild)

/-! ### Running on -/

section Parts

variable {parts : List (StorageId × Call)}
  (hparts : ∀ part ∈ parts, part.2.Fit → ∀ spans spans' {w w' : World}, w.muted = w'.muted →
    Matches (part.2.resumeWith leaf spans w) (part.2.bare.resumeWith leaf spans' w'))

omit hleaf

include hparts

/-- Several calls run on as they do without decoration, if each of them does. -/
theorem matches_resumeAllWith (hfit : Call.AllFit parts) (spans spans' : List LogSpan)
    {w w' : World} (h : w.muted = w'.muted) : AllMatch (Call.resumeAllWith leaf spans parts w)
      (Call.resumeAllWith leaf spans' (Call.allBare parts) w') := by
  induction parts generalizing w w' with
  | nil =>
    rw [Call.allBare, Call.resumeAllWith, Call.resumeAllWith]
    exact ⟨h, rfl, trivial⟩
  | cons part parts ih =>
    obtain ⟨hfirst, hlater⟩ := List.forall_mem_cons.mp hparts
    have hresumed := hfirst hfit.1 spans spans' h
    have hrest := ih hlater hfit.2 hresumed.world
    rw [Call.allBare, Call.resumeAllWith, Call.resumeAllWith]
    refine ⟨hrest.world, ?_, hresumed.fit, hrest.fit⟩
    dsimp only
    rw [Call.allBare, hresumed.call, hrest.calls]

/-- The calls of a race run on as they do without decoration, if each of them does. -/
theorem matches_resumeRaceWith (hfit : Call.AllFit parts) {p p' : World × Race}
    (h : RacesMatch p p') (spans spans' : List LogSpan) :
    RacesMatch (Call.resumeRaceWith leaf spans parts p.2 p.1)
      (Call.resumeRaceWith leaf spans' (Call.allBare parts) p'.2 p'.1) := by
  induction parts generalizing p p' with
  | nil =>
    rw [Call.allBare, Call.resumeRaceWith, Call.resumeRaceWith]
    exact h
  | cons part parts ih =>
    obtain ⟨id, c⟩ := part
    obtain ⟨hfirst, hlater⟩ := List.forall_mem_cons.mp hparts
    obtain ⟨w, r⟩ := p
    obtain ⟨w', r'⟩ := p'
    obtain rfl : r.bare = r' := h.race
    -- decoration has no part in who has won
    have hwinner : r.bare.winner = r.winner := rfl
    rw [Call.allBare, Call.resumeRaceWith, Call.resumeRaceWith, hwinner]
    split
    · -- the race is won, and the call waits
      have hwaiting : RacesMatch (w, { r with pending := r.pending ++ [(id, c)] })
          (w', { r.bare with pending := r.bare.pending ++ [(id, c.bare)] }) := by
        refine ⟨h.world, ?_, h.merge_fit, Call.allFit_append h.pending_fit ⟨hfit.1, trivial⟩⟩
        rw [Race.bare, Call.allBare_append]
        rfl
      exact ih hlater hfit.2 hwaiting
    · have hresumed := hfirst hfit.1 spans spans' h.world
      exact ih hlater hfit.2 (Race.matches_take h.merge_fit h.pending_fit id hresumed)

end Parts

/-- A call runs on as it does without decoration. -/
theorem Call.matches_resumeWith {c : Call} (hfit : c.Fit) (spans spans' : List LogSpan)
    {w w' : World} (h : w.muted = w'.muted) :
    Matches (c.resumeWith leaf spans w) (c.bare.resumeWith leaf spans' w') := by
  induction c using Call.induct generalizing spans spans' w w' with
  | settled a =>
    rw [bare, resumeWith, resumeWith]
    exact matches_settled h a
  | sleeping wake a =>
    rw [bare, resumeWith, resumeWith, resume, resume, World.time_eq_of_muted h]
    split
    · exact matches_settled h a
    · exact ⟨h, rfl, trivial⟩
  | polling slot poll =>
    rw [bare, resumeWith, resumeWith, resume, resume, World.memory?_eq_of_muted h slot,
      World.clock_eq_of_muted h, World.time_eq_of_muted h]
    split
    · exact matches_polled h spans spans' slot _
    · exact ⟨h, rfl, trivial⟩
  | observed inside inner ih =>
    rw [bare, resumeWith]
    exact (ih hfit.2 inside spans' h).observe inside
  | gathering r parts ih =>
    have hresumed := matches_resumeAllWith ih hfit spans spans' h
    rw [bare, resumeWith, resumeWith]
    refine ⟨hresumed.world, ?_, fit_gather r hresumed.fit⟩
    dsimp only
    rw [bare_gather r hresumed.fit, hresumed.calls]
  | merging phase p parts ih =>
    -- the members are able to be polled, since they were when the poll began
    obtain ⟨hp, hparts⟩ := hfit
    have hmembers := Storage.matches_membersWith hleaf hp
    have hbare : Storage.membersWith leaf p.bare.members =
        (Storage.membersWith leaf p.members).map (Member.bare leaf) :=
      Storage.membersWith_allBare leaf p.members
    -- each phase has a lemma for its parts and one for what follows
    cases phase with
    | sweeping =>
      have hresumed := matches_resumeAllWith ih hparts spans spans' h
      rw [bare, resumeWith, resumeWith, hbare]
      exact matches_afterSweep hmembers hp hresumed spans spans'
    | racing =>
      have hblank : RacesMatch (w, ⟨p, [], none⟩) (w', ⟨p.bare, [], none⟩) :=
        ⟨h, rfl, hp, trivial⟩
      have hresumed := matches_resumeRaceWith ih hparts hblank spans spans'
      rw [bare, resumeWith, resumeWith, hbare]
      exact matches_afterRace hmembers hresumed spans spans'
    | closing =>
      have hresumed := matches_resumeAllWith ih hparts spans spans' h
      rw [bare, resumeWith, resumeWith]
      exact PollMerge.matches_afterClosing hp hresumed spans spans'

end Leaf

end LongPoll
