import LongPoll.Proofs.Engine.Hosts
/-!
# An engine and the polls that run at it

A poll that may be interrupted stands in one of four places between two of its steps (`Stance`): it
is about to look at its queue, it has found nothing and is on its way to the bell, it listens there,
or it has left the bell at its deadline. `Memory.Attends` says that an engine attends to polls that
stand so: a poll is counted at the bell of the subscription that is registered under its locator,
and as long as one waits there or is on its way, something stands for each message in the queue. It
is a ring that has woken a poll or is kept as a permit, or a poll that is about to look, or else a
ring that was missed, because it fell on a permit that was kept already.

As to one bell, this is `Bell.Tallies` and `Bell.Meets`. They refine `Bell.Counts` and
`Bell.Covers`, which know nothing of polls on their way. Each step of a poll and each operation of
the engine keeps the relation: `Attends.looked`, `Attends.come`, `Attends.listen_of_permit`,
`Attends.listen_of_not_permit`, `Attends.resume`, `Attends.leave`, `Attends.publish` and
`Attends.thin`.
-/

namespace LongPoll

/-! ### Bells with polls on their way -/

namespace Bell

/-- The bell knows the polls that listen at it, which have these tickets, and has counted some more
that have yet to listen. -/
structure Tallies (b : Bell) (tickets : List Ticket) (coming : Nat) : Prop where
  /-- A poll that listens waits or has been woken, and not both. -/
  listed : (b.waiting ++ b.woken).Perm tickets
  /-- All polls are counted, also those on their way. -/
  blocked_eq : b.blocked = tickets.length + coming
  /-- While a poll waits, no ring is kept. -/
  permit_eq : b.waiting ≠ [] → b.permit = false

/-- A ring would come to nothing: nobody waits, and a permit is kept already. -/
def isFull (b : Bell) : Bool := b.permit && b.waiting.isEmpty

/-- The rings that have woken a poll or will spare one the waiting. -/
def wakeUps (b : Bell) : Nat := b.woken.length + b.permit.toNat

/-- While a poll waits at the bell or is on its way there, a ring stands for each message in the
queue, but for some for which there are other reasons. -/
def Meets (b : Bell) (queued coming owed : Nat) : Prop :=
  coming ≠ 0 ∨ b.waiting ≠ [] → queued ≤ b.wakeUps + owed

section Bell

variable {b : Bell} {tickets : List Ticket} {t : Ticket} {queued coming owed : Nat}

/-- As to the polls that listen, the bell counts them, the others on their way apart. -/
theorem Tallies.counts (h : b.Tallies tickets coming) :
    ({ b with blocked := tickets.length } : Bell).Counts tickets :=
  ⟨h.listed, rfl, h.permit_eq⟩

theorem Tallies.perm (h : b.Tallies tickets coming) {tickets' : List Ticket}
    (hperm : tickets.Perm tickets') : b.Tallies tickets' coming :=
  ⟨h.listed.trans hperm, hperm.length_eq ▸ h.blocked_eq, h.permit_eq⟩

theorem tallies_fresh : fresh.Tallies [] 0 := ⟨List.Perm.nil, rfl, fun _ => rfl⟩

theorem Meets.mono (h : b.Meets queued coming owed) {owed' : Nat} (hle : owed ≤ owed') :
    b.Meets queued coming owed' := fun hhere =>
  Nat.le_trans (h hhere) (Nat.add_le_add_left hle _)

/-! ### Rings -/

/-- A ring does not look at the count of the polls. -/
theorem ring_with_blocked (b : Bell) (n : Nat) :
    ({ b with blocked := n } : Bell).ring = { b.ring with blocked := n } := by
  unfold Bell.ring
  dsimp only
  split <;> rfl

@[simp]
theorem blocked_ring (b : Bell) : b.ring.blocked = b.blocked := by
  unfold Bell.ring
  split <;> rfl

/-- Who waits after a ring has waited before. -/
theorem waiting_of_ring (h : b.ring.waiting ≠ []) : b.waiting ≠ [] := by
  intro hnil
  refine h ?_
  unfold Bell.ring
  rw [hnil]

/-- A ring counts unless it falls on a full bell. -/
theorem wakeUps_ring (b : Bell) : b.ring.wakeUps + b.isFull.toNat = b.wakeUps + 1 := by
  obtain ⟨permit, waiting, woken, blocked⟩ := b
  cases waiting with
  | nil => cases permit <;> rfl
  | cons t rest =>
    show (woken ++ [t]).length + permit.toNat + (permit && false).toNat =
      woken.length + permit.toNat + 1
    rw [Bool.and_false, Bool.toNat_false, List.length_append, List.length_singleton]
    omega

/-- A ring keeps the polls at the bell known. -/
theorem Tallies.ring (h : b.Tallies tickets coming) : b.ring.Tallies tickets coming := by
  have hring := h.counts.ring
  rw [ring_with_blocked] at hring
  exact ⟨hring.listed, (blocked_ring b).trans h.blocked_eq, hring.permit_eq⟩

/-- A ring stands for one message more. -/
theorem Meets.ring (h : b.Meets queued coming owed) :
    b.ring.Meets (queued + 1) coming (owed + b.isFull.toNat) := by
  intro hhere
  have hqueued := h (hhere.imp_right waiting_of_ring)
  have hrings := wakeUps_ring b
  omega

/-! ### A poll that comes -/

theorem Tallies.block (h : b.Tallies tickets coming) : b.block.Tallies tickets (coming + 1) :=
  ⟨h.listed, congrArg (· + 1) h.blocked_eq, h.permit_eq⟩

section Listen

variable (t)

/-- A poll that finds a permit takes it and does not wait. -/
theorem listen_of_permit (hpermit : b.permit = true) :
    b.listen t = ({ b with permit := false }, true) := by
  rw [listen, if_pos hpermit]

/-- A poll that finds no permit waits behind the others. -/
theorem listen_of_not_permit (hpermit : b.permit = false) :
    b.listen t = ({ b with waiting := b.waiting ++ [t] }, false) := by
  rw [listen, hpermit, if_neg Bool.false_ne_true]

/-- A poll that takes the permit is not counted any more when it looks again. -/
theorem Tallies.listen_of_permit (h : b.Tallies tickets (coming + 1)) (hpermit : b.permit = true) :
    (b.listen t).1.release.Tallies tickets coming := by
  rw [Bell.listen_of_permit t hpermit]
  refine ⟨h.listed, ?_, fun _ => rfl⟩
  show b.blocked - 1 = tickets.length + coming
  rw [h.blocked_eq]
  rfl

/-- The permit that a poll takes is made up for by the look that follows. -/
theorem Meets.listen_of_permit (h : b.Meets queued (coming + 1) owed) (hpermit : b.permit = true) :
    (b.listen t).1.release.Meets queued coming (owed + 1) := by
  rw [Bell.listen_of_permit t hpermit]
  intro _
  have hqueued := h (Or.inl (Nat.succ_ne_zero coming))
  rw [wakeUps, hpermit, Bool.toNat_true] at hqueued
  show queued ≤ b.woken.length + 0 + (owed + 1)
  omega

/-- A poll that waits is one of those that listen, and no longer on its way. -/
theorem Tallies.listen_of_not_permit (h : b.Tallies tickets (coming + 1))
    (hpermit : b.permit = false) : (b.listen t).1.Tallies (t :: tickets) coming := by
  rw [Bell.listen_of_not_permit t hpermit]
  refine ⟨?_, ?_, fun _ => hpermit⟩
  · rw [List.append_assoc]
    exact List.perm_middle.trans (h.listed.cons t)
  · show b.blocked = tickets.length + 1 + coming
    rw [h.blocked_eq]
    omega

/-- A poll that waits leaves all rings where they are. -/
theorem Meets.listen_of_not_permit (h : b.Meets queued (coming + 1) owed)
    (hpermit : b.permit = false) : (b.listen t).1.Meets queued coming owed := by
  rw [Bell.listen_of_not_permit t hpermit]
  intro _
  -- the poll that waits now was on its way before
  exact h (Or.inl (Nat.succ_ne_zero coming))

end Listen

/-! ### A poll that goes -/

/-- A poll that was woken hands its ring on when it leaves. -/
theorem leave_of_woken (hwoken : b.hasWoken t = true) : b.leave t = (b.resume t).ring := by
  rw [Bell.leave, if_pos hwoken]

/-- A poll that was not woken waits no longer when it leaves. -/
theorem leave_of_not_woken (hwoken : b.hasWoken t = false) :
    b.leave t = { b with waiting := b.waiting.filter (· ≠ t) } := by
  rw [Bell.leave, hwoken, if_neg Bool.false_ne_true]

section Going

variable (h : b.Tallies (t :: tickets) coming) (hnodup : (t :: tickets).Nodup)

/-- Without its first ticket, a list of different tickets is the rest of it. -/
theorem filter_ne_cons (hnodup : (t :: tickets).Nodup) :
    (t :: tickets).filter (· ≠ t) = tickets := by
  rw [List.filter_cons, if_neg (by simp)]
  exact List.filter_eq_self.mpr fun u hu => decide_eq_true fun heq =>
    (List.nodup_cons.mp hnodup).1 (heq ▸ hu)

include h

/-- Without one poll that listens, the count is that of the others. -/
theorem Tallies.blocked_sub_one : b.blocked - 1 = tickets.length + coming := by
  rw [h.blocked_eq, List.length_cons]
  omega

include hnodup

/-- A poll that resumes is not known to the bell any more. -/
theorem Tallies.resume (hwoken : b.hasWoken t = true) :
    (b.resume t).release.Tallies tickets coming := by
  have hcounts := h.counts.resume hnodup hwoken
  rw [filter_ne_cons hnodup] at hcounts
  exact ⟨hcounts.listed, h.blocked_sub_one, hcounts.permit_eq⟩

/-- The ring that a resuming poll has used up is made up for by the look that follows. -/
theorem Meets.resume (hmeets : b.Meets queued coming owed) (hwoken : b.hasWoken t = true) :
    (b.resume t).release.Meets queued coming (owed + 1) := by
  intro hhere
  have hqueued := hmeets hhere
  -- there is one woken poll less, since no ticket is listed twice
  have hwokens := (List.nodup_append.mp (h.listed.nodup_iff.mpr hnodup)).2.1
  have hmem : t ∈ b.woken := by rwa [hasWoken, List.contains_iff_mem] at hwoken
  have hlength := length_filter_ne hwokens hmem
  have hpos := List.length_pos_of_mem hmem
  rw [wakeUps] at hqueued
  show queued ≤ (b.woken.filter (· ≠ t)).length + b.permit.toNat + (owed + 1)
  omega

/-- A poll that leaves is not known to the bell any more. -/
theorem Tallies.leave : (b.leave t).release.Tallies tickets coming := by
  cases hwoken : b.hasWoken t with
  | true =>
    rw [leave_of_woken hwoken, release_ring]
    exact (h.resume hnodup hwoken).ring
  | false =>
    -- a poll that waits takes no ring with it
    have hcounts := h.counts.leave hnodup List.mem_cons_self
    rw [filter_ne_cons hnodup,
      leave_of_not_woken (b := { b with blocked := (t :: tickets).length }) hwoken] at hcounts
    rw [leave_of_not_woken hwoken]
    exact ⟨hcounts.listed, h.blocked_sub_one, hcounts.permit_eq⟩

/-- The ring that has woken a leaving poll is handed on, unless it falls on a full bell. -/
theorem Meets.leave (hmeets : b.Meets queued coming owed) :
    (b.leave t).release.Meets queued coming (owed + (b.hasWoken t && b.isFull).toNat) := by
  cases hwoken : b.hasWoken t with
  | true =>
    rw [leave_of_woken hwoken, release_ring, Bool.true_and]
    -- the bell is as full when the poll has resumed as before
    have hring := (Meets.resume h hnodup hmeets hwoken).ring
    intro hhere
    have hqueued := hring hhere
    change queued + 1 ≤ _ + (owed + 1 + b.isFull.toNat) at hqueued
    omega
  | false =>
    rw [leave_of_not_woken hwoken, Bool.false_and, Bool.toNat_false]
    intro hhere
    refine hmeets (hhere.imp_right fun hne hnil => hne ?_)
    show b.waiting.filter (· ≠ t) = []
    rw [hnil]
    rfl

end Going

end Bell

end Bell

/-! ### Running polls -/

/-- Where a running poll stands between two of its steps. -/
inductive Stance where
  /-- It is about to look at its queue. -/
  | looking
  /-- It has found nothing and is counted at a bell, and has yet to listen there. -/
  | coming (b : BellId)
  /-- It listens at a bell: it waits or has been woken. -/
  | listening (b : BellId)
  /-- It has left its bell at its deadline, and is about to look for the last time. -/
  | leaving
  deriving DecidableEq

/-- The bell at which a poll is counted. -/
def Stance.bell? : Stance → Option BellId
  | looking | leaving => none
  | coming b | listening b => some b

/-- A poll that runs. -/
structure RunningPoll where
  /-- What it asks for. -/
  order : PollOrder
  /-- Where it stands. -/
  stance : Stance

/-- The poll that listens at a bell, if it does. -/
def RunningPoll.listening? (p : RunningPoll) : Option WaitingPoll :=
  match p.stance with
  | .listening b => some ⟨p.order, b⟩
  | _ => none

/-- The polls that listen at bells. -/
def listeners (polls : List RunningPoll) : List WaitingPoll := polls.filterMap (·.listening?)

/-- The number of polls that are on their way to a bell. -/
def comers (polls : List RunningPoll) (b : BellId) : Nat :=
  polls.countP fun p => p.stance = .coming b

/-- The number of polls that are about to look at a queue. -/
def lookers (polls : List RunningPoll) (l : Locator) : Nat :=
  polls.countP fun p => p.stance = .looking ∧ p.order.locator = l

section Running

variable {polls polls' : List RunningPoll}

theorem ticketsAt_perm (h : polls.Perm polls') (b : BellId) :
    (ticketsAt (listeners polls) b).Perm (ticketsAt (listeners polls') b) :=
  ((h.filterMap _).filter _).map _

/-- The polls that listen are some of those that run. -/
theorem listeners_sublist (polls : List RunningPoll) :
    ((listeners polls).map (·.order.ticket)).Sublist (polls.map (·.order.ticket)) := by
  induction polls with
  | nil => exact List.Sublist.refl _
  | cons p polls ih =>
    obtain ⟨o, stance⟩ := p
    cases stance with
    | listening b => exact ih.cons_cons _
    | _ => exact ih.cons _

/-- A poll adds its ticket to the bell at which it listens. -/
@[simp]
theorem ticketsAt_cons (o : PollOrder) (stance : Stance) (polls : List RunningPoll) (b : BellId) :
    ticketsAt (listeners (⟨o, stance⟩ :: polls)) b =
      if stance = .listening b then o.ticket :: ticketsAt (listeners polls) b
      else ticketsAt (listeners polls) b := by
  cases stance with
  | listening b' =>
    show ((⟨o, b'⟩ :: listeners polls).filter fun p => p.bell = b).map _ = _
    rw [List.filter_cons]
    by_cases heq : b' = b
    · rw [if_pos (decide_eq_true heq), if_pos (congrArg _ heq)]
      rfl
    · rw [if_neg (by simpa using heq), if_neg (by simpa using heq)]
      rfl
  | _ => rfl

@[simp]
theorem comers_cons (o : PollOrder) (stance : Stance) (polls : List RunningPoll) (b : BellId) :
    comers (⟨o, stance⟩ :: polls) b = comers polls b + if stance = .coming b then 1 else 0 := by
  simp [comers, List.countP_cons]

@[simp]
theorem lookers_cons (o : PollOrder) (stance : Stance) (polls : List RunningPoll) (l : Locator) :
    lookers (⟨o, stance⟩ :: polls) l =
      lookers polls l + if stance = .looking ∧ o.locator = l then 1 else 0 := by
  simp [lookers, List.countP_cons]

/-- Where it is not counted, a poll does not matter to the bell. -/
theorem away_from {stance : Stance} {b : BellId} (h : stance.bell? ≠ some b) (o : PollOrder)
    (polls : List RunningPoll) :
    ticketsAt (listeners (⟨o, stance⟩ :: polls)) b = ticketsAt (listeners polls) b ∧
      comers (⟨o, stance⟩ :: polls) b = comers polls b := by
  have hlistening : stance ≠ .listening b := fun heq => h (heq ▸ rfl)
  have hcoming : stance ≠ .coming b := fun heq => h (heq ▸ rfl)
  rw [ticketsAt_cons, if_neg hlistening, comers_cons, if_neg hcoming]
  exact ⟨rfl, rfl⟩

end Running

/-! ### An engine and the polls that run at it -/

namespace Memory

/-- Whether a publish rings a bell. -/
def rings (m : Memory) (now : Timestamp) (channel : Channel) (message : Message) (b : BellId) :
    Bool :=
  !(m.channelFor channel).shows now message.id &&
    ((m.channelFor channel).subscribers.values.map Subscription.bell).contains b

/-- The missed rings after a look: those at the bell of a queue that is empty count no longer. -/
def settle (m : Memory) (l : Locator) (missed : BellId → Nat) (b : BellId) : Nat :=
  if (m.subscription? l).any fun s => s.bell = b && s.queue.isEmpty then 0 else missed b

/-- Missed rings count no longer if the queue of the subscription that has the bell is empty. -/
theorem settle_of_some {m : Memory} {l : Locator} {s : Subscription}
    (hs : m.subscription? l = some s) {missed : BellId → Nat} {b : BellId} :
    m.settle l missed b = if s.bell = b ∧ s.queue = [] then 0 else missed b := by
  simp [settle, hs]

/-- The engine attends to the polls that run at it, some rings having been missed at its bells. -/
structure Attends (m : Memory) (polls : List RunningPoll) (missed : BellId → Nat) : Prop
    extends Belled m where
  /-- A poll is counted at the bell of the subscription that is registered under its locator. -/
  seated : ∀ p ∈ polls, ∀ b, p.stance.bell? = some b → m.Seats p.order.locator b
  /-- A bell knows the polls that listen at it and has counted those on their way. -/
  tallies : ∀ b, (m.bell b).Tallies (ticketsAt (listeners polls) b) (comers polls b)
  /-- For each message that is queued, a ring is under way, a poll is about to look, or a ring was
  missed, as long as polls wait or are on their way. -/
  meets : ∀ {l s}, m.subscription? l = some s →
    (m.bell s.bell).Meets s.queue.length (comers polls s.bell) (lookers polls l + missed s.bell)

/-- A new engine attends to no polls. -/
theorem attends_empty (missed : BellId → Nat) : empty.Attends [] missed where
  toBelled := belled_empty
  seated _ hp := absurd hp List.not_mem_nil
  tallies b := by
    rw [bell_of_length_le _ (Nat.zero_le b)]
    exact Bell.tallies_fresh
  meets h := nomatch h

namespace Attends

variable {m : Memory} {polls rest : List RunningPoll} {missed missed' : BellId → Nat}
  {o : PollOrder} {b : BellId} {now : Timestamp}

/-- The order of the polls does not matter. -/
theorem perm (h : m.Attends polls missed) {polls' : List RunningPoll}
    (hperm : polls.Perm polls') : m.Attends polls' missed where
  -- nothing but members and numbers of polls is read
  toBelled := h.toBelled
  seated p hp := h.seated p (hperm.mem_iff.mpr hp)
  tallies b := by
    rw [comers, ← hperm.countP_eq]
    exact (h.tallies b).perm (ticketsAt_perm hperm b)
  meets hs := by
    rw [comers, lookers, ← hperm.countP_eq, ← hperm.countP_eq]
    exact h.meets hs

/-- A poll that begins is about to look. -/
theorem join (h : m.Attends polls missed) (o : PollOrder) :
    m.Attends (⟨o, .looking⟩ :: polls) missed where
  toBelled := h.toBelled
  seated := List.forall_mem_cons.mpr ⟨fun _ hb => (nomatch hb), h.seated⟩
  tallies b := by simpa using h.tallies b
  meets hs := by
    -- one poll more that is about to look can only help
    rw [comers_cons, if_neg Stance.noConfusion, Nat.add_zero, lookers_cons]
    exact (h.meets hs).mono (by omega)

/-- A poll that has left its bell may end. -/
theorem forget (h : m.Attends (⟨o, .leaving⟩ :: polls) missed) : m.Attends polls missed where
  toBelled := h.toBelled
  seated := (List.forall_mem_cons.mp h.seated).2
  tallies b := by simpa using h.tallies b
  meets hs := by simpa using h.meets hs

/-- One poll and the bell at which it is counted change. -/
theorem onBell {stance stance' : Stance} (h : m.Attends (⟨o, stance⟩ :: rest) missed)
    {f : Bell → Bell} (hseat : m.Seats o.locator b)
    (hat : ∀ b', b' ≠ b → stance.bell? ≠ some b' ∧ stance'.bell? ≠ some b')
    (hmissed : ∀ b', b' ≠ b → missed' b' = missed b')
    (htallies : (f (m.bell b)).Tallies (ticketsAt (listeners (⟨o, stance'⟩ :: rest)) b)
      (comers (⟨o, stance'⟩ :: rest) b))
    (hmeets : ∀ {s}, m.subscription? o.locator = some s → s.bell = b →
      (f (m.bell b)).Meets s.queue.length (comers (⟨o, stance'⟩ :: rest) b)
        (lookers (⟨o, stance'⟩ :: rest) o.locator + missed' b)) :
    (m.onBell b f).Attends (⟨o, stance'⟩ :: rest) missed' := by
  have hb := hseat.bell_lt h.toBelled
  refine ⟨h.toBelled.onBell b f, List.forall_mem_cons.mpr ⟨fun b' hb' => ?_, ?_⟩, ?_, ?_⟩
  · by_cases heq : b' = b
    · subst heq
      exact hseat
    · exact absurd hb' (hat b' heq).2
  · exact (List.forall_mem_cons.mp h.seated).2
  -- a bell that has not changed knows the same polls, since this one is at neither place there
  · intro b'
    by_cases heq : b' = b
    · subst heq
      rwa [bell_onBell_of_lt _ _ hb]
    · obtain ⟨hlisten, hcome⟩ := away_from (hat b' heq).1 o rest
      obtain ⟨hlisten', hcome'⟩ := away_from (hat b' heq).2 o rest
      rw [bell_onBell_of_ne _ _ (Ne.symm heq), hlisten', hcome', ← hlisten, ← hcome]
      exact h.tallies b'
  · intro l s hs
    change m.subscription? l = some s at hs
    by_cases heq : s.bell = b
    · obtain ⟨s', hs', hbell⟩ := hseat
      obtain rfl := h.bell_inj hs hs' (heq.trans hbell.symm)
      rw [heq, bell_onBell_of_lt _ _ hb]
      exact hmeets hs heq
    · -- another bell is that of another subscriber, at whose queue this poll does not look
      have hl : o.locator ≠ l := by
        rintro rfl
        obtain ⟨s', hs', hbell⟩ := hseat
        exact heq (Option.some.inj (hs.symm.trans hs') ▸ hbell)
      have hold := h.meets hs
      rw [lookers_cons, if_neg fun hlook => hl hlook.2, (away_from (hat _ heq).1 o rest).2] at hold
      rw [bell_onBell_of_ne _ _ (Ne.symm heq), lookers_cons, if_neg fun hlook => hl hlook.2,
        (away_from (hat _ heq).2 o rest).2, hmissed _ heq]
      exact hold

section Listening

variable (h : m.Attends (⟨o, .coming b⟩ :: rest) missed)

include h

/-- The bell to which a poll has come, as it stands without the poll. -/
theorem of_coming : m.Seats o.locator b ∧
    (m.bell b).Tallies (ticketsAt (listeners rest) b) (comers rest b + 1) ∧
    ∀ {s}, m.subscription? o.locator = some s → s.bell = b →
      (m.bell b).Meets s.queue.length (comers rest b + 1) (lookers rest o.locator + missed b) := by
  refine ⟨(List.forall_mem_cons.mp h.seated).1 b rfl, by simpa using h.tallies b, ?_⟩
  rintro s hs rfl
  simpa using h.meets hs

/-- A poll that finds a permit at its bell looks again. -/
theorem listen_of_permit (hpermit : (m.bell b).permit = true) :
    (m.onBell b fun x => (x.listen o.ticket).1.release).Attends (⟨o, .looking⟩ :: rest)
      missed := by
  obtain ⟨hseat, htallies, hmeets⟩ := h.of_coming
  refine h.onBell hseat (fun b' hne => ?_) (fun _ _ => rfl) ?_ fun hs hbell => ?_
  · simpa [Stance.bell?] using Ne.symm hne
  · simpa using htallies.listen_of_permit o.ticket hpermit
  · -- the permit is gone, and the look that it leads to stands in for it
    have hafter := (hmeets hs hbell).listen_of_permit o.ticket hpermit
    simpa [Nat.add_right_comm] using hafter

/-- A poll that finds no permit at its bell listens there. -/
theorem listen_of_not_permit (hpermit : (m.bell b).permit = false) :
    (m.onBell b fun x => (x.listen o.ticket).1).Attends (⟨o, .listening b⟩ :: rest) missed := by
  obtain ⟨hseat, htallies, hmeets⟩ := h.of_coming
  refine h.onBell hseat (fun b' hne => ?_) (fun _ _ => rfl) ?_ fun hs hbell => ?_
  · simpa [Stance.bell?] using Ne.symm hne
  · simpa using htallies.listen_of_not_permit o.ticket hpermit
  · simpa using (hmeets hs hbell).listen_of_not_permit o.ticket hpermit

end Listening

section Going

variable (h : m.Attends (⟨o, .listening b⟩ :: rest) missed)
  (hnodup : (o.ticket :: ticketsAt (listeners rest) b).Nodup)

include h

/-- The bell at which a poll listens, as it stands with the ticket of the poll. -/
theorem of_listening : m.Seats o.locator b ∧
    (m.bell b).Tallies (o.ticket :: ticketsAt (listeners rest) b) (comers rest b) ∧
    ∀ {s}, m.subscription? o.locator = some s → s.bell = b →
      (m.bell b).Meets s.queue.length (comers rest b) (lookers rest o.locator + missed b) := by
  refine ⟨(List.forall_mem_cons.mp h.seated).1 b rfl, by simpa using h.tallies b, ?_⟩
  rintro s hs rfl
  simpa using h.meets hs

include hnodup

/-- A poll that was woken looks again. -/
theorem resume (hwoken : (m.bell b).hasWoken o.ticket = true) :
    (m.onBell b fun x => (x.resume o.ticket).release).Attends (⟨o, .looking⟩ :: rest) missed := by
  obtain ⟨hseat, htallies, hmeets⟩ := h.of_listening
  refine h.onBell hseat (fun b' hne => ?_) (fun _ _ => rfl) ?_ fun hs hbell => ?_
  · simpa [Stance.bell?] using Ne.symm hne
  · simpa using htallies.resume hnodup hwoken
  · -- the ring is used up, and the look that it leads to stands in for it
    have hafter := Bell.Meets.resume htallies hnodup (hmeets hs hbell) hwoken
    simpa [Nat.add_right_comm] using hafter

/-- A poll leaves its bell. If it was woken and the bell is full, its ring is missed. -/
theorem leave : (m.leaveBell b o.ticket).Attends (⟨o, .leaving⟩ :: rest) fun b' => missed b' +
    if b' = b then ((m.bell b).hasWoken o.ticket && (m.bell b).isFull).toNat else 0 := by
  obtain ⟨hseat, htallies, hmeets⟩ := h.of_listening
  rw [leaveBell, onBell_onBell]
  refine h.onBell hseat (fun b' hne => ?_) (fun b' hne => ?_) ?_ fun hs hbell => ?_
  · simpa [Stance.bell?] using Ne.symm hne
  · rw [if_neg hne, Nat.add_zero]
  · simpa using htallies.leave hnodup
  · have hafter := Bell.Meets.leave htallies hnodup (hmeets hs hbell)
    simpa [Nat.add_assoc] using hafter

end Going

section Look

variable {stance : Stance} (h : m.Attends (⟨o, stance⟩ :: rest) missed)
  (hstance : stance.bell? = none) (hid : o.channel.id = o.locator.channel)

include h hstance

/-- A poll at no bell is not among those that bells know of. -/
theorem tallies_rest (b : BellId) :
    (m.bell b).Tallies (ticketsAt (listeners rest) b) (comers rest b) := by
  have haway : stance.bell? ≠ some b := by
    rw [hstance]
    exact nofun
  obtain ⟨hlisten, hcome⟩ := away_from haway o rest
  have htallies := h.tallies b
  rwa [hlisten, hcome] at htallies

include hid

/-- A look that takes a message makes up for itself, and for the ring that it may have cost. -/
theorem meets_seatAfter (htaken : m.firstTaken now o ≠ []) :
    (m.bell (m.firstBell now o)).Meets
      (m.seatAfter now o.channel o.locator.subscriber o.max).queue.length
      (comers rest (m.firstBell now o)) (lookers rest o.locator + missed (m.firstBell now o)) := by
  intro hhere
  have hle := length_takeVisible_le now o.max (m.seat now o.channel o.locator.subscriber).queue
  have hpos := List.length_pos_iff.mpr htaken
  show (takeVisible now o.max (m.seat now o.channel o.locator.subscriber).queue).2.length ≤ _
  cases hs : m.subscription? o.locator with
  | some s =>
    have hseat : m.seat now o.channel o.locator.subscriber = s := by
      rw [seat, Locator.mk_subscriber hid, hs, Option.getD_some]
    have hmeets := h.meets hs
    -- at least one message is taken, and at most one poll less is about to look
    rw [firstTaken, taken] at hpos
    rw [firstBell] at hhere ⊢
    rw [hseat] at hle hpos hhere ⊢
    have hqueued := hmeets (hhere.imp_left fun hne => by rw [comers_cons]; omega)
    have hlookers : lookers (⟨o, stance⟩ :: rest) o.locator ≤ lookers rest o.locator + 1 := by
      rw [lookers_cons]
      split <;> omega
    omega
  | none =>
    -- nobody is at the bell of a subscription that is new
    have hbell : m.firstBell now o = m.bells.length := by
      rw [firstBell, seat, Locator.mk_subscriber hid, hs, Option.getD_none]
    have htallies := h.tallies_rest hstance m.bells.length
    rw [hbell, bell_of_length_le m (Nat.le_refl _)] at hhere
    rw [bell_of_length_le m (Nat.le_refl _)] at htallies
    have hblocked : 0 = _ + comers rest m.bells.length := htallies.blocked_eq
    rcases hhere with hcomers | hwaiting
    · omega
    · exact absurd rfl hwaiting

/-- A look keeps up with the messages, whether it takes some or empties the queue. -/
theorem looked (now : Timestamp) (hmax : 0 < o.max) :
    (m.firstLooked now o).Attends (⟨o, .leaving⟩ :: rest)
      ((m.firstLooked now o).settle o.locator missed) := by
  have hself := m.subscription?_looked_self now o.channel o.locator o.max hid
  refine ⟨h.toBelled.looked o.channel o.locator.subscriber o.max,
    List.forall_mem_cons.mpr ⟨fun _ hb => (nomatch hb), fun p hp b hb => ?_⟩, fun b => ?_, ?_⟩
  · exact ((List.forall_mem_cons.mp h.seated).2 p hp b hb).looked ..
  · rw [bell_looked]
    simpa using h.tallies_rest hstance b
  · intro l s hs
    rw [bell_looked, comers_cons, if_neg (by simp), Nat.add_zero, lookers_cons,
      if_neg (by simp), Nat.add_zero]
    by_cases hl : l = o.locator
    · subst hl
      obtain rfl := Option.some.inj (hself.symm.trans hs)
      -- an empty queue needs no rings, whether the look has taken its last message or found none
      by_cases hempty : (m.seatAfter now o.channel o.locator.subscriber o.max).queue = []
      · rw [hempty]
        exact fun _ => Nat.zero_le _
      · rw [settle_of_some hself, if_neg fun hsettled => hempty hsettled.2]
        exact h.meets_seatAfter hstance hid fun hnothing =>
          hempty (snd_takeVisible_of_fst_nil hmax hnothing)
    · -- other subscribers have other bells, and this poll was not about to look for them
      rw [subscription?_looked, Locator.mk_subscriber hid, if_neg hl] at hs
      have hne : s.bell ≠ m.firstBell now o := h.bell_ne_seat o.channel o.locator.subscriber
        (by rwa [Locator.mk_subscriber hid]) hs
      rw [settle_of_some hself, if_neg fun hsettled => hne hsettled.1.symm]
      intro hhere
      have hqueued := h.meets hs (hhere.imp_left fun hcomers => by rw [comers_cons]; omega)
      rwa [lookers_cons, if_neg fun hlook => hl hlook.2.symm] at hqueued

end Look

/-- A poll that has found nothing is counted at the bell. -/
theorem come (h : m.Attends (⟨o, .leaving⟩ :: rest) missed) {s : Subscription}
    (hs : m.subscription? o.locator = some s) (hbell : s.bell = b) (hempty : s.queue = []) :
    (m.onBell b Bell.block).Attends (⟨o, .coming b⟩ :: rest) missed := by
  refine h.onBell ⟨s, hs, hbell⟩ (fun b' hne => ?_) (fun _ _ => rfl) ?_ fun hs' _ => ?_
  · simpa [Stance.bell?] using Ne.symm hne
  · have htallies := (h.tallies_rest rfl b).block
    simpa using htallies
  · obtain rfl := Option.some.inj (hs.symm.trans hs')
    rw [hempty]
    exact fun _ => Nat.zero_le _

/-- A publish rings for every subscriber for which it queues the message. Where a bell is full, the
ring is missed. -/
theorem publish (h : m.Attends polls missed) {channel : Channel} {message : Message} :
    (m.publish now channel message).1.Attends polls fun b =>
      missed b + (m.rings now channel message b && (m.bell b).isFull).toNat := by
  have hseated : ∀ p ∈ polls, ∀ b, p.stance.bell? = some b →
      (m.publish now channel message).1.Seats p.order.locator b := fun p hp b hb =>
    (h.seated p hp b hb).publish now channel message
  cases hshows : (m.channelFor channel).shows now message.id with
  | true =>
    -- a message that the log shows already is not queued again, and no bell rings
    have hbell := bell_publish_of_shows hshows
    refine ⟨h.toBelled.publish now channel message, hseated, fun b => ?_, fun {l s} hs => ?_⟩
    · rw [hbell]
      exact h.tallies b
    · rw [hbell]
      exact (h.meets (subscription?_publish_of_shows hshows _ ▸ hs)).mono (by omega)
  | false =>
    have hbell := h.toBelled.bell_publish hshows
    refine ⟨h.toBelled.publish now channel message, hseated, fun b => ?_, fun {l s} hs => ?_⟩
    · rw [hbell]
      split
      next => exact (h.tallies b).ring
      next => exact h.tallies b
    · obtain ⟨s₀, hs₀, hqueue, -, hsame⟩ := subscription?_publish_some hshows hs
      rw [hbell, hsame, hqueue]
      by_cases hid : channel.id = l.channel
      · -- the queue is one longer, and its bell has rung once more
        have hmem := (mem_bells_iff m channel _).mpr ⟨l, s₀, hid.symm, hs₀, rfl⟩
        have hrings : m.rings now channel message s₀.bell = true := by
          rw [rings, hshows, List.contains_iff_mem.mpr hmem]
          rfl
        rw [if_pos hid, if_pos hmem, hrings, Bool.true_and, List.length_append,
          List.length_singleton]
        exact (h.meets hs₀).ring.mono (Nat.le_of_eq (Nat.add_assoc ..))
      · rw [if_neg hid, if_neg (h.bell_not_mem_of_ne hs₀ hid), List.append_nil]
        exact (h.meets hs₀).mono (by omega)

/-- A bell at which a poll is counted has counted some poll. -/
theorem blocked_pos (h : m.Attends polls missed) {p : RunningPoll} (hp : p ∈ polls)
    (hb : p.stance.bell? = some b) : 0 < (m.bell b).blocked := by
  obtain ⟨before, after, rfl⟩ := List.append_of_mem hp
  have hfirst := h.perm List.perm_middle
  obtain ⟨o, stance⟩ := p
  cases stance with
  | looking => exact nomatch hb
  | leaving => exact nomatch hb
  | coming b' =>
    obtain rfl : b' = b := Option.some.inj hb
    rw [hfirst.of_coming.2.1.blocked_eq]
    omega
  | listening b' =>
    obtain rfl : b' = b := Option.some.inj hb
    rw [hfirst.of_listening.2.1.blocked_eq, List.length_cons]
    omega

/-- To remove garbage spares the subscriptions at whose bells polls are counted. -/
theorem thin {m' : Memory} (h : m.Attends polls missed) (hthins : m.Thins m') :
    m'.Attends polls missed := by
  refine ⟨h.toBelled.thin hthins,
    fun p hp b hb => (h.seated p hp b hb).thin (h.blocked_pos hp hb) hthins,
    fun b => hthins.bell_eq b ▸ h.tallies b, fun {l s} hs hhere => ?_⟩
  obtain ⟨s₀, hs₀, hqueue, -, hbell⟩ := hthins.subscription hs
  rw [hthins.bell_eq, hbell] at hhere ⊢
  exact Nat.le_trans hqueue.length_le (h.meets hs₀ hhere)

end Attends

end Memory

end LongPoll
