import Mathlib.Data.List.Nodup
import LongPoll.Proofs.Engine.View
/-!
# What a bell knows of the polls at it

`Bell.Counts` says that a bell knows exactly the polls at it: each waits or has been woken, all of
them are counted, and while one waits no ring is kept as a permit. Whatever befalls the bell keeps
this: a ring (`Counts.ring`), a poll that comes to wait (`Counts.await`), one that was woken and
resumes (`Counts.resume`), and one that leaves (`Counts.leave`), be it as soon as it has come
(`Counts.leave_await`).

`Bell.Covers` bounds a queue while a poll waits at the bell: there are no more messages in it than
polls that were woken for them.
-/

namespace LongPoll

namespace Bell

/-- The bell knows the polls at it, which have these tickets. -/
structure Counts (b : Bell) (tickets : List Ticket) : Prop where
  /-- A poll at the bell waits or has been woken, and not both. -/
  listed : (b.waiting ++ b.woken).Perm tickets
  /-- All polls at the bell are counted. -/
  blocked_eq : b.blocked = tickets.length
  /-- While a poll waits, no ring is kept. -/
  permit_eq : b.waiting ≠ [] → b.permit = false

/-- While a poll waits at the bell, as many polls have been woken as messages are queued, but for
some that are about to be handed out. -/
def Covers (b : Bell) (queued slack : Nat) : Prop :=
  b.waiting ≠ [] → queued ≤ b.woken.length + slack

theorem counts_fresh : fresh.Counts [] := ⟨List.Perm.nil, rfl, fun _ => rfl⟩

theorem covers_fresh (queued slack : Nat) : fresh.Covers queued slack := fun h => absurd rfl h

section Bell

variable {b : Bell} {tickets : List Ticket} {t : Ticket} {queued slack : Nat}

namespace Counts

/-- A poll is at a bell if and only if it waits or has been woken. -/
theorem mem_iff (h : b.Counts tickets) : t ∈ tickets ↔ t ∈ b.waiting ∨ t ∈ b.woken := by
  rw [← h.listed.mem_iff, List.mem_append]

end Counts

/-! ### Rings -/

/-- A ring keeps the polls at the bell known. -/
theorem Counts.ring (h : b.Counts tickets) : b.ring.Counts tickets := by
  unfold Bell.ring
  split
  next t rest hwaiting =>
    -- the first poll that waits is woken, and stays counted until it resumes
    refine ⟨?_, h.blocked_eq, fun _ => h.permit_eq (hwaiting ▸ List.cons_ne_nil t rest)⟩
    have hlisted := h.listed
    rw [hwaiting] at hlisted
    calc (rest ++ (b.woken ++ [t])).Perm ((rest ++ b.woken) ++ [t]) :=
          List.Perm.of_eq (List.append_assoc ..).symm
      _ |>.Perm (t :: (rest ++ b.woken)) := List.perm_append_singleton _ _
      _ |>.Perm tickets := hlisted
  next hwaiting =>
    exact ⟨h.listed, h.blocked_eq, fun hne => absurd hwaiting hne⟩

/-- A ring makes up for one message. -/
theorem Covers.ring (h : b.Covers queued (slack + 1)) : b.ring.Covers queued slack := by
  unfold Bell.ring
  split
  next t rest hwaiting =>
    intro _
    have hqueued := h (hwaiting ▸ List.cons_ne_nil t rest)
    rw [List.length_append, List.length_singleton]
    omega
  next hwaiting => exact fun hne => absurd hwaiting hne

/-- It does not matter whether a bell rings before a poll is let go or after. -/
theorem release_ring (b : Bell) : b.ring.release = b.release.ring := by
  unfold Bell.ring Bell.release
  dsimp only
  split <;> rfl

/-! ### A poll that comes -/

/-- A poll that comes to wait takes the permit away, if there is one, and waits all the same. -/
theorem await_block (b : Bell) (t : Ticket) : b.block.await t =
    { b with permit := false, waiting := b.waiting ++ [t], blocked := b.blocked + 1 } := by
  obtain ⟨permit, waiting, woken, blocked⟩ := b
  cases permit <;> rfl

/-- A poll that comes to wait is known to the bell. -/
theorem Counts.await (h : b.Counts tickets) (t : Ticket) :
    (b.block.await t).Counts (tickets ++ [t]) := by
  rw [await_block]
  refine ⟨?_, ?_, fun _ => rfl⟩
  · calc ((b.waiting ++ [t]) ++ b.woken).Perm ((b.waiting ++ b.woken) ++ [t]) := by
          rw [List.append_assoc, List.append_assoc]
          exact List.perm_append_comm.append_left _
      _ |>.Perm (tickets ++ [t]) := h.listed.append_right _
  · rw [List.length_append, List.length_singleton, h.blocked_eq]

/-! ### A poll that goes -/

/-- Without one of several different tickets there is one less. -/
theorem length_filter_ne (hnodup : tickets.Nodup) (hmem : t ∈ tickets) :
    (tickets.filter (· ≠ t)).length = tickets.length - 1 := by
  rw [← List.length_erase_of_mem hmem, hnodup.erase_eq_filter]
  refine congrArg List.length (List.filter_congr fun u _ => ?_)
  rw [Bool.eq_iff_iff, decide_eq_true_eq, bne_iff_ne]

section Going

variable (h : b.Counts tickets) (hnodup : tickets.Nodup)

include h hnodup

theorem Counts.nodup : (b.waiting ++ b.woken).Nodup := h.listed.nodup_iff.mpr hnodup

/-- A poll that was woken resumes. -/
theorem Counts.resume (hwoken : b.hasWoken t = true) :
    (b.resume t).release.Counts (tickets.filter (· ≠ t)) := by
  rw [hasWoken, List.contains_iff_mem] at hwoken
  -- a woken poll does not wait any more, so those that wait are left as they are
  have hnot : t ∉ b.waiting := fun hwaiting =>
    (List.nodup_append.mp (h.nodup hnodup)).2.2 t hwaiting t hwoken rfl
  have hwaiting : b.waiting.filter (· ≠ t) = b.waiting :=
    List.filter_eq_self.mpr fun u hu => decide_eq_true fun heq => hnot (heq ▸ hu)
  refine ⟨?_, ?_, h.permit_eq⟩
  · have hlisted := h.listed.filter (· ≠ t)
    rw [List.filter_append, hwaiting] at hlisted
    exact hlisted
  · rw [length_filter_ne hnodup (h.mem_iff.mpr (Or.inr hwoken)), ← h.blocked_eq]
    rfl

/-- A poll leaves. If it was woken, another one is woken instead. -/
theorem Counts.leave (hmem : t ∈ tickets) :
    (b.leave t).release.Counts (tickets.filter (· ≠ t)) := by
  cases hwoken : b.hasWoken t with
  | true =>
    rw [Bell.leave, hwoken, if_pos rfl, release_ring]
    exact (h.resume hnodup hwoken).ring
  | false =>
    rw [Bell.leave, hwoken, if_neg Bool.false_ne_true]
    rw [hasWoken, List.contains_eq_mem, decide_eq_false_iff_not] at hwoken
    -- the poll was not woken, so the woken ones are left as they are
    have hkept : b.woken.filter (· ≠ t) = b.woken :=
      List.filter_eq_self.mpr fun u hu => decide_eq_true fun heq => hwoken (heq ▸ hu)
    refine ⟨?_, ?_, fun hne => h.permit_eq fun hnil => hne ?_⟩
    · have hlisted := h.listed.filter (· ≠ t)
      rw [List.filter_append, hkept] at hlisted
      exact hlisted
    · rw [length_filter_ne hnodup hmem, ← h.blocked_eq]
      rfl
    · show b.waiting.filter (· ≠ t) = []
      rw [hnil]
      rfl

/-- A poll that comes to wait and leaves at once is forgotten. -/
theorem Counts.leave_await (hnew : t ∉ tickets) :
    ((b.block.await t).leave t).release.Counts tickets := by
  have hnodup' : (tickets ++ [t]).Nodup :=
    List.nodup_append.mpr ⟨hnodup, List.nodup_singleton t, fun u hu v hv heq =>
      hnew (List.mem_singleton.mp hv ▸ heq ▸ hu)⟩
  have hleft := (h.await t).leave hnodup' (List.mem_append_right _ (List.mem_singleton_self t))
  have hsame : (tickets ++ [t]).filter (· ≠ t) = tickets := by
    rw [List.filter_append, List.filter_eq_self.mpr fun u hu => ?_, List.filter_singleton]
    · simp
    · exact decide_eq_true fun heq => hnew (heq ▸ hu)
  rwa [hsame] at hleft

/-- The message that a resuming poll was woken for may still be in the queue. -/
theorem Covers.resume (hcovers : b.Covers queued 0) (hwoken : b.hasWoken t = true) :
    (b.resume t).release.Covers queued 1 := by
  intro hwaiting
  have hqueued := hcovers hwaiting
  rw [hasWoken, List.contains_iff_mem] at hwoken
  -- there is one woken poll less, which is what the slack stands for
  have hnodup' := (List.nodup_append.mp (h.nodup hnodup)).2.1
  have hlength := length_filter_ne hnodup' hwoken
  have hpos := List.length_pos_of_mem hwoken
  show queued ≤ (b.woken.filter (· ≠ t)).length + 1
  omega

/-- A poll that leaves takes no ring with it. -/
theorem Covers.leave (hcovers : b.Covers queued 0) : (b.leave t).release.Covers queued 0 := by
  cases hwoken : b.hasWoken t with
  | true =>
    rw [Bell.leave, hwoken, if_pos rfl, release_ring]
    -- the ring that the poll has used up is handed on, and makes up for it
    exact (Covers.resume h hnodup hcovers hwoken).ring
  | false =>
    rw [Bell.leave, hwoken, if_neg Bool.false_ne_true]
    intro hne
    refine hcovers fun hnil => hne ?_
    show b.waiting.filter (· ≠ t) = []
    rw [hnil]
    rfl

end Going

end Bell

end Bell

namespace Memory

/-- A ring at several bells reaches each of them once. -/
theorem bell_ringAll {m : Memory} {bells : List BellId} (hnodup : bells.Nodup)
    (hin : ∀ b ∈ bells, b < m.bells.length) (b : BellId) :
    (m.ringAll bells).bell b = if b ∈ bells then (m.bell b).ring else m.bell b := by
  unfold ringAll
  induction bells generalizing m with
  | nil => rfl
  | cons b₀ bells ih =>
    obtain ⟨hfirst, hrest⟩ := List.nodup_cons.mp hnodup
    rw [List.foldl_cons, ih hrest fun b' hb' => by
      rw [length_bells_onBell]
      exact hin b' (List.mem_cons_of_mem b₀ hb')]
    -- the first bell does not ring again, since no bell is listed twice
    by_cases heq : b₀ = b
    · subst heq
      rw [if_neg hfirst, if_pos List.mem_cons_self,
        bell_onBell_of_lt _ _ (hin _ List.mem_cons_self)]
    · have hiff : b ∈ b₀ :: bells ↔ b ∈ bells := by
        rw [List.mem_cons, or_iff_right fun h => heq h.symm]
      simp only [bell_onBell_of_ne _ _ heq, hiff]

/-- To ring bells makes none. -/
@[simp]
theorem length_bells_ringAll (m : Memory) (bells : List BellId) :
    (m.ringAll bells).bells.length = m.bells.length := by
  unfold ringAll
  induction bells generalizing m with
  | nil => rfl
  | cons b bells ih => rw [List.foldl_cons, ih, length_bells_onBell]

end Memory

end LongPoll
