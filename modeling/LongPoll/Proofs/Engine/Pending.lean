import LongPoll.Proofs.Engine.View
/-!
# What is pending for a consumer

The visible messages in the queue of a subscriber are pending for it, or those in the log if the
engine does not know the subscriber. A poll that starts or goes on takes its messages off the front
(`pending_look`, `pending_resumePoll`); as long as it waits it takes none, also if it is dropped
(`pending_dropPoll`).
-/

namespace LongPoll

/-- The messages with which a poll has ended. -/
def PollProgress.messages : PollProgress → List Message
  | answered ms => ms
  | waiting _ => []

namespace Memory

/-- The messages that are pending for a consumer, in the order of publishing. -/
def pending (m : Memory) (now : Timestamp) (l : Locator) : List Message :=
  (((m.subscription? l).elim (m.logOf l.channel) (·.queue)).filter (·.isVisible now)).map
    (·.message)

section Pending

variable {m m' : Memory} {now : Timestamp} {time : Nat} {l : Locator} {o : PollOrder}

theorem pending_congr (h : m.channels = m'.channels) : m.pending now l = m'.pending now l := by
  rw [pending, pending, subscription?_congr h, logOf_congr h]

/-- What is pending for a consumer is what a look at its queue finds. -/
theorem pending_eq_seat (hid : o.channel.id = o.locator.channel) : m.pending now o.locator =
    ((m.seat now o.channel o.locator.subscriber).queue.filter (·.isVisible now)).map
      (·.message) := by
  rw [pending, seat, Locator.mk_subscriber hid, hid]
  cases m.subscription? o.locator with
  | some s => rfl
  | none =>
    -- a new subscription starts with the visible part of the log
    rw [Option.elim_none, Option.getD_none, List.filter_filter]
    simp only [Bool.and_self]

/-- A look at a queue takes messages off the front of what is pending. -/
theorem pending_looked (hid : o.channel.id = o.locator.channel) : m.pending now o.locator =
    (m.firstTaken now o).map (·.message) ++ (m.firstLooked now o).pending now o.locator := by
  have hafter : (m.firstLooked now o).pending now o.locator =
      ((m.seatAfter now o.channel o.locator.subscriber o.max).queue.filter
        (·.isVisible now)).map (·.message) := by
    rw [pending, subscription?_looked_self _ _ _ _ _ hid]
    rfl
  rw [hafter, pending_eq_seat hid, ← List.map_append]
  congr 1
  rw [firstTaken, taken, fst_takeVisible, seatAfter, filter_snd_takeVisible,
    List.take_append_drop]

/-- A poll takes what it returns off the front of what is pending. -/
theorem pending_look (hid : o.channel.id = o.locator.channel) : m.pending now o.locator =
    (m.look now time o 1).progress.messages ++
      (m.look now time o 1).memory.pending now o.locator := by
  rw [pending_congr (m.look_frame now time o).1, pending_looked hid]
  congr 1
  rcases m.look_cases now time o with ⟨-, -, hprogress⟩ | ⟨hnothing, -, -, hprogress⟩ |
    ⟨hnothing, -, -, hprogress⟩
  · rw [hprogress]
    rfl
  · rw [hprogress, hnothing]
    rfl
  · rw [hprogress, hnothing]
    rfl

@[simp]
theorem channels_leaveBell (m : Memory) (b : BellId) (t : Ticket) :
    (m.leaveBell b t).channels = m.channels := rfl

variable (m now time) in
/-- A poll that goes on takes what it returns off the front of what is pending. -/
theorem pending_resumePoll {p : WaitingPoll}
    (hid : p.order.channel.id = p.order.locator.channel) :
    m.pending now p.order.locator = (m.resumePoll now time p).progress.messages ++
      (m.resumePoll now time p).memory.pending now p.order.locator := by
  unfold resumePoll
  split
  · rw [← pending_look hid]
    exact pending_congr rfl
  · split
    · obtain ⟨hmemory, hprogress⟩ := (m.leaveBell p.bell p.order.ticket).lastLook_frame now p.order
      rw [hmemory, hprogress, ← pending_congr (channels_leaveBell m p.bell p.order.ticket)]
      exact pending_looked hid
    · rfl

/-- A poll that waits again is the one that has run on. -/
theorem awaits_resumePoll {p : WaitingPoll} :
    (m.resumePoll now time p).progress.Awaits p.order := by
  unfold resumePoll
  split
  · exact awaits_look
  · split
    · rw [((m.leaveBell p.bell p.order.ticket).lastLook_frame now p.order).2]
      exact trivial
    · rfl

/-- A poll that is dropped has taken nothing. -/
theorem pending_dropPoll (p : WaitingPoll) :
    (m.dropPoll p).pending now l = m.pending now l := pending_congr rfl

end Pending

end Memory

end LongPoll
