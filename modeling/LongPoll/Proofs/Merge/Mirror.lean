import LongPoll.Proofs.Engine.Enquiry
import LongPoll.Proofs.Merge.Outcome
/-!
# Mirrored storages

Several engines that get the same enquiries stand by the same ledger, although one may have been
collected and another not. They can be put together in any way, by multiplexers and under logs, as
long as each of them occurs once (`Storage.Mirrors`): what is put together replies to enquiries like
a single engine.

An engine's reply to a poll has no two messages of one name, so the copies of it that come from the
others leave no trace in the merge (`Outcome.toOption_eq`). If a channel is not found, it is found
by none of them, and then all of them fail.
-/

namespace LongPoll

section Combine

variable {answers : List Ending} {reply : Option StorageReply}

theorem failuresOf_eq_nil_of_ok (h : ∀ e ∈ answers, e.2.toOption = reply) (hreply : reply ≠ none) :
    failuresOf answers = [] := by
  refine List.eq_nil_iff_forall_not_mem.mpr fun ⟨id, error⟩ hmem => hreply ?_
  exact (h _ (mem_failuresOf_iff.mp hmem)).symm

/-- Where nobody replies and somebody was asked, there are failures. -/
theorem failuresOf_ne_nil_of_error (h : ∀ e ∈ answers, e.2.toOption = none) (hne : answers ≠ []) :
    failuresOf answers ≠ [] := by
  obtain ⟨⟨id, a⟩, rest, rfl⟩ := List.exists_cons_of_ne_nil hne
  cases a with
  | error error => exact List.ne_nil_of_mem (mem_failuresOf_iff.mpr List.mem_cons_self)
  | ok reply => exact absurd (h _ List.mem_cons_self) (Option.some_ne_none reply)

/-- Publishes that all end alike end together as each of them. -/
theorem toOption_combineAnswers (message : Message) (hne : answers ≠ [])
    (h : ∀ e ∈ answers, e.2.toOption = reply) (hreply : reply = none ∨ reply = some .done) :
    (combineAnswers (.publish message) answers).toOption = reply := by
  -- no publish is answered by saying that a token is revoked
  have hrevoked : (answers.any fun (_, a) => saysRevoked a) = false := by
    refine List.any_eq_false.mpr fun ⟨id, a⟩ he => ?_
    have hanswer : a.toOption = reply := h _ he
    cases a with
    | error e => exact Bool.false_ne_true
    | ok r =>
      rcases hreply with rfl | rfl
      · exact absurd hanswer (Option.some_ne_none r)
      · rw [Option.some.inj hanswer]
        exact Bool.false_ne_true
  unfold combineAnswers
  dsimp only
  rw [hrevoked, if_neg Bool.false_ne_true]
  rcases hreply with rfl | rfl
  · have hfailures := failuresOf_ne_nil_of_error h hne
    rw [Error.join, if_neg (by simpa using hfailures)]
    rfl
  · rw [failuresOf_eq_nil_of_ok h (Option.some_ne_none _)]
    rfl

/-- Polls that all end alike, with messages of different names, end together as each of them. -/
theorem Outcome.toOption_eq {ids : List StorageId} {a : StorageAnswer}
    (houtcome : Outcome ids answers a) (hids : answers.map Prod.fst = ids) (hnodup : ids.Nodup)
    (hne : ids ≠ []) (h : ∀ e ∈ answers, e.2.toOption = reply)
    (hreply : reply = none ∨ ∃ ms, reply = some (.messages ms) ∧ (ms.map (·.id)).Nodup) :
    a.toOption = reply := by
  have hanswers : answers ≠ [] := fun hnil => hne (by rw [← hids, hnil]; rfl)
  rcases hreply with rfl | ⟨ms, rfl, hnames⟩
  · -- nothing was brought, since all have failed
    have hnothing : broughtByAll ids answers = [] := by
      refine List.flatMap_eq_nil_iff.mpr fun id _ => List.flatMap_eq_nil_iff.mpr fun e he => ?_
      have herror := h e he
      cases ha : e.2 with
      | error error => exact ite_self []
      | ok reply =>
        rw [ha] at herror
        exact absurd herror (Option.some_ne_none reply)
    rw [(houtcome.failed hnothing (failuresOf_ne_nil_of_error h hanswers)).1]
    rfl
  · -- every storage has brought the same, and the first of them is enough
    have hbrought : broughtByAll ids answers = ids.flatMap fun _ => ms := by
      refine List.flatMap_congr fun id hid => ?_
      rw [← hids] at hid hnodup
      obtain ⟨⟨id', a'⟩, hmem, rfl⟩ := List.mem_map.mp hid
      rw [broughtBy_of_mem hnodup hmem]
      have hok := h _ hmem
      cases a' with
      | error error => exact absurd hok.symm (Option.some_ne_none _)
      | ok reply =>
        rw [show reply = .messages ms from Option.some.inj hok]
        rfl
    -- that each of them brought nothing is no failure
    by_cases hnil : ms = []
    · rw [hnil] at hbrought
      rw [houtcome.nothing (hbrought.trans (by simp))
        (failuresOf_eq_nil_of_ok h (Option.some_ne_none _)), hnil]
      rfl
    · obtain ⟨id, rest, rfl⟩ := List.exists_cons_of_ne_nil hne
      rw [List.flatMap_cons] at hbrought
      have hdistinct := PollMerge.distinct_eq_eraseDupsBy [] (ms ++ rest.flatMap fun _ => ms)
      rw [List.filter_eq_self.mpr (by simp), PollMerge.distinct_append hnames (by simp)
        fun m hm => Or.inl ?_] at hdistinct
      · rw [houtcome.found (by rw [hbrought]; simp [hnil]), hbrought, ← hdistinct]
        rfl
      · obtain ⟨_, -, hmem⟩ := List.mem_flatMap.mp hm
        exact List.mem_map_of_mem hmem

end Combine

section Members

variable {expiry : ChannelId → Option Duration} {ledger : Ledger} {w : World}

/-- Members that are mirrors, each with engines of its own, answer an enquiry alike. -/
theorem served_startAll {members : List Member} {slotsOf : StorageId → List Nat}
    (hmirrored : ∀ m ∈ members, Mirrored expiry (slotsOf m.id) m.start)
    (hslots : (members.flatMap fun m => slotsOf m.id).Nodup) (hgrants : w.Grants expiry)
    (htracks : ∀ slot ∈ members.flatMap fun m => slotsOf m.id,
      w.TracksAt slot ledger expiry w.clock) (enquiry : Enquiry) (spans : List LogSpan) :
    (∃ answers, Call.answers? (startAll members spans enquiry.request w).2 = some answers ∧
      ∀ e ∈ answers, e.2.toOption = (ledger.reply expiry w.clock enquiry).2) ∧
    World.Confined (members.flatMap fun m => slotsOf m.id) w
      (startAll members spans enquiry.request w).1 ∧
    ∀ slot ∈ members.flatMap fun m => slotsOf m.id,
      (startAll members spans enquiry.request w).1.TracksAt slot
        (ledger.reply expiry w.clock enquiry).1 expiry w.clock := by
  induction members generalizing w with
  | nil => exact ⟨⟨[], rfl, nofun⟩, .refl, nofun⟩
  | cons m members ih =>
    rw [List.flatMap_cons] at hslots htracks
    obtain ⟨-, hrest, hdisjoint⟩ := List.nodup_append.mp hslots
    obtain ⟨hconfined, hfirst, a, hcall, hanswer⟩ := hmirrored m List.mem_cons_self ledger enquiry
      spans w hgrants fun slot hslot => htracks slot (List.mem_append_left _ hslot)
    have hclock := hconfined.clock_eq
    -- the engines of the other members are as they were
    have hothers : ∀ slot ∈ members.flatMap fun m => slotsOf m.id,
        (m.start spans enquiry.request w).1.TracksAt slot ledger expiry
          (m.start spans enquiry.request w).1.clock := fun slot hslot => by
      rw [hclock]
      exact (htracks slot (List.mem_append_right _ hslot)).confined hconfined
        fun hmem => hdisjoint slot hmem slot hslot rfl
    obtain ⟨⟨answers, hanswers, hreplies⟩, hconfined', hlater⟩ :=
      ih (fun m' hm' => hmirrored m' (List.mem_cons_of_mem m hm')) hrest
        (hgrants.confined hconfined) hothers
    rw [hclock] at hreplies hlater
    rw [startAll_cons, List.flatMap_cons]
    refine ⟨⟨(m.id, a) :: answers, ?_, ?_⟩, ?_, ?_⟩
    · rw [Call.answers?, hcall, hanswers]
      rfl
    · intro e he
      rcases List.mem_cons.mp he with rfl | he
      · exact hanswer
      · exact hreplies e he
    · exact (hconfined.mono (List.subset_append_left _ _)).trans
        (hconfined'.mono (List.subset_append_right _ _))
    · intro slot hslot
      by_cases hmem : slot ∈ members.flatMap fun m => slotsOf m.id
      · exact hlater slot hmem
      · -- the later members do not touch the engines of the first one
        have hown := (List.mem_append.mp hslot).resolve_right hmem
        exact (hfirst slot hown).confined hconfined' hmem

end Members

section Mirrored

variable {expiry : ChannelId → Option Duration} {slots : List Nat}

/-- Logging makes no difference. -/
theorem mirrored_decorated {inner : Storage} {start : Starter} (id : StorageId)
    (hcapable : inner.has .pubsub = true) (h : Mirrored expiry slots start) :
    Mirrored expiry slots (startDecorated id inner start) := by
  intro ledger enquiry spans w hgrants htracks
  obtain ⟨hconfined, htracks', a, hcall, hanswer⟩ := h ledger enquiry
    (w.enter spans (enquiry.request.span id)) w hgrants htracks
  rw [startDecorated]
  simp only [enquiry.needs?_request, hcapable, if_true, hcall, observe, Call.answer?]
  -- the end of the operation is reported, and nothing else happens
  cases a <;> refine ⟨hconfined.trans (World.confined_report _ _ _ _), fun slot hslot => ?_, _, rfl,
    hanswer⟩ <;>
    exact (htracks' slot hslot).confined (World.confined_report _ _ [] _) List.not_mem_nil

/-- What an engine replies to a poll has no two messages of one name. -/
theorem World.TracksAt.reply_poll {w : World} {slot : Nat} {ledger : Ledger} {now : Timestamp}
    (h : w.TracksAt slot ledger expiry now) (locator : Locator) (max : Nat) :
    (ledger.reply expiry now (.poll locator max)).2 = none ∨
      ∃ ms, (ledger.reply expiry now (.poll locator max)).2 = some (.messages ms) ∧
        (ms.map (·.id)).Nodup := by
  obtain ⟨b, -, htracks⟩ := h
  rw [Ledger.reply]
  cases expiry locator.channel with
  | none => exact Or.inl rfl
  | some expire =>
    refine Or.inr ⟨_, rfl, ?_⟩
    rw [List.map_map]
    exact (htracks.nodup_ids_due locator).sublist ((List.take_sublist _ _).map _)

/-- Several mirrors act as one. -/
theorem mirrored_multiplexer {children : List (StorageId × Storage)}
    {slotsOf : StorageId → List Nat} (hids : (children.map Prod.fst).Nodup)
    (hmirrored : ∀ m ∈ Storage.pollable children, Mirrored expiry (slotsOf m.id) m.start)
    (hslots : ((Storage.pollable children).flatMap fun m => slotsOf m.id).Nodup)
    (hne : ((Storage.pollable children).flatMap fun m => slotsOf m.id) ≠ []) :
    Mirrored expiry ((Storage.pollable children).flatMap fun m => slotsOf m.id)
      (startMultiplexer (Storage.members children)) := by
  intro ledger enquiry spans w hgrants htracks
  obtain ⟨slot, others, hslot⟩ := List.exists_cons_of_ne_nil hne
  have hpollable : Storage.pollable children ≠ [] := fun hnil => hne (by rw [hnil]; rfl)
  obtain ⟨⟨answers, hanswers, hreplies⟩, hconfined, htracks'⟩ :=
    served_startAll hmirrored hslots hgrants htracks enquiry spans
  have hnames : answers.map Prod.fst = (Storage.pollable children).map Member.id := by
    rw [Call.ids_answers? hanswers, ids_startAll]
  have hanswered : answers ≠ [] := fun hnil => hpollable (by
    rw [hnil] at hnames
    exact List.map_eq_nil_iff.mp hnames.symm)
  -- publishes are combined from their failures, polls from what they have brought
  cases enquiry with
  | publish message =>
    rw [show Enquiry.request (.publish message) = .publish message from rfl] at *
    rw [startMultiplexer_publish hpollable]
    refine ⟨hconfined, htracks', _, by rw [gather, hanswers], ?_⟩
    refine toOption_combineAnswers message hanswered hreplies ?_
    rw [Ledger.reply]
    cases expiry message.channel with
    | none => exact Or.inl rfl
    | some expire => exact Or.inr rfl
  | poll locator max =>
    have houtcome := (stage_start hids locator max Duration.zero spans w).outcome_takeSweep hanswers
    rw [List.nil_append] at houtcome
    have hreport := World.confined_reportAll
      (startAll (Storage.pollable children) spans (.poll locator max Duration.zero) w).1 spans []
      ((Storage.unasked children locator max Duration.zero).takeSweep answers).notices
    rw [show Enquiry.request (.poll locator max) = .poll locator max Duration.zero from rfl,
      startMultiplexer_quickPoll hpollable hanswers]
    refine ⟨hconfined.trans (hreport.mono (List.nil_subset _)), fun slot hslot => ?_, _, rfl, ?_⟩
    · exact (htracks' slot hslot).confined hreport List.not_mem_nil
    · have hreply := (htracks slot (hslot ▸ List.mem_cons_self)).reply_poll locator max
      exact houtcome.toOption_eq hnames (Storage.nodup_pollable hids)
        (fun hnil => hpollable (List.map_eq_nil_iff.mp hnil)) hreplies hreply

end Mirrored

/-- The storage is put together from backends that take messages, which are at these places. Members
of multiplexers that take none may be anything. -/
inductive Storage.Mirrors : Storage → List Nat → Prop where
  /-- A single backend. -/
  | backend (b : Backend) (hpubsub : b.pubsub = true) : Mirrors (.backend b) [b.slot]
  /-- A storage that is logged. -/
  | decorated (id : StorageId) {inner : Storage} {slots : List Nat} (h : Mirrors inner slots) :
    Mirrors (.decorated id inner) slots
  /-- Several storages under different names, at least one of which takes messages. -/
  | multiplexer {children : List (StorageId × Storage)} {slotsOf : StorageId → List Nat}
    (hids : (children.map Prod.fst).Nodup)
    (hcapable : (Storage.multiplexer children).has .pubsub = true)
    (h : ∀ m ∈ Storage.pollable children, Mirrors m.storage (slotsOf m.id)) :
    Mirrors (.multiplexer children) ((Storage.pollable children).flatMap fun m => slotsOf m.id)

namespace Storage.Mirrors

variable {s : Storage} {slots : List Nat} {expiry : ChannelId → Option Duration}

/-- What is put together from mirrors takes messages. -/
theorem has_pubsub (h : s.Mirrors slots) : s.has .pubsub = true := by
  induction h with
  | backend b hpubsub => exact hpubsub
  | decorated id h ih => exact ih
  | multiplexer hids hcapable h ih => exact hcapable

/-- What is put together from mirrors has a place. -/
theorem slots_ne_nil (h : s.Mirrors slots) : slots ≠ [] := by
  induction h with
  | backend b hpubsub => exact List.cons_ne_nil _ _
  | decorated id h ih => exact ih
  | multiplexer hids hcapable h ih =>
    obtain ⟨m, rest, heq⟩ := List.exists_cons_of_ne_nil (pollable_ne_nil hcapable)
    rw [heq, List.flatMap_cons]
    exact List.append_ne_nil_of_left_ne_nil (ih m (heq ▸ List.mem_cons_self)) _

/-- What is put together from mirrors is a mirror. -/
theorem mirrored (h : s.Mirrors slots) (hslots : slots.Nodup) :
    Mirrored expiry slots s.start := by
  induction h with
  | backend b hpubsub =>
    rw [Storage.start]
    exact mirrored_backend expiry b
  | decorated id h ih =>
    rw [Storage.start]
    exact mirrored_decorated id h.has_pubsub (ih hslots)
  | @multiplexer children slotsOf hids hcapable h ih =>
    rw [Storage.start]
    refine mirrored_multiplexer hids (fun m hm => ?_) hslots
      (slots_ne_nil (.multiplexer hids hcapable h))
    rw [start_of_mem_members (pollable_sublist.subset hm)]
    exact ih m hm ((List.nodup_flatMap.mp hslots).1 m hm)

end Storage.Mirrors

/-! ### Runs -/

/-- Something that happens to storages. -/
inductive Happening where
  /-- An enquiry is made, in the course of these operations. -/
  | enquire (spans : List LogSpan) (enquiry : Enquiry)
  /-- The garbage of the engine at a place is collected within the time allowed. -/
  | collect (slot : Nat) (timeout : Duration)

/-- Something that happens at some moment. -/
structure Occasion where
  /-- What the wall clock shows. -/
  clock : Timestamp
  /-- What the clock of waits shows. -/
  time : Nat
  /-- What happens. -/
  happening : Happening

namespace Occasion

/-- The enquiry that is made, if one is made, and the moment. -/
def enquiry? (o : Occasion) : Option (Timestamp × Enquiry) :=
  match o.happening with
  | .enquire _ enquiry => some (o.clock, enquiry)
  | .collect .. => none

/-- The world at the moment of an occasion. -/
def moment (o : Occasion) (w : World) : World := { w with clock := o.clock, time := o.time }

end Occasion

namespace Storage

/-- The operations that are started at a storage on several occasions. -/
def calls (s : Storage) : World → List Occasion → List Call
  | _, [] => []
  | w, o :: os =>
    match o.happening with
    | .enquire spans enquiry =>
      let (w, c) := s.start spans enquiry.request (o.moment w)
      c :: s.calls w os
    | .collect slot timeout => s.calls ((o.moment w).collect slot timeout).1 os

end Storage

/-- The reply of an operation that has ended; there is none if it has failed. -/
def Call.reply? (c : Call) : Option (Option StorageReply) := c.answer?.map Except.toOption

/-- The replies of a ledger to several enquiries. -/
def Ledger.replies (expiry : ChannelId → Option Duration) :
    Ledger → List (Timestamp × Enquiry) → List (Option StorageReply)
  | _, [] => []
  | ledger, (now, enquiry) :: rest =>
    (ledger.reply expiry now enquiry).2 :: replies expiry (ledger.reply expiry now enquiry).1 rest

/-- In the course of a run, mirrors reply as the ledger does. -/
theorem Storage.Mirrors.reply?_calls {s : Storage} {slots : List Nat} (h : s.Mirrors slots)
    (hslots : slots.Nodup) {expiry : ChannelId → Option Duration} {w : World} {ledger : Ledger}
    {now : Timestamp} (hgrants : w.Grants expiry)
    (htracks : ∀ slot ∈ slots, w.TracksAt slot ledger expiry now) (os : List Occasion)
    (hnow : ∀ o ∈ os, now ≤ o.clock) (hclock : os.Pairwise fun o o' => o.clock ≤ o'.clock) :
    (s.calls w os).map Call.reply? =
      (ledger.replies expiry (os.filterMap Occasion.enquiry?)).map some := by
  -- each engine tracks one ledger, which an enquiry changes and a pass does not
  induction os generalizing w ledger now with
  | nil => rfl
  | cons o os ih =>
    obtain ⟨hfirst, hrest⟩ := List.pairwise_cons.mp hclock
    obtain ⟨clock, time, happening⟩ := o
    have hgranted : (Occasion.moment ⟨clock, time, happening⟩ w).Grants expiry := hgrants
    have hmoment : ∀ slot ∈ slots,
        (Occasion.moment ⟨clock, time, happening⟩ w).TracksAt slot ledger expiry clock :=
      fun slot hslot => (htracks slot hslot).mono (hnow _ List.mem_cons_self)
    cases happening with
    | enquire spans enquiry =>
      obtain ⟨hconfined, htracks', a, hcall, hanswer⟩ :=
        h.mirrored hslots ledger enquiry spans (Occasion.moment ⟨clock, time, _⟩ w) hgrants hmoment
      have hlater := ih (hgranted.confined hconfined) htracks' hfirst hrest
      have henquiry : Occasion.enquiry? ⟨clock, time, .enquire spans enquiry⟩ =
          some (clock, enquiry) := rfl
      rw [Storage.calls, List.map_cons, hlater, hcall, List.filterMap_cons_some henquiry,
        Ledger.replies, List.map_cons]
      exact congrArg (· :: _) (congrArg some hanswer)
    | collect slot timeout =>
      have hconfined := (Occasion.moment ⟨clock, time, .collect slot timeout⟩ w).confined_collect
        slot timeout .unhurried
      have hnone : Occasion.enquiry? ⟨clock, time, .collect slot timeout⟩ = none := rfl
      rw [Storage.calls, List.filterMap_cons_none hnone]
      refine ih (hgranted.confined hconfined) (fun slot' hslot' => ?_) hfirst hrest
      -- the engine that is collected tracks the ledger still, and the others are as they were
      by_cases heq : slot' = slot
      · subst heq
        exact (hmoment slot' hslot').collect hgrants timeout
      · exact (hmoment slot' hslot').confined hconfined fun hmem => heq (List.mem_singleton.mp hmem)

/-- Mirrors that start with nothing reply as the ledger does. -/
theorem Storage.Mirrors.reply?_calls_of_empty {s : Storage} {slots : List Nat}
    (h : s.Mirrors slots) (hslots : slots.Nodup) {expiry : ChannelId → Option Duration} {w : World}
    (hgrants : w.Grants expiry)
    (hempty : ∀ slot ∈ slots, ∃ b, w.memory? slot = some b ∧ b.memory = .empty)
    (os : List Occasion) (hclock : os.Pairwise fun o o' => o.clock ≤ o'.clock) :
    (s.calls w os).map Call.reply? =
      (Ledger.empty.replies expiry (os.filterMap Occasion.enquiry?)).map some := by
  cases os with
  | nil => rfl
  | cons o os =>
    have htracks : ∀ slot ∈ slots, w.TracksAt slot .empty expiry o.clock := fun slot hslot => by
      obtain ⟨b, hb, hmemory⟩ := hempty slot hslot
      exact ⟨b, hb, hmemory ▸ Ledger.tracks_empty expiry o.clock⟩
    refine h.reply?_calls hslots hgrants htracks (o :: os) (fun o' ho' => ?_) hclock
    rcases List.mem_cons.mp ho' with rfl | hrest
    · exact Timestamp.le_refl _
    · exact List.rel_of_pairwise_cons hclock hrest

/-- A multiplexer over engines of its own, which may be logged, and over storages that take no
messages, replies to publishes and to polls that may not wait like a single engine that gets the
same ones: with the same messages in the same order, and with a failure exactly if the single engine
fails. The garbage of each engine may be collected at any moment, and that of the others at other
moments. -/
theorem mirrored_storages_agree {children : List (StorageId × Storage)} {slots : List Nat}
    (hmirrors : (Storage.multiplexer children).Mirrors slots) (hslots : slots.Nodup) {b : Backend}
    (hpubsub : b.pubsub = true) {expiry : ChannelId → Option Duration} {w v : World}
    (hw : w.Grants expiry) (hv : v.Grants expiry)
    (hempty : ∀ slot ∈ slots, ∃ mb, w.memory? slot = some mb ∧ mb.memory = .empty)
    (hempty' : ∃ mb, v.memory? b.slot = some mb ∧ mb.memory = .empty) {os os' : List Occasion}
    (hclock : os.Pairwise fun o o' => o.clock ≤ o'.clock)
    (hclock' : os'.Pairwise fun o o' => o.clock ≤ o'.clock)
    (hsame : os.filterMap Occasion.enquiry? = os'.filterMap Occasion.enquiry?) :
    ∃ replies : List (Option StorageReply),
      ((Storage.multiplexer children).calls w os).map Call.reply? = replies.map some ∧
        ((Storage.backend b).calls v os').map Call.reply? = replies.map some := by
  refine ⟨Ledger.empty.replies expiry (os.filterMap Occasion.enquiry?),
    hmirrors.reply?_calls_of_empty hslots hw hempty os hclock, ?_⟩
  -- both storages reply as the ledger that is asked the same
  rw [hsame]
  refine (Storage.Mirrors.backend b hpubsub).reply?_calls_of_empty (List.nodup_singleton _) hv
    (fun slot hslot => ?_) os' hclock'
  rw [List.mem_singleton.mp hslot]
  exact hempty'

namespace Sample

/-- Two storages in memory, one of which is logged, and one that keeps revocations only. -/
def pair : List (StorageId × Storage) :=
  [(⟨"first"⟩, .decorated ⟨"first"⟩ (.backend ⟨0, "memory", 0, true, true⟩)),
    (⟨"revocations"⟩, .backend ⟨1, "memory", 0, false, true⟩),
    (⟨"second"⟩, .backend ⟨2, "memory", 0, true, true⟩)]

/-- A world of empty engines in which channels keep things for ten seconds. -/
def emptyWorld : World where
  clock := .clamp 0
  time := 0
  directory := ⟨.uniform (.seconds 10), false, 0, none⟩
  backends := List.replicate 3 (.memory ⟨.default, .empty, none⟩)
  nextTicket := 0
  nextMessage := 1
  filter := ⟨"off", []⟩
  filterEra := 0
  events := []

/-- Where the engines of the two storages that take messages are. -/
def pairSlots (id : StorageId) : List Nat := if id = ⟨"first"⟩ then [0] else [2]

/-- The sample storages mirror each other at two places. -/
theorem mirrors_pair : (Storage.multiplexer pair).Mirrors [0, 2] := by
  refine @Storage.Mirrors.multiplexer pair pairSlots (by decide +kernel) (by decide +kernel)
    fun m hm => ?_
  have hmem : m.storage = .decorated ⟨"first"⟩ (.backend ⟨0, "memory", 0, true, true⟩) ∧
      m.id = ⟨"first"⟩ ∨ m.storage = .backend ⟨2, "memory", 0, true, true⟩ ∧ m.id = ⟨"second"⟩ := by
    obtain ⟨hm, hcapable⟩ := List.mem_filter.mp hm
    simp only [pair, Storage.members, List.mem_cons, List.not_mem_nil, or_false] at hm
    rcases hm with rfl | rfl | rfl
    · exact Or.inl ⟨rfl, rfl⟩
    · exact absurd hcapable (by decide +kernel)
    · exact Or.inr ⟨rfl, rfl⟩
  rcases hmem with ⟨hstorage, hid⟩ | ⟨hstorage, hid⟩ <;> rw [hstorage, hid]
  · exact .decorated ⟨"first"⟩ (.backend _ rfl)
  · exact .backend _ rfl

/-- Something that happens after some seconds. -/
def occasionAt (second : Nat) (happening : Happening) : Occasion :=
  ⟨.clamp (second * nanosPerSecond : Nat), 0, happening⟩

/-- A message is published, returned, published again too early and once more after it has expired.
In the meantime the garbage of one engine is collected, and the subscriber with it. -/
def mirroredRun : List Occasion :=
  [occasionAt 0 (.enquire [] (.publish greeting)), occasionAt 1 (.enquire [] (.poll reader 1)),
    occasionAt 2 (.enquire [] (.publish greeting)), occasionAt 3 (.enquire [] (.poll reader 1)),
    occasionAt 30 (.collect 2 (.seconds 1)), occasionAt 31 (.enquire [] (.publish greeting)),
    occasionAt 32 (.collect 0 (.seconds 1)), occasionAt 33 (.enquire [] (.poll reader 0))]

/-- The same for a single engine that is not collected. -/
def singleRun : List Occasion :=
  [occasionAt 0 (.enquire [] (.publish greeting)), occasionAt 1 (.enquire [] (.poll reader 1)),
    occasionAt 2 (.enquire [] (.publish greeting)), occasionAt 3 (.enquire [] (.poll reader 1)),
    occasionAt 31 (.enquire [] (.publish greeting)), occasionAt 33 (.enquire [] (.poll reader 0))]

/-- The expiries of the channels, which is ten seconds for all that there are. -/
def tenSeconds (id : ChannelId) : Option Duration :=
  if id.text.startsWith "invalid-" then none else some (.seconds 10)

/-- The directory of the sample world finds channels that keep things for ten seconds. -/
theorem grants_emptyWorld : emptyWorld.Grants tenSeconds where
  source id := by
    refine ⟨(ChannelSource.uniform (.seconds 10)).filedAs_find id, ?_⟩
    show (ChannelSource.find (.uniform (.seconds 10)) id).toOption.map (·.expire) = tenSeconds id
    unfold ChannelSource.find tenSeconds
    dsimp only
    cases id.text.startsWith "invalid-" <;> rfl
  cached _ h := nomatch h

/-- The engines of the sample world are empty. -/
theorem empty_emptyWorld :
    ∀ slot ∈ [0, 2], ∃ mb, emptyWorld.memory? slot = some mb ∧ mb.memory = .empty := by
  intro slot hslot
  simp only [List.mem_cons, List.not_mem_nil, or_false] at hslot
  rcases hslot with rfl | rfl <;> exact ⟨_, rfl, rfl⟩

end Sample

/-- Two engines, one of which is collected, reply like a single one. -/
theorem mirrored_storages_agree_pair :
    (∃ replies : List (Option StorageReply),
      ((Storage.multiplexer Sample.pair).calls Sample.emptyWorld Sample.mirroredRun).map
        Call.reply? = replies.map some ∧
      ((Storage.backend ⟨0, "memory", 0, true, true⟩).calls Sample.emptyWorld
        Sample.singleRun).map Call.reply? = replies.map some) ∧
      ((Storage.multiplexer Sample.pair).calls Sample.emptyWorld Sample.mirroredRun).map
        Call.handedOut = [[], [Sample.greeting], [], [], [], [Sample.greeting]] :=
  ⟨mirrored_storages_agree Sample.mirrors_pair (by decide) rfl Sample.grants_emptyWorld
    Sample.grants_emptyWorld Sample.empty_emptyWorld ⟨_, rfl, rfl⟩ (by decide +kernel)
    (by decide +kernel) rfl, by decide +kernel⟩

end LongPoll
