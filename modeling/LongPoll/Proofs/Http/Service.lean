import LongPoll.Proofs.Http.Handling
import LongPoll.Proofs.Merge.Backends
import LongPoll.Proofs.Storage.Configured
/-!
# Servers in service

A server in service has requests in progress, each of them a job. Requests come in at any time, jobs
run on in any order or are dropped, and beside that time passes, garbage is collected and the
directory of channels is exchanged (`Http.Server.Reachable`). Through all of that the storage keeps
its shape and the memory engines keep their places (`Http.Server.Reachable.hosts`).
-/

namespace LongPoll

/-- What becomes of the answer to a job in progress leaves everything but the log alone. -/
def JobState.Reports {α : Type} : JobState α → Prop
  | running j => ∀ (a : StorageAnswer) (w : World), w.Logs (j.conclude a w).1
  | ended .. => True

section Jobs

variable {α : Type} {w : World}

/-- To take the answer of a call is at most to report something. -/
theorem Job.logs_settle {j : Job α} (h : (JobState.running j).Reports) (w : World) :
    w.Logs (j.settle w).1 := by
  unfold Job.settle
  split
  · exact h _ w
  · exact .refl w

/-- A job whose answer has been taken, or could not be taken yet, still does no more than report. -/
theorem Job.reports_settle {j : Job α} (h : (JobState.running j).Reports) (w : World) :
    (j.settle w).2.Reports := by
  unfold Job.settle
  split
  · exact trivial
  · exact h

/-- A job that runs on still does no more than report about its answer. -/
theorem JobState.reports_resume {s : JobState α} (h : s.Reports) (w : World) :
    (s.resume w).2.Reports := by
  cases s with
  | ended result time => exact h
  | running j => exact Job.reports_settle (j := ⟨(j.call.resume [] w).2, j.conclude⟩) h _

variable {R : World → World → Prop} (hguarantee : Guarantee R)

include hguarantee

/-- What every operation of a storage guarantees, and every report, is guaranteed by a job that runs
on. -/
theorem Guarantee.resumeJob (hlogs : ∀ {w w' : World}, w.Logs w' → R w w') {s : JobState α}
    (h : s.Reports) (w : World) : R w (s.resume w).1 := by
  cases s with
  | ended result time => exact hguarantee.refl w
  | running j =>
    exact hguarantee.trans (hguarantee.resume j.call [] w)
      (hlogs (Job.logs_settle (j := ⟨(j.call.resume [] w).2, j.conclude⟩) h _))

/-- What dropping a call guarantees is guaranteed by dropping a job. -/
theorem Guarantee.dropJob (s : JobState α) (w : World) : R w (s.drop w) := by
  cases s with
  | ended result time => exact hguarantee.refl w
  | running j => exact hguarantee.drop j.call w

end Jobs

/-- A job that has a result has ended with it. -/
theorem JobState.ended_of_result? {α β : Type} {f : α → β} {j : JobState α} {b : β}
    (h : j.result?.map (fun p => f p.1) = some b) : ∃ a time, j = .ended a time ∧ f a = b := by
  cases j with
  | running job => exact absurd h nofun
  | ended a time => exact ⟨a, time, rfl, Option.some.inj h⟩

theorem World.Logs.keepsEngines {w w' : World} (h : w.Logs w') : w.KeepsEngines w' :=
  keepsEngines_of_eq h.backends_eq

namespace Http.Server

/-- Take a request in, and let its job run until it waits or ends. -/
def receive (s : Server) (r : Request) (w : World) : World × JobState Response :=
  let (w, job) := s.handle r w
  job.settle w

/-- A server with a configured storage is in service, and these jobs have come of its requests. -/
inductive Reachable (s : Server) : World → List (JobState Response) → Prop
  /-- The server starts. -/
  | start {o : StoragesOptions} {clock : Timestamp} {directory : Directory} {filter : LogFilter}
    {w : World} {storage : Storage} (names : (o.map Prod.fst).Nodup)
    (configured : Storage.configured o (World.start clock directory filter) = (w, .ok storage))
    (broker : (Broker.start storage w).2 = s.broker) : Reachable s (Broker.start storage w).1 []
  /-- A request comes in. -/
  | receive {w : World} {jobs : List (JobState Response)} (r : Request) (h : Reachable s w jobs) :
    Reachable s (s.receive r w).1 (jobs ++ [(s.receive r w).2])
  /-- A job runs until it waits or ends. -/
  | resume {w : World} {before after : List (JobState Response)} {j : JobState Response}
    (h : Reachable s w (before ++ j :: after)) :
    Reachable s (j.resume w).1 (before ++ (j.resume w).2 :: after)
  /-- A job is dropped. -/
  | drop {w : World} {before after : List (JobState Response)} {j : JobState Response}
    (h : Reachable s w (before ++ j :: after)) : Reachable s (j.drop w) (before ++ after)
  /-- Time passes. -/
  | pass {w : World} {jobs : List (JobState Response)} (clock : Timestamp) (time : Nat)
    (h : Reachable s w jobs) : Reachable s { w with clock := clock, time := time } jobs
  /-- Garbage is collected at a backend if it is time to, until there is none left or the time is
  over. -/
  | collect {w : World} {jobs : List (JobState Response)} (slot : Nat) (pace : Pace)
    (h : Reachable s w jobs) : Reachable s (w.collectIfDue slot pace) jobs
  /-- The directory of channels is exchanged. -/
  | exchange {w : World} {jobs : List (JobState Response)} (directory : Directory)
    (h : Reachable s w jobs) : Reachable s { w with directory := directory } jobs

variable {s : Server} {w w' : World} {jobs : List (JobState Response)}

/-- A server that was started from its settings is in service. -/
theorem reachable_of_start {o : ServerOptions} {filter : LogFilter} {clock : Timestamp}
    (h : Server.start o filter clock = (w, .ok s)) (hnames : (o.storages.map Prod.fst).Nodup) :
    s.Reachable w [] := by
  unfold Server.start at h
  split at h
  next => exact absurd (Prod.mk.inj h).2 nofun
  -- the catalogue is in order, and only the storage could still be refused
  next catalogue _ =>
    dsimp only at h
    split at h
    next => exact absurd (Prod.mk.inj h).2 nofun
    next w₁ storage hconfigured =>
      obtain ⟨rfl, hs⟩ := Prod.mk.inj h
      obtain rfl := Except.ok.inj hs
      exact .start hnames hconfigured rfl

/-! ### What requests leave alone -/

section Receive

variable {p : World × Job Response}

/-- Whatever comes of the answer to a request, it is no more than a report. -/
theorem Handled.reports (h : s.Handled w p) : (JobState.running p.2).Reports := by
  cases h with
  | atOnce backends_eq clock_eq logs filter_eq => exact logs
  | passed aside able finds logs full ok status lists => exact logs

/-- To handle a request leaves the engines at their places. -/
theorem Handled.keepsEngines (h : s.Handled w p) : w.KeepsEngines p.1 := by
  cases h with
  | atOnce backends_eq clock_eq logs filter_eq => exact World.keepsEngines_of_eq backends_eq
  | passed aside able finds logs full ok status lists =>
    exact (World.keepsEngines_of_eq aside.backends_eq).trans
      (guarantee_keepsEngines.start s.broker.storage [] _ _)

/-- To receive a request is to answer it, and to take the answer of its call if it is there. -/
theorem receive_eq (s : Server) (r : Request) (w : World) :
    s.receive r w = (finishing r (s.answer r w).2).settle (s.answer r w).1 := by
  rw [receive, handle_eq]

/-- To leave the content out of a response is no matter of the world. -/
theorem reports_finishing (s : Server) (r : Request) (w : World) :
    (JobState.running (finishing r (s.answer r w).2)).Reports := (s.handled_answer r w).reports

/-- The job of a request does no more than report about its answer. -/
theorem reports_receive (s : Server) (r : Request) (w : World) : (s.receive r w).2.Reports := by
  rw [receive_eq]
  exact Job.reports_settle (s.reports_finishing r w) _

/-- A request that comes in leaves the engines at their places. -/
theorem keepsEngines_receive (s : Server) (r : Request) (w : World) :
    w.KeepsEngines (s.receive r w).1 := by
  rw [receive_eq]
  exact (s.handled_answer r w).keepsEngines.trans
    (Job.logs_settle (s.reports_finishing r w) _).keepsEngines

end Receive

/-! ### What stays so in service -/

/-- All jobs in progress do no more than report about their answers. -/
theorem Reachable.reports (h : s.Reachable w jobs) : ∀ j ∈ jobs, j.Reports := by
  induction h with
  | start names configured broker => nofun
  | @receive w jobs r h ih =>
    intro j hj
    rcases List.mem_append.mp hj with hold | hnew
    · exact ih j hold
    · rw [List.mem_singleton.mp hnew]
      exact s.reports_receive r w
  | @resume w before after j h ih =>
    intro j' hj'
    rcases List.mem_append.mp hj' with hbefore | hlater
    · exact ih j' (List.mem_append_left _ hbefore)
    -- the job that has run on stands where it stood
    · rcases List.mem_cons.mp hlater with rfl | hafter
      · exact JobState.reports_resume (ih j (by simp)) w
      · exact ih j' (List.mem_append_right _ (List.mem_cons_of_mem _ hafter))
  | @drop w before after j h ih =>
    intro j' hj'
    rcases List.mem_append.mp hj' with hbefore | hafter
    · exact ih j' (List.mem_append_left _ hbefore)
    · exact ih j' (List.mem_append_right _ (List.mem_cons_of_mem _ hafter))
  | pass clock time h ih => exact ih
  | collect slot pace h ih => exact ih
  | exchange directory h ih => exact ih

/-- The storage of a server in service is made of memory engines at places of their own. -/
theorem Reachable.hosts (h : s.Reachable w jobs) :
    ∃ entries, s.broker.storage = .assembled entries ∧ w.Hosts entries := by
  induction h with
  | @start o clock directory filter w storage names configured broker =>
    obtain ⟨entries, rfl, -, hhosts⟩ := assembled_of_configured configured names
    exact ⟨entries, congrArg Broker.storage broker.symm,
      hhosts.keep (World.keepsEngines_report w [] _)⟩
  | @receive w jobs r h ih =>
    obtain ⟨entries, hstorage, hhosts⟩ := ih
    exact ⟨entries, hstorage, hhosts.keep (s.keepsEngines_receive r w)⟩
  | @resume w before after j h ih =>
    obtain ⟨entries, hstorage, hhosts⟩ := ih
    -- the job itself changes nothing but through its call and by reports
    have hreports := h.reports j (by simp)
    exact ⟨entries, hstorage,
      hhosts.keep (guarantee_keepsEngines.resumeJob World.Logs.keepsEngines hreports w)⟩
  | @drop w before after j h ih =>
    obtain ⟨entries, hstorage, hhosts⟩ := ih
    exact ⟨entries, hstorage, hhosts.keep (guarantee_keepsEngines.dropJob j w)⟩
  | pass clock time h ih =>
    obtain ⟨entries, hstorage, hhosts⟩ := ih
    exact ⟨entries, hstorage, hhosts.keep (World.keepsEngines_of_eq rfl)⟩
  | @collect w jobs slot pace h ih =>
    obtain ⟨entries, hstorage, hhosts⟩ := ih
    exact ⟨entries, hstorage, hhosts.keep (w.keepsEngines_collectIfDue slot pace)⟩
  | exchange directory h ih =>
    obtain ⟨entries, hstorage, hhosts⟩ := ih
    exact ⟨entries, hstorage, hhosts.keep (World.keepsEngines_of_eq rfl)⟩

end Http.Server

/-! ### A small service -/

namespace Sample

/-- Two storages in memory, one of which keeps no revocations. -/
def settings : StoragesOptions :=
  [(⟨"left"⟩, ⟨some .default, none⟩),
    (⟨"right"⟩, ⟨some { MemoryOptions.default with disableJwt := true }, none⟩)]

/-- A world in which every name has a channel. -/
def freshWorld : World := .start (.clamp 0) ⟨.uniform (.seconds 60), false, 0, none⟩ ⟨"off", []⟩

/-- The two storages as one. -/
def duo : Storage :=
  .assembled [(⟨"left"⟩, ⟨0, "onmemory", 0, true, true⟩),
    (⟨"right"⟩, ⟨1, "onmemory", 0, true, false⟩)]

/-- A server before the two storages. -/
def service : Http.Server := ⟨⟨duo⟩, [], .seconds 10, ""⟩

/-- The world in which the server has started. -/
def opened : World := (Broker.start duo (Storage.configured settings freshWorld).1).1

/-- A message is published. -/
def putGreeting : Http.Request := ⟨"PUT", "/channel/room/message/greeting", none, [], ⟨#[104, 105]⟩⟩

/-- The messages of the consumer are polled. -/
def getMessages : Http.Request :=
  ⟨"GET", "/channel/room/subscription/polling/reader", some "timeout=0", [], .empty⟩

/-- The world after the message was published. -/
def stocked : World := (service.receive putGreeting opened).1

theorem configured_settings : Storage.configured settings freshWorld =
    ((Storage.configured settings freshWorld).1, .ok duo) := Prod.ext rfl rfl

theorem reachable_opened : service.Reachable opened [] :=
  .start (by decide +kernel) configured_settings rfl

theorem reachable_stocked : service.Reachable stocked [(service.receive putGreeting opened).2] :=
  reachable_opened.receive putGreeting

example : stocked.copiesAt 1 greeting reader = 1 := by decide +kernel

example : (service.receive getMessages stocked).2.result?.map (·.1.messageIds) =
    some ["greeting"] := by decide +kernel

end Sample

end LongPoll
