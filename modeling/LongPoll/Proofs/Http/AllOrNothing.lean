import LongPoll.Proofs.Http.Service
import LongPoll.Proofs.Storage.Reliable
/-!
# Requests that fail

A request that fails has done nothing (`failed_request_changes_nothing`). If its storage never hears
of it, nothing has happened but lines in the log, a name given to a message, and an entry in the
cache of channels. If it is passed on to the storage, the storage is able to do what is asked, its
channel was found a moment before, and all backends are memory engines; so the request is going to
succeed, and the response says so.
-/

namespace LongPoll

namespace Http.Server

variable {s : Server} {r : Request} {w w' : World} {j : JobState Response}

/-- A request comes in and runs alone: time passes, and its job runs on, but nothing else happens.
-/
inductive Alone (s : Server) (r : Request) (w : World) : World → JobState Response → Prop
  /-- The request comes in. -/
  | receive : Alone s r w (s.receive r w).1 (s.receive r w).2
  /-- Time passes. -/
  | pass {w' : World} {j : JobState Response} (clock : Timestamp) (time : Nat)
    (h : Alone s r w w' j) : Alone s r w { w' with clock := clock, time := time } j
  /-- The job of the request runs on. -/
  | resume {w' : World} {j : JobState Response} (h : Alone s r w w' j) :
    Alone s r w (j.resume w').1 (j.resume w').2

/-- A request that runs alone is going to succeed, or has changed nothing if it has failed. -/
def Harmless (w w' : World) : JobState Response → Prop
  | .running job => (JobState.running job).Reports ∧ job.call.Sure ∧
      ∀ reply w'', (job.conclude (.ok reply) w'').2.status < 400
  | .ended response _ => 400 ≤ response.status → w'.backends = w.backends ∧ w'.filter = w.filter

/-- A job that is going to succeed does so when it ends. -/
theorem harmless_settle (job : Job Response) (hreports : (JobState.running job).Reports)
    (hsure : job.call.Sure)
    (hstatus : ∀ reply w'', (job.conclude (.ok reply) w'').2.status < 400) (w w' : World) :
    Harmless w (job.settle w').1 (job.settle w').2 := by
  unfold Job.settle
  split
  next a hanswer =>
    obtain ⟨reply, rfl⟩ := hsure.answer hanswer
    exact fun hfailed => absurd hfailed (Nat.not_le.mpr (hstatus reply w'))
  next => exact ⟨hreports, hsure, hstatus⟩

/-- A request whose storage is ready for whatever it is able to do is harmless from the start. -/
theorem harmless_receive {entries : List (StorageId × Backend)}
    (hstorage : s.broker.storage = .assembled entries) (hhosts : w.Hosts entries) (r : Request) :
    Harmless w (s.receive r w).1 (s.receive r w).2 := by
  have hreports := s.reports_finishing r w
  have hhandled := s.handled_answer r w
  rw [receive_eq]
  generalize s.answer r w = p at hreports hhandled
  cases hhandled with
  | @atOnce w' a conclude backends_eq clock_eq logs filter_eq =>
    intro hfailed
    have hlogs := logs a w'
    refine ⟨hlogs.backends_eq.trans backends_eq, hlogs.aside.filter_eq.trans (filter_eq w' ?_)⟩
    rwa [status_finish] at hfailed
  | @passed w' request conclude aside able finds logs full ok status lists =>
    -- the channel is still found where the engines look it up
    have hready : w'.Ready entries request :=
      ⟨hhosts.keep (World.keepsEngines_of_eq aside.backends_eq), finds⟩
    rw [hstorage] at able hreports ⊢
    refine harmless_settle _ hreports (hready.sure_start able []) (fun reply w'' => ?_) w _
    show (finish r (conclude (.ok reply) w'').2).status < 400
    rw [status_finish, ok]
    exact status reply

/-- A request that runs alone stays harmless. -/
theorem Alone.harmless {entries : List (StorageId × Backend)}
    (hstorage : s.broker.storage = .assembled entries) (hhosts : w.Hosts entries)
    (h : s.Alone r w w' j) : Harmless w w' j := by
  induction h with
  | receive => exact harmless_receive hstorage hhosts r
  | @pass w' j clock time h ih =>
    cases j with
    | running job => exact ih
    | ended response t => exact ih
  | @resume w' j h ih =>
    cases j with
    | running job =>
      obtain ⟨hreports, hsure, hstatus⟩ := ih
      exact harmless_settle ⟨(job.call.resume [] w').2, job.conclude⟩ hreports
        (hsure.resume [] w') hstatus w _
    | ended response t => exact ih

end Http.Server

open Http.Server in
/-- A request that comes in at a server in service, runs alone and fails has left all backends and
the log filter exactly as they were. -/
theorem failed_request_changes_nothing {s : Http.Server} {w w' : World}
    {jobs : List (JobState Http.Response)} (hreach : s.Reachable w jobs) {r : Http.Request}
    {response : Http.Response} {time : Nat} (halone : s.Alone r w w' (.ended response time))
    (hfailed : 400 ≤ response.status) : w'.backends = w.backends ∧ w'.filter = w.filter := by
  obtain ⟨entries, hstorage, hhosts⟩ := hreach.hosts
  exact halone.harmless hstorage hhosts hfailed

namespace Sample

/-- A poll that asks for no messages at all. -/
def getNothing : Http.Request :=
  ⟨"GET", "/channel/room/subscription/polling/reader", some "timeout=0&max=0", [], .empty⟩

end Sample

/-- A poll for no messages is turned down, and the published message is still there. -/
theorem failed_request_changes_nothing_stocked :
    Sample.stocked.copiesAt 0 Sample.greeting Sample.reader = 1 ∧
      ∃ response time, (Sample.service.receive Sample.getNothing Sample.stocked).2 =
          .ended response time ∧ response.status = 400 ∧
        (Sample.service.receive Sample.getNothing Sample.stocked).1.backends =
          Sample.stocked.backends ∧
        (Sample.service.receive Sample.getNothing Sample.stocked).1.filter =
          Sample.stocked.filter := by
  have halone : Sample.service.Alone Sample.getNothing Sample.stocked _ _ := .receive
  obtain ⟨response, time, hended, hbad⟩ := JobState.ended_of_result?
    (show (Sample.service.receive Sample.getNothing Sample.stocked).2.result?.map (·.1.status) =
      some 400 by decide +kernel)
  rw [hended] at halone
  have hsame := failed_request_changes_nothing Sample.reachable_stocked halone
    (Nat.le_of_eq hbad.symm)
  exact ⟨by decide +kernel, response, time, hended, hbad, hsame⟩

end LongPoll
