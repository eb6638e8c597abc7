import LongPoll.Proofs.Http.Service
import LongPoll.Proofs.Merge.Conservation
/-!
# Messages that requests take

A request that takes a message from the queue of a subscriber lists it in its response, unless its
method is `HEAD` (`taken_messages_listed`). A `HEAD` request to the place of a poll is served as
one: it runs the same course as the `GET` request does, takes the same messages, and leaves the list
of them out of its response. So they are lost (`message_taken_by_head`).
-/

namespace LongPoll

namespace Http.Server

variable {s : Server} {r : Request}

/-- A request has come in at a server in service and its job has run on. `steps` are the worlds
before and after each of its own steps; anything may have happened in between. -/
inductive Course (s : Server) (r : Request) :
    List (World × World) → JobState Response → Prop
  /-- The request comes in. -/
  | receive {w : World} {jobs : List (JobState Response)} (h : s.Reachable w jobs) :
    Course s r [(w, (s.receive r w).1)] (s.receive r w).2
  /-- The job of the request runs on. -/
  | resume {steps : List (World × World)} {j : JobState Response} (w : World)
    (h : Course s r steps j) : Course s r (steps ++ [(w, (j.resume w).1)]) (j.resume w).2

/-! ### What responses list -/

/-- What was lost to a request is listed in its response, if this comes with its content. -/
inductive Minding (r : Request) (lost : Message → Prop) : JobState Response → Prop
  /-- The job has ended. -/
  | ended (full : Response) (time : Nat) (listed : ∀ x, lost x → x.id.text ∈ full.messageIds) :
    Minding r lost (.ended (finish r full) time)
  /-- Nothing is taken from anybody. -/
  | harmless {job : Job Response} {a : StorageAnswer} (foreseen : job.call.foreseen? = some a)
    (nothing : ∀ x, ¬lost x) (reports : (JobState.running job).Reports) :
    Minding r lost (.running (finishing r job))
  /-- The job is a poll, and is going to list what the poll returns. -/
  | polling {job : Job Response} {entries : List (StorageId × Backend)}
    (names : (entries.map Prod.fst).Nodup)
    (carries : job.call.Carries (Storage.pollable (Storage.logged entries)) lost)
    (reports : (JobState.running job).Reports)
    (lists : ∀ reply w,
      (job.conclude (.ok reply) w).2.messageIds = reply.delivered.map (·.id.text)) :
    Minding r lost (.running (finishing r job))

/-- Whoever minds what was lost minds any part of it. -/
theorem Minding.mono {lost fewer : Message → Prop} {j : JobState Response}
    (h : Minding r lost j) (hsub : ∀ x, fewer x → lost x) : Minding r fewer j := by
  cases h with
  | ended full time listed => exact .ended full time fun x hx => listed x (hsub x hx)
  | harmless foreseen nothing reports =>
    exact .harmless foreseen (fun x hx => nothing x (hsub x hx)) reports
  | polling names carries reports lists => exact .polling names (carries.mono hsub) reports lists

/-- A job that takes nothing has nothing to list, be it over or not. -/
theorem minding_settle_harmless {lost : Message → Prop} (job : Job Response) {a : StorageAnswer}
    (foreseen : job.call.foreseen? = some a) (nothing : ∀ x, ¬lost x)
    (reports : (JobState.running job).Reports) (w : World) :
    Minding r lost ((finishing r job).settle w).2 := by
  unfold Job.settle
  split
  · exact .ended _ _ fun x hx => absurd hx (nothing x)
  · exact .harmless foreseen nothing reports

/-- A poll that has ended lists what it returns, and so all that it has taken. -/
theorem minding_settle_polling {lost : Message → Prop} (job : Job Response)
    {entries : List (StorageId × Backend)} (names : (entries.map Prod.fst).Nodup)
    (carries : job.call.Carries (Storage.pollable (Storage.logged entries)) lost)
    (reports : (JobState.running job).Reports)
    (lists : ∀ reply w,
      (job.conclude (.ok reply) w).2.messageIds = reply.delivered.map (·.id.text)) (w : World) :
    Minding r lost ((finishing r job).settle w).2 := by
  unfold Job.settle
  split
  next a hanswer =>
    have hcall : job.call = .settled a := Call.eq_settled_of_answer? hanswer
    refine .ended _ _ fun x hx => ?_
    rw [hcall] at carries
    obtain ⟨listed⟩ := carries
    have hmem := listed x hx
    -- the poll returns what it has taken, and a failure would return nothing
    cases a with
    | error e => exact absurd hmem List.not_mem_nil
    | ok reply =>
      rw [lists]
      obtain ⟨m, hm, heq⟩ := List.mem_map.mp hmem
      exact List.mem_map.mpr ⟨m, hm, congrArg (·.text) heq⟩
  next => exact .polling names carries reports lists

/-- To take the answer of a call loses nothing, so what is lost was lost by the call. -/
theorem loses_settle (job : Job Response) {w w' : World} {x : Message}
    (reports : (JobState.running job).Reports)
    (h : w.Loses ((finishing r job).settle w').1 x) : w.Loses w' x :=
  h.before_logs (Job.logs_settle (j := finishing r job) reports w')

/-- What a request takes when it comes in is going to be listed. -/
theorem minding_receive {entries : List (StorageId × Backend)}
    (hstorage : s.broker.storage = .assembled entries) {w : World} (hhosts : w.Hosts entries)
    (r : Request) : Minding r (w.Loses (s.receive r w).1) (s.receive r w).2 := by
  have hhandled := s.handled_answer r w
  have hreports := hhandled.reports
  rw [receive_eq]
  generalize s.answer r w = p at hreports hhandled
  cases hhandled with
  | @atOnce w' a conclude backends_eq clock_eq logs filter_eq =>
    -- the backends were not asked, and have lost nothing
    refine minding_settle_harmless ⟨.settled a, conclude⟩
      (Call.foreseen?_of_answer? rfl) (fun x hx => ?_) hreports w'
    have hnothing : w.Gives w' [] := World.gives_of_eq backends_eq clock_eq
    exact List.not_mem_nil (hnothing x (loses_settle _ hreports hx))
  | @passed w' request conclude aside able finds logs full ok status lists =>
    have haside : w.Gives w' [] := World.gives_of_eq aside.backends_eq aside.clock_eq
    have hhosts' := hhosts.keep (World.keepsEngines_of_eq aside.backends_eq)
    rw [hstorage] at able hreports ⊢
    -- nothing but a poll takes anything, and a poll brings what it takes
    cases hpoll : request.isPoll with
    | true =>
      cases request with
      | poll locator max wait =>
        refine (minding_settle_polling _ hhosts'.names (carries_start hhosts'.names able w')
          hreports (fun reply w'' => ?_) _).mono fun x hx => ?_
        · exact (congrArg Response.messageIds (ok reply w'')).trans (lists rfl reply)
        · refine ((loses_settle _ hreports hx).split w').resolve_left fun hbefore => ?_
          exact List.not_mem_nil (haside x hbefore)
      | _ => exact Bool.noConfusion hpoll
    | false =>
      obtain ⟨calls, a, hround, hforeseen, hgathers⟩ := Storage.fan_out hpoll able [] w'
      have hnothing : w'.Gives ((Storage.assembled entries).start [] request w').1 [] :=
        hround.gives hhosts' (hgathers.mem_entries able) hpoll
      refine minding_settle_harmless _ hforeseen (fun x hx => ?_) hreports _
      exact List.not_mem_nil ((haside.trans hnothing) x (loses_settle _ hreports hx))

/-- What a request takes when its job runs on is going to be listed. -/
theorem Minding.resume {lost : Message → Prop} {j : JobState Response} (h : Minding r lost j)
    (w : World) : Minding r (fun x => lost x ∨ w.Loses (j.resume w).1 x) (j.resume w).2 := by
  cases h with
  | ended full time listed =>
    refine .ended full time fun x hx => listed x (hx.resolve_right fun hnow => ?_)
    exact hnow.not_of_logs (.refl w)
  -- the answer is known beforehand, and the call only waits until its time has come
  | @harmless job a foreseen nothing reports =>
    have happroaches := Call.approaches_of_foreseen? foreseen [] w
    refine minding_settle_harmless ⟨(job.call.resume [] w).2, job.conclude⟩
      happroaches.foreseen (fun x hx => ?_) reports _
    rcases hx with hbefore | hnow
    · exact nothing x hbefore
    · exact (loses_settle ⟨(job.call.resume [] w).2, job.conclude⟩ reports
        hnow).not_of_logs happroaches.logs
  | @polling job entries names carries reports lists =>
    refine (minding_settle_polling ⟨(job.call.resume [] w).2, job.conclude⟩ names
      (carries.resume_logged names w) reports lists _).mono fun x hx => ?_
    exact hx.imp_right (loses_settle ⟨(job.call.resume [] w).2, job.conclude⟩ reports)

/-- In its whole course, a request minds what it takes. -/
theorem Course.minding {steps : List (World × World)} {j : JobState Response}
    (h : s.Course r steps j) :
    Minding r (fun x => ∃ step ∈ steps, step.1.Loses step.2 x) j := by
  induction h with
  | @receive w jobs hreach =>
    obtain ⟨entries, hstorage, hhosts⟩ := hreach.hosts
    refine (minding_receive hstorage hhosts r).mono fun x hx => ?_
    obtain ⟨step, hstep, hlost⟩ := hx
    rwa [List.mem_singleton.mp hstep] at hlost
  | @resume steps j w h ih =>
    refine (ih.resume w).mono fun x hx => ?_
    obtain ⟨step, hstep, hlost⟩ := hx
    -- a message was taken in an earlier step or in the last one
    rcases List.mem_append.mp hstep with hbefore | hnow
    · exact Or.inl ⟨step, hbefore, hlost⟩
    · rw [List.mem_singleton.mp hnow] at hlost
      exact Or.inr hlost

/-- A request that has ended has listed all that it took, before its content was left out if it
was. -/
theorem Course.listed {steps : List (World × World)} {response : Response} {time : Nat}
    (h : s.Course r steps (.ended response time)) :
    ∃ full, response = finish r full ∧
      ∀ x, (∃ step ∈ steps, step.1.Loses step.2 x) → x.id.text ∈ full.messageIds := by
  have hminding := h.minding
  cases hminding with
  | ended full time listed => exact ⟨full, rfl, listed⟩

/-! ### `HEAD` requests -/

/-- The `GET` request for the same. -/
def asGet (r : Request) : Request := { r with method := "GET" }

/-- The state of a job whose response is going to come without its content. -/
def bodiless : JobState Response → JobState Response
  | .running job => .running (job.andThen fun response w => (w, response.withoutBody))
  | .ended response time => .ended response.withoutBody time

theorem serves_head (m : Method) : m.serves "HEAD" = m.serves "GET" := by
  cases m <;> decide +kernel

/-- A `HEAD` request is answered as the `GET` request for the same, before its content is left out.
-/
theorem answer_head (s : Server) (hhead : r.method = "HEAD") : s.answer r = s.answer (asGet r) := by
  obtain ⟨method, path, query, headers, body⟩ := r
  obtain rfl : method = "HEAD" := hhead
  have hchoose : ∀ found, s.choose found ⟨"HEAD", path, query, headers, body⟩ =
      s.choose found ⟨"GET", path, query, headers, body⟩ := fun found => by
    unfold choose
    simp only [serves_head]
    rfl
  unfold answer asGet
  dsimp only
  -- the method matters where an operation or a page is chosen, and nowhere else
  cases s.operationsAt path with
  | nil =>
    dsimp only
    unfold Pages.answer
    dsimp only
    rw [serves_head]
  | cons found others =>
    dsimp only
    rw [hchoose]
    rfl

/-- To leave the content out changes neither what is done nor when. -/
theorem settle_bodiless (job : Job Response) (w : World) :
    (job.andThen fun response w => (w, response.withoutBody)).settle w =
      ((job.settle w).1, bodiless (job.settle w).2) := by
  unfold Job.settle Job.andThen
  cases job.call.answer? <;> rfl

/-- A job whose content is going to be left out runs on like the job itself. -/
theorem resume_bodiless (j : JobState Response) (w : World) :
    (bodiless j).resume w = ((j.resume w).1, bodiless (j.resume w).2) := by
  cases j with
  | running job => exact settle_bodiless ⟨(job.call.resume [] w).2, job.conclude⟩ _
  | ended response time => rfl

/-- A `HEAD` request comes in like the `GET` request for the same, but for the content of its
response. -/
theorem receive_head (s : Server) (hhead : r.method = "HEAD") (w : World) :
    s.receive r w = ((s.receive (asGet r) w).1, bodiless (s.receive (asGet r) w).2) := by
  have hget : s.receive (asGet r) w = (s.answer r w).2.settle (s.answer r w).1 := by
    rw [answer_head s hhead]
    rfl
  have hthis : s.receive r w =
      ((s.answer r w).2.andThen fun response w => (w, response.withoutBody)).settle
        (s.answer r w).1 := by
    unfold receive handle
    dsimp only
    rw [if_pos hhead]
  rw [hget, hthis, settle_bodiless]

/-- A `HEAD` request runs the course of the `GET` request for the same, step by step. -/
theorem Course.asGet {steps : List (World × World)} {j : JobState Response}
    (h : s.Course r steps j) (hhead : r.method = "HEAD") :
    ∃ full, s.Course (asGet r) steps full ∧ j = bodiless full := by
  induction h with
  | @receive w jobs hreach =>
    rw [receive_head s hhead w]
    exact ⟨_, .receive hreach, rfl⟩
  | @resume steps j w h ih =>
    obtain ⟨full, hcourse, rfl⟩ := ih
    rw [resume_bodiless full w]
    exact ⟨_, hcourse.resume w, rfl⟩

end Http.Server

/-! ### What is taken is listed -/

open Http.Server in
/-- There is a response that lists every message that a request has taken from a consumer. It is the
one that is sent, unless the method is `HEAD`: then it is the response to the `GET` request for the
same, which would have taken the same messages, and is sent without its content. -/
theorem taken_messages_listed {s : Http.Server} {r : Http.Request} {steps : List (World × World)}
    {response : Http.Response} {time : Nat} (h : s.Course r steps (.ended response time)) :
    ∃ full : Http.Response,
      (∀ step ∈ steps, ∀ x, step.1.Loses step.2 x → x.id.text ∈ full.messageIds) ∧
      if r.method = "HEAD" then
        response = full.withoutBody ∧ s.Course (asGet r) steps (.ended full time)
      else response = full := by
  split
  next hhead =>
    -- the content that is thrown away is the one of the response to the same request by GET
    obtain ⟨full, hcourse, hfull⟩ := h.asGet hhead
    cases full with
    | running job => exact JobState.noConfusion rfl (heq_of_eq hfull)
    | ended full t =>
      obtain ⟨rfl, rfl⟩ := JobState.ended.inj hfull
      obtain ⟨full', rfl, listed⟩ := hcourse.listed
      exact ⟨_, fun step hstep x hlost => listed x ⟨step, hstep, hlost⟩, rfl, hcourse⟩
  next hother =>
    obtain ⟨full, hfull, listed⟩ := h.listed
    rw [finish, if_neg hother] at hfull
    exact ⟨full, fun step hstep x hlost => listed x ⟨step, hstep, hlost⟩, hfull⟩

namespace Sample

/-- The poll of the published message, for the head of the response only. -/
def headMessages : Http.Request := { getMessages with method := "HEAD" }

theorem loses_greeting : stocked.Loses (service.receive getMessages stocked).1 greeting :=
  ⟨0, reader, by decide +kernel⟩

/-- The poll is over at once. -/
theorem getMessages_ends : ∃ response time,
    (service.receive getMessages stocked).2 = .ended response time := by
  have hstatus : (service.receive getMessages stocked).2.result?.map (·.1.status) = some 200 := by
    decide +kernel
  obtain ⟨response, time, hended, -⟩ := JobState.ended_of_result? hstatus
  exact ⟨response, time, hended⟩

end Sample

/-- The poll takes the published message, and its response lists it. -/
theorem taken_messages_listed_stocked :
    Sample.stocked.Loses (Sample.service.receive Sample.getMessages Sample.stocked).1
        Sample.greeting ∧
      ∃ response time, (Sample.service.receive Sample.getMessages Sample.stocked).2 =
          .ended response time ∧ "greeting" ∈ response.messageIds := by
  obtain ⟨response, time, hended⟩ := Sample.getMessages_ends
  have hcourse := Http.Server.Course.receive (r := Sample.getMessages) Sample.reachable_stocked
  rw [hended] at hcourse
  obtain ⟨full, hlisted, hsent⟩ := taken_messages_listed hcourse
  rw [if_neg (by decide)] at hsent
  have hgreeting := hlisted _ (List.mem_singleton_self _) Sample.greeting Sample.loses_greeting
  exact ⟨Sample.loses_greeting, response, time, hended, hsent ▸ hgreeting⟩

/-- A `HEAD` request for the messages of a consumer takes them and lists none. -/
theorem message_taken_by_head :
    ¬∀ (s : Http.Server) (r : Http.Request) (steps : List (World × World))
      (response : Http.Response) (time : Nat), s.Course r steps (.ended response time) →
      ∀ step ∈ steps, ∀ x, step.1.Loses step.2 x → x.id.text ∈ response.messageIds := by
  intro hclaim
  obtain ⟨full, time, hended⟩ := Sample.getMessages_ends
  -- the same world is left behind, but the response has lost its content
  have hhead : Sample.service.receive Sample.headMessages Sample.stocked =
      ((Sample.service.receive Sample.getMessages Sample.stocked).1,
        .ended full.withoutBody time) := by
    rw [Http.Server.receive_head Sample.service rfl Sample.stocked]
    exact Prod.ext rfl (congrArg Http.Server.bodiless hended)
  have hcourse := Http.Server.Course.receive (r := Sample.headMessages) Sample.reachable_stocked
  rw [hhead] at hcourse
  have hlisted := hclaim _ _ _ _ _ hcourse _ (List.mem_singleton_self _) Sample.greeting
    Sample.loses_greeting
  exact List.not_mem_nil hlisted

end LongPoll
