import SparkFleet.Proofs.Calls
import SparkFleet.Proofs.Job.Creation
import SparkFleet.Proofs.Platform.Lasting

/-!
# Creations that fail

A creation prepares what is sent, asks the platform for the job, and reads the job back; one that is
not read back is deleted.  `create_of_unprepared`, `create_of_refused` and `create_of_created` say
what is called as far as each of these parts succeeds.  Every call keeps the jobs but one that
creates or deletes a job, and so does an action that makes no such call (`Platform.jobs_run`).
Deleting a new job leaves those that were there before it, since its number has not been given
before (`Platform.jobs_delete_created`).

The main statement `create_leaves_nothing` puts this together: whatever part of a creation fails,
the jobs are as they were, and the error is that of the part.
-/

namespace SparkFleet

open SparkFleet.Action

/-! ### Calls that leave the jobs -/

/-- A call that neither creates nor deletes a job. -/
def Call.keepsJobs : Call → Bool
  | .jobs (.create _) | .jobs (.delete _) => false
  | _ => true

/-- An action that neither creates nor deletes a job, whatever is answered. -/
def Action.KeepsJobs {α : Type} (act : Action α) : Prop := act.CallsOnly (·.keepsJobs = true)

theorem FileStore.send_keepsJobs (handle : Int64) (parts : List ByteArray) :
    (send handle parts).KeepsJobs := by
  induction parts with
  | nil => exact callsOnly_ask rfl
  | cons block rest ih =>
    refine .bind (callsOnly_tryAsk rfl) fun answer => ?_
    cases answer with
    | ok => exact ih
    | error e =>
      -- A refused block is followed by closing the handle, which is about files.
      exact .bind (callsOnly_tryAsk rfl) fun _ => callsOnly_throw _

theorem FileStore.putFile_keepsJobs (file path : String) (overwrite : Bool) :
    (putFile file path overwrite).KeepsJobs :=
  .bind (callsOnly_readLocal file) fun _ =>
    .bind (callsOnly_ask rfl) fun handle => send_keepsJobs handle _

theorem FileStore.checkScript_keepsJobs (uri : String) : (checkScript uri).KeepsJobs := by
  unfold checkScript
  split
  · trivial
  · refine .bind (callsOnly_tryAsk rfl) fun answer => ?_
    cases answer with
    | error e => trivial
    | ok record =>
      dsimp only
      split <;> trivial

theorem Task.check_keepsJobs {k : TaskKind} (task : Task k) : task.check.KeepsJobs := by
  cases task with
  | python script parameters => exact FileStore.checkScript_keepsJobs script
  | notebook | jar | sparkSubmit => trivial

theorem Notebook.get_keepsJobs (path : String) : (Notebook.get path).KeepsJobs := by
  refine CallsOnly.within ?_ .workspace
  refine .bind (callsOnly_tryAsk rfl) fun answer => ?_
  cases answer <;> trivial

namespace Shape

variable (shape : Shape) (f : Family)

theorem need_keepsJobs {β : Type} (field : String) (value : Option β) :
    (need f field value).KeepsJobs := by
  cases value <;> trivial

theorem compute_keepsJobs (m : Mode) : (shape.compute f m).KeepsJobs := by
  cases m with
  | interactive =>
    refine .bind (need_keepsJobs ..) fun id => .bind ?_ fun _ => callsOnly_pure _
    refine CallsOnly.within ?_ .cluster
    exact .bind (callsOnly_ask rfl) fun _ => callsOnly_pure _
  | automated => exact .bind (need_keepsJobs ..) fun _ => callsOnly_pure _

theorem task_keepsJobs (k : TaskKind) : (shape.task f k).KeepsJobs := by
  cases k with
  | notebook =>
    refine .bind (need_keepsJobs ..) fun _ => .bind (need_keepsJobs ..) fun path => ?_
    exact .bind (Notebook.get_keepsJobs path) fun _ => callsOnly_pure _
  | jar =>
    exact .bind (need_keepsJobs ..) fun _ => .bind (need_keepsJobs ..) fun _ => callsOnly_pure _
  | python =>
    refine .bind (need_keepsJobs ..) fun _ => .bind (need_keepsJobs ..) fun script => ?_
    exact .bind (FileStore.checkScript_keepsJobs script) fun _ => callsOnly_pure _
  | sparkSubmit =>
    exact .bind (need_keepsJobs ..) fun _ => .bind (need_keepsJobs ..) fun _ => callsOnly_pure _

end Shape

theorem Job.get_keepsJobs (id : JobId) : (Job.get id).KeepsJobs := by
  refine CallsOnly.within ?_ .job
  refine .bind (callsOnly_ask rfl) fun record => ?_
  refine .bind (callsOnly_ofExcept _) fun v => ?_
  cases v
  all_goals
    exact .bind (Shape.compute_keepsJobs ..) fun _ => .bind (Shape.task_keepsJobs ..) fun _ =>
      callsOnly_pure _

namespace Platform

theorem jobs_serve {c : Call} (hKeeps : c.keepsJobs = true) (p : Platform) :
    (p.serve c).2.jobs = p.jobs := by
  refine serve_induction (motive := fun q => q.jobs = p.jobs) rfl fun a q hPerform => ?_
  cases c with
  | jobs call =>
    cases call with
    | create | delete => cases hKeeps
    | get id =>
      obtain ⟨record, -, h⟩ := map_eq_ok hPerform
      cases h
      rfl
    | runNow | getRun | getRunOutput =>
      -- Runs are kept apart from the jobs that they are of.
      obtain ⟨found, -, h⟩ := bind_eq_ok hPerform
      cases h
      rfl
  | clusters | libraries | workspace | files =>
    exact (jobs_perform_other hPerform fun _ hCall => nomatch hCall).1

theorem jobs_run {α : Type} {program : Program α} (hKeeps : program.CallsOnly (·.keepsJobs = true))
    (s : Simulation Platform) : (program.run handler s).2.state.jobs = s.state.jobs :=
  hKeeps.run_induction (motive := fun q => q.jobs = s.state.jobs)
    (fun _ q hCall hSame => (jobs_serve hCall q).trans hSame) rfl

variable {α : Type} {act : Action α} {s t : Simulation Platform} {result : Except Error α}

theorem jobs_exec (hKeeps : act.KeepsJobs) (hExec : exec handler act s = (result, t)) :
    t.state.jobs = s.state.jobs :=
  (congrArg (fun answer => answer.2.state.jobs) hExec).symm.trans (jobs_run hKeeps s)

theorem failure?_exec (hExec : exec handler act s = (result, t)) (endpoint : String) :
    t.state.failure? endpoint = s.state.failure? endpoint := by
  have hFailures : t.state.failures = s.state.failures :=
    (congrArg (fun answer => answer.2.state.failures) hExec).symm.trans (failures_run act.run s)
  rw [failure?, hFailures, failure?]

theorem lastNumber_le_exec (hExec : exec handler act s = (result, t)) :
    s.state.lastNumber ≤ t.state.lastNumber := by
  have hState := Action.state_exec act s
  rw [hExec] at hState
  rw [hState]
  exact lastNumber_le_after _

end Platform

/-! ### Steps -/

namespace JobDraft

variable {v : Variant}

/-- What a creation does before it creates the job. -/
def prepare (d : JobDraft v) : Action JobSettings := do
  let settings ← .ofExcept d.buildSettings
  d.sendUpload
  d.task.check
  return settings

theorem create_eq (d : JobDraft v) :
    d.create = .within .job (d.prepare >>= fun settings =>
      .ask (.jobs (.create settings)) >>= fun id => readBack v id) := by
  simp only [create, prepare, bind_assoc, pure_bind]

theorem sendUpload_keepsJobs (d : JobDraft v) : d.sendUpload.KeepsJobs := by
  unfold sendUpload
  split
  · trivial
  · split
    · trivial
    · dsimp only
      split
      · trivial
      · exact FileStore.putFile_keepsJobs _ _ _

theorem prepare_keepsJobs (d : JobDraft v) : d.prepare.KeepsJobs :=
  .bind (callsOnly_ofExcept _) fun _ => .bind d.sendUpload_keepsJobs fun _ =>
    .bind d.task.check_keepsJobs fun _ => callsOnly_pure _

/-- A new job as it is read back: it must be of the kind that was asked for. -/
def lookUp (v : Variant) (id : JobId) : Action (JobOf v) :=
  Job.get id >>= fun job => .ofExcept (job.expect v)

theorem lookUp_keepsJobs (v : Variant) (id : JobId) : (lookUp v id).KeepsJobs :=
  .bind (Job.get_keepsJobs id) fun _ => callsOnly_ofExcept _

section

variable {σ : Type} (h : Program.Handler σ) {d : JobDraft v} {s t u : σ}

/-- A job that is not read back is deleted, and the error stays. -/
theorem readBack_of_error {id : JobId} {e : Error}
    (hRead : exec h (lookUp v id) s = (.error e, t)) :
    exec h (readBack v id) s = (.error e, (h.answer (.jobs (.delete id)) t).2) ∧
      Program.exchanges h (readBack v id).run s =
        Program.exchanges h (lookUp v id).run s ++
          [⟨.jobs (.delete id), (h.answer (.jobs (.delete id)) t).1⟩] := by
  have hAttempt : exec h (attempt (lookUp v id)) s = (.ok (.error e), t) := by
    rw [exec_attempt, hRead]
  constructor
  · change exec h (attempt (lookUp v id) >>= _) s = _
    rw [exec_bind, hAttempt]
    rfl
  · change Program.exchanges h (attempt (lookUp v id) >>= _).run s = _
    rw [Action.exchanges_bind, hAttempt, exchanges_attempt]
    rfl

theorem readBack_of_ok {id : JobId} {job : JobOf v}
    (hRead : exec h (lookUp v id) s = (.ok job, t)) :
    exec h (readBack v id) s = (.ok job, t) := by
  have hAttempt : exec h (attempt (lookUp v id)) s = (.ok (.ok job), t) := by
    rw [exec_attempt, hRead]
  change exec h (attempt (lookUp v id) >>= _) s = _
  rw [exec_bind, hAttempt]
  rfl

/-- A creation whose preparation fails makes no other call. -/
theorem create_of_unprepared {e : Error} (hPrepare : exec h d.prepare s = (.error e, t)) :
    exec h d.create s = (.error (e.within .job), t) ∧
      Program.exchanges h d.create.run s = Program.exchanges h d.prepare.run s := by
  rw [create_eq, exec_within, exchanges_within, exec_bind, Action.exchanges_bind, hPrepare]
  exact ⟨rfl, List.append_nil _⟩

/-- A creation that is prepared goes on with the call that creates the job. -/
theorem create_of_prepared {settings : JobSettings}
    (hPrepare : exec h d.prepare s = (.ok settings, t)) :
    exec h d.create s = exec h (within .job (ask (.jobs (.create settings)) >>= readBack v)) t ∧
      Program.exchanges h d.create.run s =
        Program.exchanges h d.prepare.run s ++
          Program.exchanges h (ask (.jobs (.create settings)) >>= readBack v).run t := by
  rw [create_eq, exec_within, exec_within, exchanges_within, exec_bind, Action.exchanges_bind,
    hPrepare]
  exact ⟨rfl, rfl⟩

/-- A creation that the platform refuses makes no other call. -/
theorem create_of_refused {settings : JobSettings} {cause : ApiError}
    (hPrepare : exec h d.prepare s = (.ok settings, t))
    (hCreate : h.answer (.jobs (.create settings)) t = (.error cause, u)) :
    exec h d.create s = (.error ((Error.transport cause).within .job), u) ∧
      Program.exchanges h d.create.run s =
        Program.exchanges h d.prepare.run s ++ [⟨.jobs (.create settings), .error cause⟩] := by
  obtain ⟨hExec, hExchanges⟩ := create_of_prepared h hPrepare
  obtain ⟨hExecAsk, hAsked⟩ := ask_bind_of_error hCreate (readBack v)
  rw [hExec, hExchanges, exec_within, hExecAsk, hAsked]
  exact ⟨rfl, rfl⟩

/-- A job that has been created is read back. -/
theorem create_of_created {settings : JobSettings} {id : JobId}
    (hPrepare : exec h d.prepare s = (.ok settings, t))
    (hCreate : h.answer (.jobs (.create settings)) t = (.ok id, u)) :
    exec h d.create s = exec h (within .job (readBack v id)) u ∧
      Program.exchanges h d.create.run s =
        Program.exchanges h d.prepare.run s ++
          ⟨.jobs (.create settings), .ok id⟩ :: Program.exchanges h (readBack v id).run u := by
  obtain ⟨hExec, hExchanges⟩ := create_of_prepared h hPrepare
  obtain ⟨hExecAsk, hAsked⟩ := ask_bind_of_ok hCreate (readBack v)
  rw [hExec, hExchanges, exec_within, exec_within, hExecAsk, hAsked]
  exact ⟨rfl, rfl⟩

end

/-! ### What a failed creation leaves -/

/-- The first part of a creation that fails, and its error. -/
inductive FailsWith (d : JobDraft v) (s : Simulation Platform) : Error → Prop where
  | settings {e : Error} (hSettings : d.buildSettings = .error e) : FailsWith d s e
  | upload {settings : JobSettings} {e : Error} {t : Simulation Platform}
      (hSettings : d.buildSettings = .ok settings)
      (hUpload : exec Platform.handler d.sendUpload s = (.error e, t)) : FailsWith d s e
  | check {settings : JobSettings} {e : Error} {t u : Simulation Platform}
      (hSettings : d.buildSettings = .ok settings)
      (hUpload : exec Platform.handler d.sendUpload s = (.ok (), t))
      (hCheck : exec Platform.handler d.task.check t = (.error e, u)) : FailsWith d s e
  /-- The platform does not create the job. -/
  | create {settings : JobSettings} {t : Simulation Platform} {cause : ApiError} {q : Platform}
      (hPrepare : exec Platform.handler d.prepare s = (.ok settings, t))
      (hCreate : t.state.serve (.jobs (.create settings)) = (.error cause, q)) :
      FailsWith d s (.transport cause)
  /-- The new job is not read back as one of the kind that was asked for. -/
  | readBack {settings : JobSettings} {t u : Simulation Platform} {id : JobId} {q : Platform}
      {e : Error} (hPrepare : exec Platform.handler d.prepare s = (.ok settings, t))
      (hCreate : t.state.serve (.jobs (.create settings)) = (.ok id, q))
      (hRead : exec Platform.handler (lookUp v id) { t with state := q } = (.error e, u)) :
      FailsWith d s e

/-- What a creation that fails with an error leaves. -/
structure LeavesNothing (d : JobDraft v) (s t : Simulation Platform) (e : Error) : Prop where
  jobs : t.state.jobs = s.state.jobs
  /-- The platform is asked to create a job at most once. -/
  created_once : (Program.calls Platform.handler d.create.run s).countP
    (·.endpoint == "jobs/create") ≤ 1
  /-- A job is deleted exactly if it is the one that has been created. -/
  deleted_iff : ∀ id, .jobs (.delete id) ∈ Program.calls Platform.handler d.create.run s ↔
    ∃ settings, ⟨.jobs (.create settings), .ok id⟩ ∈
      Program.exchanges Platform.handler d.create.run s
  /-- The error is that of the part that failed, and not one of deleting the job. -/
  cause : ∃ cause, d.FailsWith s cause ∧ e = cause.within .job
  family : e.family = some .job

end JobDraft

namespace Platform

/-- Deleting a job that has just been created leaves the jobs that were there before. -/
theorem jobs_delete_created {p q u : Platform} (hConsistent : p.Consistent)
    {settings : JobSettings} {id : JobId}
    (hCreate : p.serve (.jobs (.create settings)) = (.ok id, q))
    (hLimit : q.lastNumber < numberLimit) (hJobs : u.jobs = q.jobs)
    (hDelete : u.failure? "jobs/delete" = none) :
    (u.serve (.jobs (.delete id))).2.jobs = p.jobs := by
  have hCreated : Except.ok ((p.count "jobs/create").createJob settings) = .ok (id, q) :=
    serve_eq_ok hCreate
  cases hCreated
  -- Every job that is kept has a number that has been given before, so the new one is another.
  have hNew : p.jobs.get? p.nextJobId = none := by
    cases hGet : p.jobs.get? p.nextJobId with
    | none => rfl
    | some record => exact absurd rfl ((hConsistent.jobs hGet).2.ne_next hLimit)
  obtain ⟨record, hInsert⟩ : ∃ record, u.jobs = p.jobs.insert p.nextJobId record := ⟨_, hJobs⟩
  have hFind : (u.count "jobs/delete").findJob p.nextJobId = .ok record := by
    refine findJob_eq_ok_iff.2 ?_
    change u.jobs.get? p.nextJobId = some record
    rw [hInsert, SortedMap.get?_insert, if_pos rfl]
  have hPerform : (u.count "jobs/delete").perform (.jobs (.delete p.nextJobId)) =
      .ok ((), { u.count "jobs/delete" with jobs := u.jobs.erase p.nextJobId }) := by
    simp only [perform, performJobs, deleteJob, hFind]
    rfl
  have hServe := serve_of_ok (c := .jobs (.delete p.nextJobId)) hDelete hPerform
  -- Taking out what has been put under a new number leaves what was there before.
  have hErase : u.jobs.erase p.nextJobId = p.jobs := by
    rw [hInsert, SortedMap.erase_insert _ hNew]
  exact (congrArg (fun answer => answer.2.jobs) hServe).trans hErase

end Platform

namespace JobDraft

variable {v : Variant} {d : JobDraft v} {s t : Simulation Platform}

theorem endpoint_of_keepsJobs {c : Call} (hKeeps : c.keepsJobs = true) :
    (c.endpoint == "jobs/create") = false := by
  cases c with
  | jobs call =>
    cases call with
    | create | delete => cases hKeeps
    | get | runNow | getRun | getRunOutput => rfl
  | clusters call | libraries call | workspace call | files call => cases call <;> rfl

section

variable {quiet : List Exchange} (hQuiet : ∀ x ∈ quiet, x.call.keepsJobs = true)
include hQuiet

theorem created_not_mem (settings : JobSettings) (answer : Except ApiError JobId) :
    ⟨.jobs (.create settings), answer⟩ ∉ quiet := fun hMem => nomatch hQuiet _ hMem

theorem deleted_not_mem (id : JobId) : .jobs (.delete id) ∉ quiet.map Exchange.call := by
  intro hMem
  obtain ⟨x, hx, hCall⟩ := List.mem_map.1 hMem
  have hKeeps := hQuiet x hx
  rw [hCall] at hKeeps
  cases hKeeps

theorem countP_create : (quiet.map Exchange.call).countP (·.endpoint == "jobs/create") = 0 := by
  refine List.countP_eq_zero.2 fun c hMem => ?_
  obtain ⟨x, hx, rfl⟩ := List.mem_map.1 hMem
  rw [endpoint_of_keepsJobs (hQuiet x hx)]
  exact Bool.false_ne_true

end

/-- The calls of an action that keeps the jobs. -/
theorem quiet_of_keepsJobs {α : Type} {act : Action α} (hKeeps : act.KeepsJobs)
    (s : Simulation Platform) :
    ∀ x ∈ Program.exchanges Platform.handler act.run s, x.call.keepsJobs = true :=
  fun _ hMem => Program.CallsOnly.of_mem hKeeps hMem

variable {e : Error}

/-- One of the three parts of a preparation that fails is the first that does. -/
theorem failsWith_of_unprepared (hPrepare : exec Platform.handler d.prepare s = (.error e, t)) :
    d.FailsWith s e := by
  rw [prepare, exec_bind] at hPrepare
  -- The parts are looked at in their order, each only where those before it have succeeded.
  cases hSettings : d.buildSettings with
  | error e' =>
    rw [hSettings] at hPrepare
    cases hPrepare
    exact .settings hSettings
  | ok settings =>
    rw [hSettings] at hPrepare
    change exec Platform.handler (d.sendUpload >>= _) s = _ at hPrepare
    rw [exec_bind] at hPrepare
    rcases hUpload : exec Platform.handler d.sendUpload s with ⟨e' | u, t₁⟩
    · rw [hUpload] at hPrepare
      cases hPrepare
      exact .upload hSettings hUpload
    · rw [hUpload] at hPrepare
      change exec Platform.handler (d.task.check >>= _) t₁ = _ at hPrepare
      rw [exec_bind] at hPrepare
      rcases hCheck : exec Platform.handler d.task.check t₁ with ⟨e' | u', t₂⟩
      · rw [hCheck] at hPrepare
        cases hPrepare
        exact .check hSettings hUpload hCheck
      · rw [hCheck] at hPrepare
        cases hPrepare

theorem leavesNothing_of_unprepared (hPrepare : exec Platform.handler d.prepare s = (.error e, t)) :
    d.LeavesNothing s t (e.within .job) := by
  obtain ⟨-, hExchanges⟩ := create_of_unprepared _ hPrepare
  have hQuiet := quiet_of_keepsJobs d.prepare_keepsJobs s
  refine ⟨Platform.jobs_exec d.prepare_keepsJobs hPrepare, ?_, fun id => ?_,
    ⟨e, failsWith_of_unprepared hPrepare, rfl⟩, Error.family_within ..⟩
  · rw [← Program.map_call_exchanges, hExchanges, countP_create hQuiet]
    exact Nat.zero_le 1
  · rw [← Program.map_call_exchanges, hExchanges]
    exact iff_of_false (deleted_not_mem hQuiet id) fun ⟨settings, hMem⟩ =>
      created_not_mem hQuiet settings _ hMem

theorem leavesNothing_of_refused {settings : JobSettings} {cause : ApiError} {q : Platform}
    (hPrepare : exec Platform.handler d.prepare s = (.ok settings, t))
    (hCreate : t.state.serve (.jobs (.create settings)) = (.error cause, q)) :
    d.LeavesNothing s { t with state := q } ((Error.transport cause).within .job) := by
  obtain ⟨-, hExchanges⟩ := create_of_refused _ hPrepare (Platform.answer_handler hCreate)
  have hQuiet := quiet_of_keepsJobs d.prepare_keepsJobs s
  have hCalls := Program.map_call_exchanges Platform.handler d.create.run s
  rw [hExchanges, List.map_append] at hCalls
  refine ⟨?_, ?_, fun id => ?_, ⟨_, .create hPrepare hCreate, rfl⟩, Error.family_within ..⟩
  · have hJobs := Platform.jobs_exec d.prepare_keepsJobs hPrepare
    obtain rfl := (Platform.serve_eq_error hCreate).1
    exact hJobs
  · rw [← hCalls, List.countP_append, countP_create hQuiet]
    exact Nat.le_refl 1
  · rw [← hCalls, hExchanges]
    refine iff_of_false ?_ ?_
    · simp [deleted_not_mem hQuiet id]
    · simp [created_not_mem hQuiet]

theorem leavesNothing_of_unread (hReach : s.state.Reachable)
    (hDelete : s.state.failure? "jobs/delete" = none) {settings : JobSettings} {id : JobId}
    {q : Platform} {u : Simulation Platform}
    (hPrepare : exec Platform.handler d.prepare s = (.ok settings, t))
    (hCreate : t.state.serve (.jobs (.create settings)) = (.ok id, q))
    (hLimit : q.lastNumber < numberLimit)
    (hRead : exec Platform.handler (lookUp v id) { t with state := q } = (.error e, u)) :
    d.LeavesNothing s (Platform.handler.answer (.jobs (.delete id)) u).2 (e.within .job) := by
  obtain ⟨-, hExchanges⟩ := create_of_created _ hPrepare (Platform.answer_handler hCreate)
  have hQuiet := quiet_of_keepsJobs d.prepare_keepsJobs s
  have hQuietRead := quiet_of_keepsJobs (lookUp_keepsJobs v id) { t with state := q }
  have hCalls := Program.map_call_exchanges Platform.handler d.create.run s
  rw [(readBack_of_error _ hRead).2] at hExchanges
  rw [hExchanges, List.map_append, List.map_cons, List.map_append] at hCalls
  refine ⟨?_, ?_, fun id' => ?_, ⟨e, .readBack hPrepare hCreate hRead, rfl⟩,
    Error.family_within ..⟩
  · -- The job is there while it is read, and is taken out again by the deletion.
    have hReachThen := hReach.exec d.prepare
    rw [hPrepare] at hReachThen
    -- Deleting is as little refused after the other calls as it was before them.
    have hDeleteThen : u.state.failure? "jobs/delete" = none := by
      have hFailures := Platform.failures_serve t.state (.jobs (.create settings))
      rw [hCreate] at hFailures
      rw [Platform.failure?_exec hRead, Platform.failure?, hFailures]
      exact (Platform.failure?_exec hPrepare _).trans hDelete
    have hJobsThen := Platform.jobs_exec (lookUp_keepsJobs v id) hRead
    exact (Platform.jobs_delete_created hReachThen.consistent hCreate hLimit hJobsThen
      hDeleteThen).trans (Platform.jobs_exec d.prepare_keepsJobs hPrepare)
  · rw [← hCalls, List.countP_append, List.countP_cons, List.countP_append, countP_create hQuiet,
      countP_create hQuietRead]
    exact Nat.le_refl 1
  · rw [← hCalls, hExchanges]
    simp [deleted_not_mem hQuiet, deleted_not_mem hQuietRead, created_not_mem hQuiet,
      created_not_mem hQuietRead]

/-- Nothing is called for a draft that is refused. -/
theorem create_of_invalid {σ : Type} (h : Program.Handler σ) (s : σ)
    (hSettings : d.buildSettings = .error e) :
    Program.calls h d.create.run s = [] ∧ exec h d.create s = (.error (e.within .job), s) := by
  have hRun : d.create.run = .done (.error (e.within .job)) := by
    unfold create
    rw [hSettings]
    rfl
  unfold exec
  rw [hRun]
  exact ⟨rfl, rfl⟩

end JobDraft

open JobDraft in
/-- Whatever is to be created on a platform that can be reached, and whatever failures are injected
but for the deletion of jobs: a creation that fails, while numbers still fit their type, leaves the
jobs as they were.  It asks for one job at most and deletes it if it has been created, and its error
is that of the part that failed.  Nothing is called for a draft that is refused. -/
theorem create_leaves_nothing {v : Variant} (d : JobDraft v) {s : Simulation Platform}
    (hReach : s.state.Reachable) (hDelete : s.state.failure? "jobs/delete" = none) :
    (∀ e, d.buildSettings = .error e →
        Program.calls Platform.handler d.create.run s = [] ∧
          exec Platform.handler d.create s = (.error (e.within .job), s)) ∧
      ∀ e t, exec Platform.handler d.create s = (.error e, t) → t.state.lastNumber < numberLimit →
        d.LeavesNothing s t e := by
  refine ⟨fun e hSettings => create_of_invalid _ s hSettings, fun e t hFails hLimit => ?_⟩
  rcases hPrepare : exec Platform.handler d.prepare s with ⟨cause | settings, t₁⟩
  · cases hFails.symm.trans (create_of_unprepared _ hPrepare).1
    exact leavesNothing_of_unprepared hPrepare
  · rcases hCreate : t₁.state.serve (.jobs (.create settings)) with ⟨cause | id, q⟩
    · have hRefused := create_of_refused _ hPrepare (Platform.answer_handler hCreate)
      cases hFails.symm.trans hRefused.1
      exact leavesNothing_of_refused hPrepare hCreate
    · have hCreated := create_of_created _ hPrepare (Platform.answer_handler hCreate)
      have hExec := hCreated.1.symm.trans hFails
      -- Numbers only grow, so they fit their type when the job is created if they do at the end.
      have hLimitThen : q.lastNumber < numberLimit :=
        Nat.lt_of_le_of_lt (Platform.lastNumber_le_exec hExec) hLimit
      rw [exec_within] at hExec
      rcases hRead : exec Platform.handler (lookUp v id) { t₁ with state := q } with
        ⟨cause | job, u⟩
      · rw [(readBack_of_error _ hRead).1] at hExec
        cases hExec
        exact leavesNothing_of_unread hReach hDelete hPrepare hCreate hLimitThen hRead
      · rw [readBack_of_ok _ hRead] at hExec
        cases hExec

/-! ### A job that is not read back -/

/-- A platform with one job, where jobs are created but not read. -/
def unreadable : Simulation Platform where
  state := ({} : Platform).after [.putJob {}, .injectFailure "jobs/get" 500]

/-- A job that submits an application. -/
def submitDraft : JobDraft .automatedSparkSubmit where
  task := .sparkSubmit ["app.jar"]
  compute := some (.fresh { numWorkers := some 2 })

theorem create_leaves_nothing_unreadable :
    ∃ e t, (unreadable.state.Reachable ∧ unreadable.state.failure? "jobs/delete" = none ∧
        exec Platform.handler submitDraft.create unreadable = (.error e, t) ∧
        t.state.lastNumber < numberLimit) ∧
      submitDraft.LeavesNothing unreadable t e ∧
      ∃ settings, Program.calls Platform.handler submitDraft.create.run unreadable =
        [.jobs (.create settings), .jobs (.get ⟨2⟩), .jobs (.delete ⟨2⟩)] := by
  have hReach : unreadable.state.Reachable := ⟨_, rfl⟩
  have hDelete : unreadable.state.failure? "jobs/delete" = none := by decide
  obtain ⟨e, t, hFails, hLast⟩ : ∃ e t,
      exec Platform.handler submitDraft.create unreadable = (.error e, t) ∧
        t.state.lastNumber = 2 := ⟨_, _, rfl, rfl⟩
  have hLimit : t.state.lastNumber < numberLimit := by rw [hLast]; decide
  exact ⟨e, t, ⟨hReach, hDelete, hFails, hLimit⟩,
    (create_leaves_nothing submitDraft hReach hDelete).2 e t hFails hLimit, _, rfl⟩

end SparkFleet
