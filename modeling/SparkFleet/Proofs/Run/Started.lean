import SparkFleet.Proofs.Platform.Lasting
import SparkFleet.Proofs.Run.Parameters

/-!
# Starting and reading one run

Starting a run changes no job, and the platform then keeps a record of the run that has the job's
target and its task with the run's own parameters (`runWith_spec`).  A run whose record is kept is
read as the record says (`run_get_spec`).
-/

namespace SparkFleet

open SparkFleet.Action (Ends exec)

variable {v : Variant}

/-- What starting a run of a job does. -/
structure JobOf.Started (j : JobOf v) (params : v.kind.Overrides) (r : RunOf v)
    (p q : Platform) : Prop where
  jobs : q.jobs = p.jobs
  compute : r.compute = j.compute
  /-- The run has the job's task with its own parameters. -/
  task : r.task = j.task.withOverrides params
  /-- The number of the run has been given out. -/
  issued : q.Issued r.id.number
  /-- The platform keeps the record that the handle shows. -/
  kept : ∃ entry, q.runs.get? r.id = some entry ∧ entry.record = r.record
  /-- The record has the target of the stored job, and its task with these parameters. -/
  record : ∃ job, p.jobs.get? j.id = some job ∧ r.record.clusterSpec = .ofSettings job.settings ∧
    r.record.task = .ofRequest job.settings (.ofOverrides j.id v.kind params)

namespace Platform

variable {p q : Platform}

/-- A run is started of a job that is kept, under the next number. -/
theorem startRun_eq_ok {request : RunRequest} {started : StartedRun}
    (h : p.startRun request = .ok (started, q)) :
    ∃ job number, p.jobs.get? request.jobId = some job ∧ started.runId = p.nextRunId ∧
      q = { p.withNextNumber with
        runs := p.runs.insert p.nextRunId
          ⟨newRun job p.nextRunId number request, {}, p.settleReads⟩ } := by
  obtain ⟨job, hFind, h⟩ := bind_eq_ok h
  cases h
  exact ⟨job, _, findJob_eq_ok_iff.1 hFind, rfl, rfl⟩

/-- A run is read from what is kept, and kept as it is read. -/
theorem readRun_eq_ok {id : RunId} {record : RunRecord} (h : p.readRun id = .ok (record, q)) :
    ∃ entry, p.runs.get? id = some entry ∧ record = (observeRun entry).record ∧
      q = { p with runs := p.runs.insert id (observeRun entry) } := by
  obtain ⟨entry, hFind, h⟩ := bind_eq_ok h
  cases h
  exact ⟨entry, findRun_eq_ok_iff.1 hFind, rfl, rfl⟩

end Platform

theorem RunRequest.jobId_ofOverrides (id : JobId) (k : TaskKind) (params : k.Overrides) :
    (RunRequest.ofOverrides id k params).jobId = id := by
  cases k <;> rfl

/-- What a run's record describes does not depend on the state. -/
theorem shape_eq_of_fixed {a b : RunEntry} (h : a.fixed = b.fixed) :
    a.record.shape = b.record.shape := by
  have hShape : a.fixed.shape = b.fixed.shape := congrArg RunRecord.shape h
  exact hShape

theorem shape_observeRun (entry : RunEntry) :
    (Platform.observeRun entry).record.shape = entry.record.shape :=
  shape_eq_of_fixed (Platform.fixed_observeRun entry)

theorem runWith_spec (j : JobOf v) (params : v.kind.Overrides) (s : Simulation Platform) :
    Ends Platform.handler (j.runWith params) s
      (fun r t => j.Started params r s.state t.state) fun _ t => t.state.jobs = s.state.jobs := by
  refine (Action.ends_within .job).2 ((Action.ends_bind _).2 (Platform.ends_ask ?_ ?_))
  · intro started p hServe
    have hStart : (s.state.count "jobs/run-now").startRun _ = .ok (started, p) :=
      Platform.serve_eq_ok hServe
    obtain ⟨job, number, hJob, hId, rfl⟩ := Platform.startRun_eq_ok hStart
    rw [RunRequest.jobId_ofOverrides] at hJob
    refine (Action.ends_bind _).2 (Platform.ends_ask ?_ ?_)
    · intro record q hServe'
      obtain ⟨entry, hEntry, rfl, rfl⟩ := Platform.readRun_eq_ok (Platform.serve_eq_ok hServe')
      -- The run that is read is the one that has just been put there.
      rw [hId] at hEntry ⊢
      obtain rfl := Option.some.inj (hEntry.symm.trans
        ((SortedMap.get?_insert ..).trans (if_pos rfl)))
      let new : RunEntry := ⟨Platform.newRun job s.state.nextRunId number
        (.ofOverrides j.id v.kind params), {}, s.state.settleReads⟩
      have hNew : Platform.RunKept s.state.nextRunId new := rfl
      have hRunId : (Platform.observeRun new).record.runId = s.state.nextRunId :=
        Platform.runKept_observe hNew
      have hFixed := Platform.fixed_observeRun new
      refine ⟨rfl, rfl, rfl, ?_, ⟨Platform.observeRun new, ?_, rfl⟩, job, hJob,
        congrArg RunRecord.clusterSpec hFixed, congrArg RunRecord.task hFixed⟩
      · change Platform.Issued _ (Platform.observeRun new).record.runId.number
        rw [hRunId]
        exact Platform.issued_nextNumber rfl
      · change SortedMap.get? _ (Platform.observeRun new).record.runId = _
        rw [hRunId]
        exact (SortedMap.get?_insert ..).trans (if_pos rfl)
    · intro e q hServe'
      rw [(Platform.serve_eq_error hServe').1]
      rfl
  · intro e p hServe
    rw [(Platform.serve_eq_error hServe).1]
    rfl

/-- Where a run is kept whose record describes a run, and what it refers to is in place, the run is
read as its record says. -/
theorem run_get_spec {u : Simulation Platform} (hConsistent : u.state.Consistent)
    (hServing : u.state.Serving) {id : RunId} {entry : RunEntry}
    (hEntry : u.state.runs.get? id = some entry) (hSupported : entry.record.shape.Supported)
    (hPlace : entry.record.shape.InPlace u.state) :
    Ends Platform.handler (Run.get id) u
      (fun r _ => entry.record.shape.Fits u.state r.variant r.details.compute r.details.task)
      fun _ _ => False := by
  refine (Action.ends_within .run).2 ((Action.ends_bind _).2 (Platform.ends_ask ?_ ?_))
  · intro record q hServe
    obtain ⟨entry', hEntry', rfl, hState⟩ := Platform.readRun_eq_ok (Platform.serve_eq_ok hServe)
    obtain rfl := Option.some.inj (hEntry.symm.trans hEntry')
    have hClusters : q.clusters = u.state.clusters := by rw [hState]; rfl
    have hObjects : q.objects = u.state.objects := by rw [hState]; rfl
    have hNotebook (path : String) : q.notebook? path = u.state.notebook? path := by
      rw [Platform.notebook?, hObjects, Platform.notebook?]
    have hPlace' : entry.record.shape.InPlace q := by
      rw [hState]
      exact ⟨hPlace.cluster, hPlace.notebook, hPlace.script⟩
    have hServing' : q.Serving := by
      rw [hState]
      exact hServing
    have hResolve := Run.resolve_resolves (σ := { u with state := q })
      (hClusters ▸ hConsistent.clusters) (hObjects ▸ hConsistent.objects)
      (Platform.observeRun entry).record
    rw [shape_observeRun] at hResolve
    refine Action.Ends.mono hResolve ?_ ?_
    · rintro r t ⟨-, ⟨-, hFits⟩, -⟩
      exact hFits.congr hNotebook
    · rintro e t ⟨hReady, -⟩
      exact hReady hServing' ⟨hSupported, hPlace'⟩
  · intro e q hServe
    -- A run that is kept is found, so only an injected failure could refuse it.
    have hRead := (Platform.serve_eq_error hServe).2 hServing
    have hFind : (u.state.count "jobs/runs/get").findRun id = .ok entry :=
      Platform.findRun_eq_ok_iff.2 hEntry
    have hReadRun : (u.state.count "jobs/runs/get").readRun id = .error e := hRead
    rw [Platform.readRun, hFind] at hReadRun
    cases hReadRun

end SparkFleet
