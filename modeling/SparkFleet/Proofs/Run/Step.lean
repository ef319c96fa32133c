import SparkFleet.Proofs.Platform.Lasting
import SparkFleet.Proofs.Run.Started

/-!
# What one event does to a run

A run is there once it has been started or put in place.  Reads bring it nearer to its end, and from
outside it is ended or given an output.  `Event.onRun` says what each event makes of the run of an
identifier, and the main statement `run_apply` that it does just that.  What holds of runs in every
state is derived from this equation, without looking at the calls again.
-/

namespace SparkFleet.Platform

variable {p q : Platform} {id : RunId}

/-- What an event makes of the run of an identifier.  Calls count only if they are accepted. -/
def Event.onRun (id : RunId) (p : Platform) : Event → Option RunEntry → Option RunEntry
  | .call (.jobs (.runNow request)), run =>
    match (p.serve (.jobs (.runNow request))).1, p.jobs.get? request.jobId with
    | .ok started, some job =>
      if started.runId = id then
        some ⟨newRun job id ((p.runsOf request.jobId).length + 1) request, {}, p.settleReads⟩
      else
        run
    | _, _ => run
  | .call (.jobs (.getRun other)), run =>
    if other = id ∧ (p.serve (.jobs (.getRun other))).1.isOk then run.map observeRun else run
  | .putRun record, run =>
    if record.runId = id then some ⟨record, {}, p.settleReads⟩ else run
  | .setRunOutput other output, run =>
    if other = id then run.map fun entry => { entry with output := output } else run
  | .finishRun other result, run => if other = id then run.map (ended result) else run
  | _, run => run

/-- What a call about jobs that is answered makes of a run. -/
theorem run_performJobs {c : JobCall} {a : c.Answer} (hServe : p.serve (.jobs c) = (.ok a, q)) :
    q.runs.get? id = (Event.call (.jobs c)).onRun id p (p.runs.get? id) := by
  have hPerform := serve_eq_ok hServe
  cases c with
  | runNow request =>
    -- Only two calls touch runs: this one puts a run in place, a read brings it nearer to its end.
    obtain ⟨job, hFind, h⟩ := bind_eq_ok hPerform
    have hJob : p.jobs.get? request.jobId = some job := findJob_eq_ok_iff.1 hFind
    cases h
    simp only [Event.onRun, hServe, hJob]
    refine (SortedMap.get?_insert ..).trans ?_
    split
    · next hId =>
      subst hId
      exact (if_pos rfl).symm
    · next hId => exact (if_neg (Ne.symm hId)).symm
  | getRun other =>
    obtain ⟨entry, hFind, h⟩ := bind_eq_ok hPerform
    have hEntry : p.runs.get? other = some entry := findRun_eq_ok_iff.1 hFind
    have hAnswered : (p.serve (.jobs (.getRun other))).1.isOk = true := by
      rw [hServe]
      rfl
    cases h
    simp only [Event.onRun, hAnswered, and_true]
    refine (SortedMap.get?_insert ..).trans ?_
    split
    · next hId =>
      subst hId
      rw [if_pos rfl, hEntry]
      rfl
    · next hId => exact (if_neg (Ne.symm hId)).symm
  | create settings =>
    cases hPerform
    rfl
  | get job =>
    obtain ⟨record, -, h⟩ := map_eq_ok hPerform
    cases h
    rfl
  | delete | getRunOutput =>
    obtain ⟨found, -, h⟩ := bind_eq_ok hPerform
    cases h
    rfl

/-- A call that is refused leaves the runs as they are. -/
theorem onRun_refused {c : Call} (hRefused : (p.serve c).1.isOk = false) (run : Option RunEntry) :
    (Event.call c).onRun id p run = run := by
  cases c with
  | jobs call =>
    cases call with
    | runNow request =>
      cases hServe : (p.serve (.jobs (.runNow request))).1 with
      | ok started => cases hServe ▸ hRefused
      | error cause => simp only [Event.onRun, hServe]
    | getRun other => simp [Event.onRun, hRefused]
    | create | get | getRunOutput | delete => rfl
  | clusters | libraries | workspace | files => rfl

/-- The output or the end of a run that is set from outside. -/
theorem run_modify (other : RunId) (f : RunEntry → RunEntry) :
    ({ p with runs := p.runs.modify other f } : Platform).runs.get? id =
      if other = id then (p.runs.get? id).map f else p.runs.get? id := by
  refine (SortedMap.get?_modify ..).trans ?_
  simp only [eq_comm (a := id)]

/-- Each event makes of the run of an identifier what is said of it. -/
theorem run_apply (e : Event) (id : RunId) :
    (e.apply p).runs.get? id = e.onRun id p (p.runs.get? id) := by
  cases e with
  | call c =>
    obtain ⟨a, q, hServe, hPerform⟩ | ⟨cause, hServe, -⟩ := p.serve_cases c
    · simp only [Event.apply, hServe]
      cases c with
      | jobs call => exact run_performJobs hServe
      | clusters | libraries | workspace | files =>
        rw [(jobs_perform_other hPerform (by simp)).2]
        rfl
    · -- A refused call is counted, and nothing else happens.
      have hRefused : (p.serve c).1.isOk = false := by
        rw [hServe]
        rfl
      rw [onRun_refused hRefused, Event.apply, hServe]
      rfl
  | putRun record =>
    refine (SortedMap.get?_insert ..).trans ?_
    simp only [Event.onRun, eq_comm (a := id)]
  | setRunOutput other output => exact run_modify other _
  | finishRun other result => exact run_modify other _
  | putJob => rfl
  | settleReads | injectFailure | clearFailure | offerVersions | offerNodeTypes | offerZones
  | putCluster | addRunningCluster | settleCluster | failCluster | setLibraryStatus | addNotebook
  | addFile =>
    rw [(jobs_apply_other rfl).2]
    rfl

end SparkFleet.Platform
