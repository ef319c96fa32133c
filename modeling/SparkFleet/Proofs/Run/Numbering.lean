import SparkFleet.Proofs.Platform.Identifiers
import SparkFleet.Proofs.Run.Step

/-!
# The numbers of a job's runs

The number of a new run is not kept anywhere: the platform counts the runs of the job.  That is the
number of those started before only because no run is ever lost, replaced or attributed to another
job.

`RunsStep` says what an event can do to the runs: it starts one, which comes after all others
(`numberedRuns_step`), or it leaves what their records say apart from the state.  Over a history the
runs of each job therefore stay in sequence, and to those that were kept of it come those that are
started (`RunsNumbered.after`).

The main statement is `runs_numbered_without_gaps`, for every job that was ever created.
-/

namespace SparkFleet.Platform

variable {p q : Platform} {id : JobId} {e : Event}

/-- The runs that are kept of a job, in the order of their identifiers, each with its number. -/
def numberedRuns (p : Platform) (id : JobId) : List StartedRun :=
  (p.runs.entries.filter fun entry => entry.2.record.jobId = id).map fun entry =>
    ⟨entry.1, entry.2.record.numberInJob⟩

/-- The run of a job that an event starts, as it is answered. -/
def Event.starts (id : JobId) (p : Platform) : Event → List StartedRun
  | .call (.jobs (.runNow request)) =>
    match (p.serve (.jobs (.runNow request))).1 with
    | .ok started => if request.jobId = id then [started] else []
    | .error _ => []
  | _ => []

/-- The numbers of runs are one, two and so on. -/
def CountUp (runs : List StartedRun) : Prop :=
  runs.map (fun run => run.numberInJob.map Int64.toInt) =
    (List.range' 1 runs.length).map fun n : Nat => some (n : Int)

/-- Runs are numbered from one and without gaps in the order of their identifiers. -/
structure InSequence (runs : List StartedRun) : Prop where
  numbers : CountUp runs
  increasing : runs.Pairwise fun a b => a.runId.number < b.runId.number

/-! ### One event -/

/-- The runs with what their records say apart from the state. -/
def fixedRuns (p : Platform) : SortedMap RunId RunRecord := p.runs.mapValues fun _ => RunEntry.fixed

/-- What an event that leads from one platform to another can do to the runs. -/
inductive RunsStep (p q : Platform) (e : Event) : Prop where
  | kept (hStarts : ∀ id, e.starts id p = []) (hRuns : q.fixedRuns = p.fixedRuns)
  /-- A run is started of a job that is there. -/
  | started (job : JobId) (record : RunRecord) (hThere : p.jobs.contains job = true)
    (hJob : record.jobId = job)
    (hNumber : record.numberInJob = some (.ofNat ((p.runsOf job).length + 1)))
    (hStarts : ∀ id, e.starts id p =
      if job = id then [⟨p.nextRunId, record.numberInJob⟩] else [])
    (hRuns : q.fixedRuns = p.fixedRuns.insert p.nextRunId record)
    (hLast : q.lastNumber = p.nextNumber)

/-- An event that starts no run and puts none in place changes at most the states of runs. -/
theorem fixed_onRun (hStarts : ∀ id, e.starts id p = []) (hPut : ∀ record, e ≠ .putRun record)
    (r : RunId) (run : Option RunEntry) :
    (e.onRun r p run).map RunEntry.fixed = run.map RunEntry.fixed := by
  cases e with
  | call c =>
    cases c with
    | jobs call =>
      cases call with
      | runNow request =>
        have hNone := hStarts request.jobId
        cases hServe : (p.serve (.jobs (.runNow request))).1 with
        | ok started => simp [Event.starts, hServe] at hNone
        | error cause => simp only [Event.onRun, hServe]
      | getRun other =>
        -- A read brings a run nearer to its end, which shows in its state alone.
        simp only [Event.onRun]
        split
        · exact map_fixed fixed_observeRun run
        · rfl
      | create | get | getRunOutput | delete => rfl
    | clusters | libraries | workspace | files => rfl
  | putRun record => exact absurd rfl (hPut record)
  | setRunOutput | finishRun =>
    simp only [Event.onRun]
    split
    · refine map_fixed (fun _ => ?_) run
      rfl
    · rfl
  | settleReads | injectFailure | clearFailure | offerVersions | offerNodeTypes | offerZones
  | putCluster | addRunningCluster | settleCluster | failCluster | putJob | setLibraryStatus
  | addNotebook | addFile => rfl

/-- A run that is started has the next identifier and the next number in its job. -/
theorem runsStep_runNow {request : RunRequest} {started : StartedRun}
    (hServe : p.serve (.jobs (.runNow request)) = (.ok started, q)) :
    RunsStep p q (.call (.jobs (.runNow request))) := by
  obtain ⟨job, hFind, h⟩ := bind_eq_ok (serve_eq_ok hServe)
  have hThere := SortedMap.contains_of_get?_eq_some (findJob_eq_ok_iff.1 hFind)
  cases h
  refine .started request.jobId _ hThere rfl rfl (fun id => ?_)
    (SortedMap.mapValues_insert (fun _ => RunEntry.fixed) p.runs p.nextRunId
      ⟨newRun job p.nextRunId ((p.runsOf request.jobId).length + 1) request, {}, p.settleReads⟩) rfl
  simp only [Event.starts, hServe]
  rfl

/-- What every event can do to the runs, unless a run is put in place from outside. -/
theorem runsStep_apply (hPut : ∀ record, e ≠ .putRun record) : RunsStep p (e.apply p) e := by
  by_cases hStarts : ∀ id, e.starts id p = []
  · refine .kept hStarts (SortedMap.ext_get? fun r => ?_)
    rw [fixedRuns, fixedRuns, SortedMap.get?_mapValues, SortedMap.get?_mapValues, run_apply,
      fixed_onRun hStarts hPut]
  · -- Only a call that is answered with a run starts one.
    obtain ⟨id, hStarts⟩ := not_forall.1 hStarts
    unfold Event.starts at hStarts
    split at hStarts
    · next request =>
      split at hStarts
      · next started hAnswer => exact runsStep_runNow (Prod.ext hAnswer rfl)
      · exact absurd rfl hStarts
    · exact absurd rfl hStarts

/-! ### The runs of one job -/

theorem numberedRuns_eq (p : Platform) (id : JobId) :
    p.numberedRuns id =
      (p.fixedRuns.entries.filter fun entry => entry.2.jobId = id).map fun entry =>
        ⟨entry.1, entry.2.numberInJob⟩ := by
  simp only [numberedRuns, fixedRuns, SortedMap.mapValues, List.filter_map, List.map_map]
  rfl

theorem length_numberedRuns (p : Platform) (id : JobId) :
    (p.numberedRuns id).length = (p.runsOf id).length := by
  rw [numberedRuns, runsOf, SortedMap.values, List.filter_map, List.length_map, List.length_map]
  rfl

/-- The runs that are kept of a job are listed in the order of their identifiers. -/
theorem increasing_numberedRuns (p : Platform) (id : JobId) :
    (p.numberedRuns id).Pairwise fun a b => a.runId.number < b.runId.number :=
  List.pairwise_map.2 ((p.runs.sorted.filter _).imp compareOfLessAndEq_eq_lt.1)

/-- Every run has been given its number, and so has the job that it is a run of. -/
def RunsIssued (p : Platform) : Prop :=
  p.fixedRuns.All fun r record => p.Issued r.number ∧ p.Issued record.jobId.number

/-- A run that is started comes after all that are kept. -/
theorem numberedRuns_step (hStep : RunsStep p q e) (hIssued : p.RunsIssued)
    (hLimit : q.lastNumber < numberLimit) (id : JobId) :
    q.numberedRuns id = p.numberedRuns id ++ e.starts id p := by
  rw [numberedRuns_eq, numberedRuns_eq]
  cases hStep with
  | kept hStarts hRuns => rw [hStarts, hRuns, List.append_nil]
  | started job record hThere hJob hNumber hStarts hRuns hLast =>
    have hEntries : q.fixedRuns.entries = p.fixedRuns.entries ++ [(p.nextRunId, record)] := by
      rw [hRuns]
      -- The new identifier is larger than all others, so the entry is placed last.
      refine SortedMap.place_eq_append fun entry hMem => compareOfLessAndEq_eq_lt.2 ?_
      exact (hIssued ((p.fixedRuns.get?_eq_some_iff).2 hMem)).1.lt_next (hLast ▸ hLimit)
    rw [hEntries, hStarts, List.filter_append, List.map_append, List.filter_singleton, hJob]
    by_cases hId : job = id <;> simp [hId]

/-- An event starts no run of a job, or one with the number after those that are kept. -/
theorem RunsStep.starts_cases (hStep : RunsStep p q e) (id : JobId) :
    e.starts id p = [] ∨ q.lastNumber = p.nextNumber ∧ ∃ run, e.starts id p = [run] ∧
      run.numberInJob = some (.ofNat ((p.numberedRuns id).length + 1)) := by
  cases hStep with
  | kept hStarts hRuns => exact .inl (hStarts id)
  | started job record hThere hJob hNumber hStarts hRuns hLast =>
    rw [hStarts]
    split
    · next hId =>
      -- The number comes from counting the runs that are kept, which is where a lost run would
      -- show.
      refine .inr ⟨hLast, _, rfl, ?_⟩
      rw [length_numberedRuns, ← hId]
      exact hNumber
    · exact .inl rfl

/-- Runs stay issued, as a run is started only of a job that is there. -/
theorem RunsIssued.step (hIssued : p.RunsIssued) (hStep : RunsStep p q e)
    (hJobs : p.jobs.All p.JobKept) (hLe : p.lastNumber ≤ q.lastNumber) : q.RunsIssued := by
  have hOld : p.fixedRuns.All fun r record => q.Issued r.number ∧ q.Issued record.jobId.number :=
    fun r record hGet => ⟨(hIssued hGet).1.mono hLe, (hIssued hGet).2.mono hLe⟩
  cases hStep with
  | kept hStarts hRuns =>
    rw [RunsIssued, hRuns]
    exact hOld
  | started job record hThere hJob hNumber hStarts hRuns hLast =>
    rw [RunsIssued, hRuns]
    obtain ⟨stored, hStored⟩ := SortedMap.contains_iff_exists.1 hThere
    exact hOld.insert ⟨issued_nextNumber hLast, hJob ▸ (hJobs hStored).2.mono hLe⟩

/-! ### Histories -/

/-- The runs of each job are in sequence, and no more than the numbers that have been given. -/
structure RunsNumbered (p : Platform) : Prop where
  issued : p.RunsIssued
  counted : ∀ id, (p.numberedRuns id).length ≤ p.lastNumber
  inSequence : ∀ id, InSequence (p.numberedRuns id)

theorem runsNumbered_empty : RunsNumbered {} :=
  ⟨.empty, fun _ => Nat.le_refl 0, fun _ => ⟨rfl, .nil⟩⟩

/-- A run with the next number comes after the others. -/
theorem CountUp.concat {runs : List StartedRun} {run : StartedRun} (hNumbers : CountUp runs)
    (hRun : run.numberInJob = some (.ofNat (runs.length + 1)))
    (hLimit : runs.length + 1 < numberLimit) : CountUp (runs ++ [run]) := by
  have hInt : (Int64.ofNat (runs.length + 1)).toInt = (1 + runs.length : Nat) := by
    rw [Int64.toInt_ofNat_of_lt hLimit, Nat.add_comm]
  rw [CountUp] at hNumbers ⊢
  rw [List.length_append, List.length_singleton, List.range'_1_concat, List.map_append,
    List.map_append, hNumbers, List.map_singleton, List.map_singleton, hRun, Option.map_some, hInt]

theorem RunsNumbered.apply (hNumbered : p.RunsNumbered) (hConsistent : p.Consistent)
    (hPut : ∀ record, e ≠ .putRun record) (hLimit : (e.apply p).lastNumber < numberLimit) :
    (e.apply p).RunsNumbered := by
  have hStep := runsStep_apply (p := p) hPut
  have hLe := lastNumber_le_apply (p := p) e
  have hRuns := numberedRuns_step hStep hNumbered.issued hLimit
  refine ⟨hNumbered.issued.step hStep hConsistent.jobs hLe, fun id => ?_,
    fun id => ⟨?_, increasing_numberedRuns _ id⟩⟩
  · have hCounted := hNumbered.counted id
    rw [hRuns, List.length_append]
    obtain hNone | ⟨hLast, run, hRun, -⟩ := hStep.starts_cases id
    · rw [hNone]
      exact Nat.le_trans hCounted hLe
    · rw [hRun, hLast]
      exact Nat.succ_le_succ hCounted
  · have hCounted := hNumbered.counted id
    have hNumbers := (hNumbered.inSequence id).numbers
    rw [hRuns]
    obtain hNone | ⟨hLast, run, hRun, hNumber⟩ := hStep.starts_cases id
    · rwa [hNone, List.append_nil]
    · -- There are no more runs than numbers given out, so the number of the run fits its type too.
      have hNext : p.nextNumber < numberLimit := hLast ▸ hLimit
      rw [hRun]
      exact hNumbers.concat hNumber (Nat.lt_of_le_of_lt (Nat.succ_le_succ hCounted) hNext)

/-- The runs of a job stay in sequence, and those that are kept after a history are those that were
kept before it and those that are started in it. -/
theorem RunsNumbered.after {history : List Event} (hNumbered : p.RunsNumbered)
    (hConsistent : p.Consistent) (hPut : ∀ record, .putRun record ∉ history)
    (hLimit : (p.after history).lastNumber < numberLimit) :
    (p.after history).RunsNumbered ∧ ∀ id, (p.after history).numberedRuns id =
      p.numberedRuns id ++ gathered (Event.starts id) p history := by
  induction history generalizing p with
  | nil => exact ⟨hNumbered, fun id => (List.append_nil _).symm⟩
  | cons e history ih =>
    have hPutHere : ∀ record, e ≠ .putRun record := fun record hEvent =>
      hPut record (hEvent ▸ List.mem_cons_self)
    have hLimitHere : (e.apply p).lastNumber < numberLimit :=
      Nat.lt_of_le_of_lt (lastNumber_le_after history) hLimit
    -- The induction is from the front, so that what is started comes before what the rest starts.
    obtain ⟨hAfter, hRuns⟩ := ih (hNumbered.apply hConsistent hPutHere hLimitHere)
      (hConsistent.apply e) (fun record hMem => hPut record (List.mem_cons_of_mem _ hMem)) hLimit
    refine ⟨hAfter, fun id => (hRuns id).trans ?_⟩
    rw [numberedRuns_step (runsStep_apply hPutHere) hNumbered.issued hLimitHere, gathered,
      List.append_assoc]

/-! ### The runs of a job that is created -/

/-- No record is put in place by an event that gives something out. -/
theorem putsRecord_of_given {x : Identifier} (hGiven : x ∈ e.given p) : e.putsRecord = false := by
  cases e with
  | putCluster | putRun => cases hGiven
  | _ => rfl

/-- There is no run of a job that is being created. -/
theorem numberedRuns_of_created (hIssued : p.RunsIssued) (hCreated : .job id ∈ e.given p)
    (hLimit : (e.apply p).lastNumber < numberLimit) : (e.apply p).numberedRuns id = [] := by
  have hGives := gives_apply (p := p) (putsRecord_of_given hCreated)
  generalize e.given p = given at hGives hCreated
  cases hGives with
  | job record hAfter =>
    have hId : id = p.nextJobId := Identifier.job.inj (List.mem_singleton.1 hCreated)
    have hRuns : (e.apply p).fixedRuns = p.fixedRuns := by rw [fixedRuns, hAfter]; rfl
    have hNext : p.nextNumber < numberLimit := by rwa [hAfter] at hLimit
    rw [numberedRuns_eq, hRuns, List.map_eq_nil_iff, List.filter_eq_nil_iff]
    intro entry hMem hJob
    -- The job of a run has been given its number, and this one is only given now.
    refine (hIssued ((p.fixedRuns.get?_eq_some_iff).2 hMem)).2.ne_next hNext ?_
    rw [of_decide_eq_true hJob, hId, nextJobId]
  | nothing => cases hCreated
  | cluster | run | notebook | upload => cases List.mem_singleton.1 hCreated

/-- The runs that are kept of a job that was created are those that were started of it since, and
they are numbered from one and without gaps, as long as no run is put in place from outside and the
numbers that the platform gives out fit their type. -/
theorem runs_numbered_without_gaps {first rest : List Event}
    (hPut : ∀ record, .putRun record ∉ first ++ e :: rest)
    (hCreated : .job id ∈ e.given (({} : Platform).after first))
    (hLimit : (({} : Platform).after (first ++ e :: rest)).lastNumber < numberLimit) :
    let kept := (({} : Platform).after (first ++ e :: rest)).numberedRuns id
    kept = gathered (Event.starts id) (({} : Platform).after (first ++ [e])) rest ∧
      InSequence kept := by
  have hStart : ({} : Platform).Reachable := ⟨[], rfl⟩
  have hReach := hStart.after first
  intro kept
  simp only [kept, after_append, after_cons, after_nil] at hLimit ⊢
  have hLimitHere := Nat.lt_of_le_of_lt (lastNumber_le_after rest) hLimit
  have hFirst := (runsNumbered_empty.after hStart.consistent
    (fun record hMem => hPut record (List.mem_append_left _ hMem))
    (Nat.lt_of_le_of_lt (lastNumber_le_apply e) hLimitHere)).1
  have hHere := hFirst.apply hReach.consistent
    (fun record hEvent => hPut record (by simp [hEvent])) hLimitHere
  -- The job begins without runs, so all that are kept have been started since.
  have hNew := numberedRuns_of_created hFirst.issued hCreated hLimitHere
  obtain ⟨hRest, hRuns⟩ := hHere.after (hReach.consistent.apply e)
    (fun record hMem => hPut record (by simp [hMem])) hLimit
  exact ⟨by rw [hRuns, hNew, List.nil_append], hRest.inSequence id⟩

/-- Two jobs that are run by turns.  The first one is deleted after two runs. -/
def runByTurns : List Event := [
  .call (.jobs (.runNow { jobId := ⟨1⟩ })),
  .putJob {},
  .call (.jobs (.runNow { jobId := ⟨3⟩ })),
  .call (.jobs (.runNow { jobId := ⟨1⟩ })),
  .finishRun ⟨2⟩ .success,
  .call (.jobs (.delete ⟨1⟩)),
  .call (.jobs (.runNow { jobId := ⟨1⟩ })),
  .call (.jobs (.runNow { jobId := ⟨3⟩ })),
  .call (.jobs (.getRun ⟨5⟩))]

/-- The job that has been deleted keeps its two runs, which are its first and its second one. -/
theorem runs_numbered_without_gaps_byTurns :
    (∀ record, Event.putRun record ∉ .putJob {} :: runByTurns) ∧
      .job ⟨1⟩ ∈ (Event.putJob {}).given {} ∧
      (({} : Platform).after (.putJob {} :: runByTurns)).lastNumber < numberLimit ∧
      (({} : Platform).after (.putJob {} :: runByTurns)).numberedRuns ⟨1⟩ =
        [⟨⟨2⟩, some 1⟩, ⟨⟨5⟩, some 2⟩] ∧
      InSequence [⟨⟨2⟩, some 1⟩, ⟨⟨5⟩, some 2⟩] := by
  have hPut (record : RunRecord) : Event.putRun record ∉ .putJob {} :: runByTurns := by
    simp [runByTurns]
  have hCreated : .job ⟨1⟩ ∈ (Event.putJob {}).given {} := List.mem_cons_self
  have hLimit : (({} : Platform).after (.putJob {} :: runByTurns)).lastNumber < numberLimit := by
    decide
  have hStarted : gathered (Event.starts ⟨1⟩) (({} : Platform).after [.putJob {}]) runByTurns =
      [⟨⟨2⟩, some 1⟩, ⟨⟨5⟩, some 2⟩] := by
    decide
  obtain ⟨hKept, hInSequence⟩ := @runs_numbered_without_gaps _ _ [] _ hPut hCreated hLimit
  have hRuns := hKept.trans hStarted
  exact ⟨hPut, hCreated, hLimit, hRuns, hRuns ▸ hInSequence⟩

end SparkFleet.Platform
