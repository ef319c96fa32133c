import SparkFleet.Proofs.Platform.Consistent

/-!
# What lasts on the platform

A job is never changed: it stays as it was created until it is deleted.  Of a run only the state
changes, unless another record is put in its place from outside.  `jobStep_apply` and
`runStep_apply` say what one event can do at an identifier; `job_lasts` and `run_lasts` follow for
every history in which the numbers still fit their type, since a number that has been given is then
not given again.
-/

namespace SparkFleet

/-- What a run's record says apart from the state. -/
def RunEntry.fixed (entry : RunEntry) : RunRecord := { entry.record with state := {} }

/-- The platform counts with a signed number of 64 bits, and all that it gives out are less. -/
def numberLimit : Nat := 9223372036854775808

namespace Platform

variable {p q : Platform}

/-! ### Numbers -/

/-- A number that has been given is less than the next one. -/
theorem Issued.lt_next {number : Int64} (hIssued : p.Issued number)
    (hLimit : p.nextNumber < numberLimit) : number < .ofNat p.nextNumber := by
  obtain ⟨n, hn, rfl⟩ := hIssued
  have hLt : n < p.nextNumber := Nat.lt_succ_of_le hn
  rw [Int64.lt_iff_toInt_lt, Int64.toInt_ofNat_of_lt (Nat.lt_trans hLt hLimit),
    Int64.toInt_ofNat_of_lt hLimit]
  exact Int.ofNat_lt.2 hLt

/-- A number that has been given is not the next one. -/
theorem Issued.ne_next {number : Int64} (hIssued : p.Issued number)
    (hLimit : p.nextNumber < numberLimit) : number ≠ .ofNat p.nextNumber :=
  Int64.ne_of_lt (hIssued.lt_next hLimit)

/-! ### One event -/

/-- The job of an identifier is left or deleted, or the identifier is the next one. -/
def JobStep (p q : Platform) (id : JobId) : Prop :=
  q.jobs.get? id = p.jobs.get? id ∨ q.jobs.get? id = none ∨
    (id = p.nextJobId ∧ q.lastNumber = p.nextNumber)

/-- The run of an identifier is left, apart from its state, or the identifier is the next one. -/
def RunStep (p q : Platform) (id : RunId) : Prop :=
  (q.runs.get? id).map RunEntry.fixed = (p.runs.get? id).map RunEntry.fixed ∨
    (id = p.nextRunId ∧ q.lastNumber = p.nextNumber)

theorem JobStep.of_eq (hJobs : q.jobs = p.jobs) (id : JobId) : JobStep p q id :=
  .inl (by rw [hJobs])

theorem RunStep.of_eq (hRuns : q.runs = p.runs) (id : RunId) : RunStep p q id :=
  .inl (by rw [hRuns])

theorem jobStep_perform {c : JobCall} {a : c.Answer} (h : p.performJobs c = .ok (a, q))
    (id : JobId) : JobStep p q id := by
  cases c with
  | create settings =>
    cases h
    -- A new job can only come under the next identifier.
    by_cases hId : id = p.nextJobId
    · exact .inr (.inr ⟨hId, rfl⟩)
    · refine .inl ((SortedMap.get?_insert ..).trans ?_)
      rw [if_neg hId]
  | get id =>
    obtain ⟨record, -, h⟩ := map_eq_ok h
    cases h
    exact .inl rfl
  | runNow request | getRun id | getRunOutput id =>
    obtain ⟨found, -, h⟩ := bind_eq_ok h
    cases h
    exact .inl rfl
  | delete deleted =>
    obtain ⟨found, -, h⟩ := bind_eq_ok h
    cases h
    by_cases hId : id = deleted
    · refine .inr (.inl ((SortedMap.get?_erase ..).trans ?_))
      rw [if_pos hId]
    · refine .inl ((SortedMap.get?_erase ..).trans ?_)
      rw [if_neg hId]

/-- The other families of calls leave jobs and runs alone. -/
theorem jobs_perform_other {c : Call} {a : c.Answer} (h : p.perform c = .ok (a, q))
    (hOther : ∀ call, c ≠ .jobs call) : q.jobs = p.jobs ∧ q.runs = p.runs := by
  cases c with
  | clusters call =>
    rw [(performClusters_frame h).1]
    exact ⟨rfl, rfl⟩
  | jobs call => exact absurd rfl (hOther call)
  | libraries call =>
    rw [performLibraries_frame h]
    exact ⟨rfl, rfl⟩
  | workspace call =>
    rw [(performWorkspace_frame h).1]
    exact ⟨rfl, rfl⟩
  | files call =>
    rw [(performFiles_frame h).1]
    exact ⟨rfl, rfl⟩

/-- The event is no call, and is not about jobs or runs. -/
def Event.sparesJobs : Event → Bool
  | .call _ | .putJob _ | .putRun _ | .setRunOutput _ _ | .finishRun _ _ => false
  | _ => true

/-- What is done from outside to other resources leaves jobs and runs alone. -/
theorem jobs_apply_other {e : Event} (hOther : e.sparesJobs = true) :
    (e.apply p).jobs = p.jobs ∧ (e.apply p).runs = p.runs := by
  cases e with
  | call | putJob | putRun | setRunOutput | finishRun => cases hOther
  | settleCluster cluster =>
    rw [Event.apply, settleCluster_frame]
    exact ⟨rfl, rfl⟩
  | failCluster cluster =>
    rw [Event.apply, failCluster_frame]
    exact ⟨rfl, rfl⟩
  | addFile path content =>
    rw [Event.apply, addFile, writeFile_frame]
    exact ⟨rfl, rfl⟩
  | settleReads | injectFailure | clearFailure | offerVersions | offerNodeTypes | offerZones
  | putCluster | addRunningCluster | setLibraryStatus | addNotebook => exact ⟨rfl, rfl⟩

/-- Reading a run changes at most its state. -/
theorem fixed_observeRun (entry : RunEntry) : (observeRun entry).fixed = entry.fixed := by
  unfold observeRun
  split
  · rfl
  · split <;> rfl

/-- What changes at most the state of a run leaves the rest of its record. -/
theorem map_fixed {f : RunEntry → RunEntry} (hFixed : ∀ entry, (f entry).fixed = entry.fixed)
    (run : Option RunEntry) : (run.map f).map RunEntry.fixed = run.map RunEntry.fixed := by
  rw [Option.map_map]
  exact congrArg (Option.map · run) (funext hFixed)

theorem runStep_perform {c : JobCall} {a : c.Answer} (h : p.performJobs c = .ok (a, q))
    (id : RunId) : RunStep p q id := by
  cases c with
  | create settings =>
    cases h
    exact .inl rfl
  | get id =>
    obtain ⟨record, -, h⟩ := map_eq_ok h
    cases h
    exact .inl rfl
  | runNow request =>
    obtain ⟨job, -, h⟩ := bind_eq_ok h
    cases h
    by_cases hId : id = p.nextRunId
    · exact .inr ⟨hId, rfl⟩
    · refine .inl (congrArg _ ((SortedMap.get?_insert ..).trans ?_))
      rw [if_neg hId]
  | getRun read =>
    obtain ⟨entry, hFind, h⟩ := bind_eq_ok h
    cases h
    -- The run that is read is written back, with at most another state.
    refine .inl ((congrArg _ (SortedMap.get?_insert ..)).trans ?_)
    split
    · next hId =>
      rw [hId, findRun_eq_ok_iff.1 hFind, Option.map_some, Option.map_some, fixed_observeRun]
    · rfl
  | getRunOutput id | delete id =>
    obtain ⟨found, -, h⟩ := bind_eq_ok h
    cases h
    exact .inl rfl

/-- What an event can do to the job of an identifier. -/
theorem jobStep_apply (e : Event) (id : JobId) : JobStep p (e.apply p) id := by
  cases e with
  | call c =>
    refine serve_induction (motive := (JobStep p · id)) (.inl rfl) fun a q h => ?_
    cases c with
    | jobs call => exact jobStep_perform (p := p.count (Call.jobs call).endpoint) h id
    | clusters | libraries | workspace | files =>
      exact .of_eq (jobs_perform_other h (by simp)).1 id
  | putJob settings => exact jobStep_perform (c := .create settings) rfl id
  | putRun | setRunOutput | finishRun => exact .of_eq rfl id
  | settleReads | injectFailure | clearFailure | offerVersions | offerNodeTypes | offerZones
  | putCluster | addRunningCluster | settleCluster | failCluster | setLibraryStatus | addNotebook
  | addFile => exact .of_eq (jobs_apply_other rfl).1 id

/-- What an event can do to the run of an identifier. -/
theorem runStep_apply (e : Event) (id : RunId) :
    RunStep p (e.apply p) id ∨ ∃ record, e = .putRun record ∧ record.runId = id := by
  -- The output of a run is no part of its record, and a result only changes its state.
  have hModify {changed : RunId} {f : RunEntry → RunEntry} (hFixed : ∀ r, (f r).fixed = r.fixed) :
      RunStep p { p with runs := p.runs.modify changed f } id := by
    refine .inl ((congrArg _ (SortedMap.get?_modify ..)).trans ?_)
    split
    · exact map_fixed hFixed _
    · rfl
  cases e with
  | call c =>
    refine .inl (serve_induction (motive := (RunStep p · id)) (.inl rfl) fun a q h => ?_)
    cases c with
    | jobs call => exact runStep_perform (p := p.count (Call.jobs call).endpoint) h id
    | clusters | libraries | workspace | files =>
      exact .of_eq (jobs_perform_other h (by simp)).2 id
  | putRun record =>
    by_cases hId : id = record.runId
    · exact .inr ⟨record, rfl, hId.symm⟩
    · refine .inl (.inl (congrArg _ ((SortedMap.get?_insert ..).trans ?_)))
      rw [if_neg hId]
  | setRunOutput changed output => exact .inl (hModify fun _ => rfl)
  | finishRun changed result => exact .inl (hModify fun _ => rfl)
  | putJob settings => exact .inl (runStep_perform (c := .create settings) rfl id)
  | settleReads | injectFailure | clearFailure | offerVersions | offerNodeTypes | offerZones
  | putCluster | addRunningCluster | settleCluster | failCluster | setLibraryStatus | addNotebook
  | addFile => exact .inl (.of_eq (jobs_apply_other rfl).2 id)

/-! ### Histories -/

/-- A job stays as it is until it is deleted. -/
theorem job_lasts {id : JobId} {record : JobRecord} (hIssued : p.Issued id.number)
    (hStored : p.jobs.get? id = some record ∨ p.jobs.get? id = none) (history : List Event)
    (hLimit : (p.after history).lastNumber < numberLimit) :
    (p.after history).jobs.get? id = some record ∨ (p.after history).jobs.get? id = none := by
  induction history generalizing p with
  | nil => exact hStored
  | cons e history ih =>
    refine ih (hIssued.mono (lastNumber_le_apply e)) ?_ hLimit
    obtain hSame | hGone | ⟨hId, hLast⟩ := jobStep_apply (p := p) e id
    · rwa [hSame]
    · exact .inr hGone
    · -- A number that has been given is not given again.
      have hNext : p.nextNumber < numberLimit :=
        hLast ▸ Nat.lt_of_le_of_lt (lastNumber_le_after history) hLimit
      exact absurd (congrArg JobId.number hId) (hIssued.ne_next hNext)

/-- A run stays as it is, apart from its state, unless a record is put in its place. -/
theorem run_lasts {id : RunId} (hIssued : p.Issued id.number) (history : List Event)
    (hPut : ∀ record, .putRun record ∈ history → record.runId ≠ id)
    (hLimit : (p.after history).lastNumber < numberLimit) :
    ((p.after history).runs.get? id).map RunEntry.fixed =
      (p.runs.get? id).map RunEntry.fixed := by
  induction history generalizing p with
  | nil => rfl
  | cons e history ih =>
    have hLater := ih (hIssued.mono (lastNumber_le_apply e))
      (fun record hMem => hPut record (List.mem_cons_of_mem _ hMem)) hLimit
    refine hLater.trans ?_
    obtain (hSame | ⟨hId, hLast⟩) | ⟨record, rfl, hId⟩ := runStep_apply (p := p) e id
    · exact hSame
    · have hNext : p.nextNumber < numberLimit :=
        hLast ▸ Nat.lt_of_le_of_lt (lastNumber_le_after history) hLimit
      exact absurd (congrArg RunId.number hId) (hIssued.ne_next hNext)
    · exact absurd hId (hPut record List.mem_cons_self)

end Platform

end SparkFleet
