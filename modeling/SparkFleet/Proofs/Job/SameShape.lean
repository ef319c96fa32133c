import SparkFleet.Job.Handle
import SparkFleet.Platform.Jobs
import SparkFleet.Proofs.Calls

/-!
# Jobs and runs of the same shape

A job record and a run record that describe the same are resolved alike.  The two resolutions are
written out kind by kind, each over its own layout of the fields; the main statement
`run_resolves_like_job` says that against every handler they make the same calls, leave the same
state, and end with the same kind, target and task or with the same error.  Only the family that the
error names, itself or in its outermost wrapper, is that of jobs for one and that of runs for the
other.
-/

namespace SparkFleet

/-- The error with another family in place of the one that it names itself or, where it wraps an
error, in its wrapper. -/
def Error.inFamily (f : Family) : Error → Error
  | .config _ message => .config f message
  | .wrapped _ message source => .wrapped f message source
  | .missingField _ field => .missingField f field
  | .unsupportedType _ detail => .unsupportedType f detail
  | e => e

/-- A job and a run of the same kind, with the same target and task, each with its record. -/
inductive SameParts (job : JobRecord) (run : RunRecord) : Job → Run → Prop where
  /-- The kind, the target and the task are shared. -/
  | intro (v : Variant) (compute : Compute v.mode) (task : Task v.kind) :
      SameParts job run ⟨v, job, compute, task⟩ ⟨v, run, compute, task⟩

/-- The same error, once in the family of jobs and once in that of runs. -/
inductive SameCause : Error → Error → Prop where
  /-- The second error is the first in the other family. -/
  | intro (e : Error) (hFamily : e.family = some .job) : SameCause e (e.inFamily .run)

/-! ### Errors -/

/-- Two errors that differ at most in that one names the family of jobs and the other that of
runs. -/
inductive SameFailure : Error → Error → Prop where
  | named (e : Error) (hFamily : e.family = some .job) : SameFailure e (e.inFamily .run)
  | foreign (e : Error) (hJob : e.family ≠ some .job) (hRun : e.family ≠ some .run) :
      SameFailure e e

theorem Error.family_inFamily {e : Error} (f : Family) (hFamily : e.family = some .job) :
    (e.inFamily f).family = some f := by
  cases e <;> first | rfl | cases hFamily

/-- Where the two errors leave their operations, they are wrapped alike. -/
theorem SameFailure.within {e e' : Error} (h : SameFailure e e') :
    SameCause (e.within .job) (e'.within .run) := by
  have hWithin : e'.within .run = (e.within .job).inFamily .run := by
    cases h with
    | named hFamily => simp [Error.within, hFamily, Error.family_inFamily]
    | foreign hJob hRun =>
      -- An error of neither family is wrapped in both, and only the wrapper names the family.
      simp [Error.within, hJob, hRun, Error.inFamily]
  rw [hWithin]
  exact .intro _ (Error.family_within .job e)

/-! ### The parts of a job or run -/

namespace Shape

open SparkFleet.Action (Agree)

variable (s : Shape)

theorem mode_matched : Matched Eq SameFailure (s.mode .job) (s.mode .run) := by
  unfold mode
  split
  · exact .ok rfl
  · exact .ok rfl
  · exact .error (.named _ rfl)
  · exact .error (.named _ rfl)

theorem kind_matched : Matched Eq SameFailure (s.kind .job) (s.kind .run) := by
  unfold kind
  split
  · exact .ok rfl
  · exact .error (.named _ rfl)
  · exact .error (.named _ rfl)

theorem variant_matched : Matched Eq SameFailure (s.variant .job) (s.variant .run) := by
  refine .bind s.mode_matched ?_
  rintro mode _ rfl
  refine .bind s.kind_matched ?_
  rintro kind _ rfl
  -- Mode and kind are the same on both sides by now, so they fit together on both or on neither.
  cases Variant.of? mode kind with
  | none => exact .error (.named _ rfl)
  | some v => exact .ok rfl

theorem need_agree {β : Type} (field : String) (value : Option β) :
    Agree Eq SameFailure (need .job field value) (need .run field value) := by
  cases value with
  | none => exact .throw (.named _ rfl)
  | some value => exact .pure rfl

theorem compute_agree (m : Mode) : Agree Eq SameFailure (s.compute .job m) (s.compute .run m) := by
  cases m with
  | interactive =>
    refine .bind (need_agree _ _) ?_
    rintro id _ rfl
    refine .bind (.within_self _ fun e hFamily => ?_) ?_
    · -- What fails here is the look-up of a cluster, which names neither family.
      exact .foreign e (by simp [hFamily]) (by simp [hFamily])
    · rintro cluster _ rfl
      exact .pure rfl
  | automated =>
    refine .bind (need_agree _ _) ?_
    rintro spec _ rfl
    exact .pure rfl

/-- A script is checked alike: what is wrong with it is of no family. -/
theorem checkScript_agree (uri : String) :
    Agree Eq SameFailure (FileStore.checkScript uri) (FileStore.checkScript uri) := by
  unfold FileStore.checkScript
  cases FileStore.stripScheme? uri with
  | none => exact .pure rfl
  | some path =>
    refine .bind (.tryAsk _) ?_
    rintro answer _ rfl
    cases answer with
    | error cause => exact .throw (.foreign _ (by simp [Error.family]) (by simp [Error.family]))
    | ok record =>
      by_cases hDir : record.isDir
      · simp only [hDir, if_true]
        exact .throw (.foreign _ (by simp [Error.family]) (by simp [Error.family]))
      · simp only [hDir]
        exact .pure rfl

theorem task_agree (k : TaskKind) : Agree Eq SameFailure (s.task .job k) (s.task .run k) := by
  cases k with
  | notebook =>
    refine .bind (need_agree _ _) ?_
    rintro settings _ rfl
    refine .bind (need_agree _ _) ?_
    rintro path _ rfl
    refine .bind (.within_self _ fun e hFamily => ?_) ?_
    · exact .foreign e (by simp [hFamily]) (by simp [hFamily])
    · rintro notebook _ rfl
      exact .pure rfl
  | jar =>
    refine .bind (need_agree _ _) ?_
    rintro settings _ rfl
    refine .bind (need_agree _ _) ?_
    rintro mainClass _ rfl
    exact .pure rfl
  | python =>
    refine .bind (need_agree _ _) ?_
    rintro settings _ rfl
    refine .bind (need_agree _ _) ?_
    rintro script _ rfl
    refine .bind (checkScript_agree script) ?_
    rintro _ _ rfl
    exact .pure rfl
  | sparkSubmit =>
    refine .bind (need_agree _ _) ?_
    rintro settings _ rfl
    refine .bind (need_agree _ _) ?_
    rintro parameters _ rfl
    exact .pure rfl

end Shape

/-! ### Jobs and runs -/

open SparkFleet.Action (Agree exec)

/-- What one arm of the two resolutions does: the target is resolved, and then the task. -/
theorem parts_agree (s : Shape) (job : JobRecord) (run : RunRecord) (v : Variant) :
    Agree (SameParts job run) SameFailure
      (do
        let compute ← s.compute .job v.mode
        let task ← s.task .job v.kind
        return ⟨v, job, compute, task⟩)
      (do
        let compute ← s.compute .run v.mode
        let task ← s.task .run v.kind
        return ⟨v, run, compute, task⟩) := by
  refine .bind (s.compute_agree v.mode) ?_
  rintro compute _ rfl
  refine .bind (s.task_agree v.kind) ?_
  rintro task _ rfl
  exact .pure (.intro v compute task)

/-- The two resolutions agree kind by kind. -/
theorem resolve_agree {job : JobRecord} {run : RunRecord}
    (hShape : run.shape = job.settings.shape) :
    Agree (SameParts job run) SameFailure (Job.resolve job) (Run.resolve run) := by
  unfold Job.resolve Run.resolve
  rw [hShape]
  refine .bind (.ofExcept job.settings.shape.variant_matched) ?_
  rintro v _ rfl
  -- Every arm of the two resolutions is this one, at its own kind.
  have hParts := parts_agree job.settings.shape job run v
  cases v <;> exact hParts

/-- Where a job record and a run record that describe the same are read, against any handler, the
job and the run are resolved alike. -/
theorem run_resolves_like_job {σ : Type} (h : Program.Handler σ) (jobId : JobId) (runId : RunId)
    {job : JobRecord} {run : RunRecord} {s₁ s₂ t : σ} (hShape : run.shape = job.settings.shape)
    (hJob : h.answer (.jobs (.get jobId)) s₁ = (.ok job, t))
    (hRun : h.answer (.jobs (.getRun runId)) s₂ = (.ok run, t)) :
    Matched (SameParts job run) SameCause (exec h (Job.get jobId) s₁).1
        (exec h (Run.get runId) s₂).1 ∧
      (exec h (Run.get runId) s₂).2 = (exec h (Job.get jobId) s₁).2 ∧
      ∃ reads, Program.calls h (Job.get jobId).run s₁ = .jobs (.get jobId) :: reads ∧
        Program.calls h (Run.get runId).run s₂ = .jobs (.getRun runId) :: reads := by
  have hAgree : Agree (SameParts job run) SameCause (.within .job (Job.resolve job))
      (.within .run (Run.resolve run)) :=
    (resolve_agree hShape).within fun _ _ => SameFailure.within
  obtain ⟨hExecJob, hCallsJob⟩ := exec_within_ask hJob .job Job.resolve
  obtain ⟨hExecRun, hCallsRun⟩ := exec_within_ask hRun .run Run.resolve
  have hEnd := Program.Agree.run hAgree h t
  refine ⟨?_, ?_, _, hCallsJob, ?_⟩
  · rw [Job.get, Run.get, hExecJob, hExecRun]
    exact hEnd.1
  · rw [Job.get, Run.get, hExecJob, hExecRun]
    exact hEnd.2
  · rw [Run.get, hCallsRun, hAgree.calls h t]

/-! ### A script on a cluster -/

/-- A handler that knows one job and one run, every cluster and every file, and refuses the rest. -/
def oneJobHandler (job : JobRecord) (run : RunRecord) : Program.Handler Unit where
  answer
    | .jobs (.get _), s => (.ok job, s)
    | .jobs (.getRun _), s => (.ok run, s)
    | .clusters (.get id), s => (.ok { clusterId := id }, s)
    | .files (.getStatus path), s => (.ok ⟨path, false, 0⟩, s)
    | _, s => (.error .unauthorized, s)
  pause _ s := s
  readLocal _ _ := .error .notFound

/-- The record of a job that runs a script on a cluster. -/
def scriptJob : JobRecord where
  jobId := ⟨1⟩
  settings := {
    existingClusterId := some ⟨"0101-abc", by decide⟩
    sparkPythonTask := some ⟨some "dbfs:/jobs/etl.py", ["--full"]⟩
    libraries := [{ egg := some "dbfs:/a.egg" }, { jar := some "dbfs:/a.jar" }] }

/-- The record of a run of it. -/
def scriptRun : RunRecord where
  jobId := ⟨1⟩
  runId := ⟨2⟩
  clusterSpec := .ofSettings scriptJob.settings
  task := { sparkPythonTask := scriptJob.settings.sparkPythonTask }

theorem run_resolves_like_job_script :
    let h := oneJobHandler scriptJob scriptRun
    (scriptRun.shape = scriptJob.settings.shape ∧
      h.answer (.jobs (.get ⟨1⟩)) () = (.ok scriptJob, ()) ∧
      h.answer (.jobs (.getRun ⟨2⟩)) () = (.ok scriptRun, ())) ∧
    Matched (SameParts scriptJob scriptRun) SameCause (exec h (Job.get ⟨1⟩) ()).1
        (exec h (Run.get ⟨2⟩) ()).1 ∧
      (exec h (Run.get ⟨2⟩) ()).2 = (exec h (Job.get ⟨1⟩) ()).2 ∧
      ∃ reads, Program.calls h (Job.get ⟨1⟩).run () = .jobs (.get ⟨1⟩) :: reads ∧
        Program.calls h (Run.get ⟨2⟩).run () = .jobs (.getRun ⟨2⟩) :: reads :=
  ⟨⟨rfl, rfl, rfl⟩, run_resolves_like_job (oneJobHandler scriptJob scriptRun) ⟨1⟩ ⟨2⟩ rfl rfl rfl⟩

end SparkFleet
