import SparkFleet.Proofs.FileStore.Upload
import SparkFleet.Proofs.Job.Settings

/-!
# Creating jobs

A draft is made by any choices, one after the other, and then created.  The main statement
`create_round_trip` says that a job that is created is what its draft says, piece by piece: its
target, its settings, its task, its libraries and the file that was uploaded for it; and that it is
read back as the same job later, as long as it and what it refers to are not replaced.
-/

namespace SparkFleet

open SparkFleet.Action (Ends exec)
open Platform (SameContent)

variable {v : Variant}

/-! ### Choices -/

/-- One more choice about a new job. -/
inductive JobChoice (v : Variant) where
  | compute (target : Compute v.mode)
  | name (name : String)
  | libraries (libraries : List Library)
  | timeout (seconds : UInt32)
  | maxRetries (retries : Int32)
  /-- The least time between a failure and its repetition. -/
  | minRetryInterval (millis : UInt32)
  /-- Whether a run that took too long is repeated. -/
  | retryOnTimeout (retry : Bool)
  | schedule (schedule : CronSchedule)
  /-- How many runs there may be at once. -/
  | maxConcurrentRuns (runs : UInt32)
  | upload (file : String)
  | baseParameters (parameters : TextMap)
  | baseParameter (key value : String)
  | parameters (parameters : List String)

namespace JobDraft

/-- The draft after a choice. -/
def choose (d : JobDraft v) : JobChoice v → JobDraft v
  | .compute target => d.withCompute target
  | .name name => d.withName name
  | .libraries libraries => d.withLibraries libraries
  | .timeout seconds => d.withTimeout seconds
  | .maxRetries retries => d.withMaxRetries retries
  | .minRetryInterval millis => d.withMinRetryInterval millis
  | .retryOnTimeout retry => d.withRetryOnTimeout retry
  | .schedule schedule => d.withSchedule schedule
  | .maxConcurrentRuns runs => d.withMaxConcurrentRuns runs
  | .upload file => d.withUpload file
  | .baseParameters parameters => d.withBaseParameters parameters
  | .baseParameter key value => d.withBaseParameter key value
  | .parameters parameters => d.withParameters parameters

/-- The draft that begins with a task, and with a target if that is known, after any choices. -/
def make (task : Task v.kind) (compute : Option (Compute v.mode)) (choices : List (JobChoice v)) :
    JobDraft v :=
  choices.foldl choose { task := task, compute := compute }

/-- A choice keeps the archive of a task. -/
theorem hasArchive_choose {d : JobDraft v} (h : d.task.HasArchive) (choice : JobChoice v) :
    (d.choose choice).task.HasArchive := by
  cases choice with
  | upload file =>
    simp only [choose, withUpload]
    split <;> exact h
  | baseParameters parameters =>
    change (d.task.withBaseParameters parameters).HasArchive
    exact Task.hasArchive_withBaseParameters h parameters
  | baseParameter key value =>
    change (d.task.withBaseParameter key value).HasArchive
    exact Task.hasArchive_withBaseParameter h key value
  | parameters parameters =>
    change (d.task.withParameters parameters).HasArchive
    exact Task.hasArchive_withParameters h parameters
  | compute | name | libraries | timeout | maxRetries | minRetryInterval | retryOnTimeout
  | schedule | maxConcurrentRuns => exact h

/-- Whatever is chosen, the task of a draft keeps its archive. -/
theorem hasArchive_foldl {d : JobDraft v} (h : d.task.HasArchive) (choices : List (JobChoice v)) :
    (choices.foldl choose d).task.HasArchive := by
  induction choices generalizing d with
  | nil => exact h
  | cons choice rest ih => exact ih (hasArchive_choose h choice)

/-! ### Steps -/

variable {d : JobDraft v} {s t : Simulation Platform}

/-- The local file of a draft, if it has one, is the file where the task expects it. -/
def Uploaded (d : JobDraft v) (s : Simulation Platform) (p : Platform) : Prop :=
  ∀ file, d.upload = some file → ∃ target path data, d.task.uploadTarget = some target ∧
    FileStore.stripScheme? target = some path ∧ s.files.read file = .ok data ∧
      p.files.get? path = some data

theorem Uploaded.congr {p q : Platform} (h : d.Uploaded s p) (hFiles : q.files = p.files) :
    d.Uploaded s q := by
  unfold Uploaded
  rw [hFiles]
  exact h

theorem sendUpload_spec (d : JobDraft v) (s : Simulation Platform) :
    Ends Platform.handler d.sendUpload s (fun _ t => d.Uploaded s t.state) fun _ _ => True := by
  unfold sendUpload Uploaded
  cases hUpload : d.upload with
  | none => exact fun file h => (nomatch h)
  | some file =>
    cases hTarget : d.task.uploadTarget with
    | none => trivial
    | some target =>
      dsimp only
      cases hPath : FileStore.stripScheme? target with
      | none =>
        -- A target at another address is refused, and nothing is claimed of a failure.
        rw [Option.isNone_none, if_pos rfl]
        trivial
      | some path =>
        rw [Option.isNone_some, if_neg Bool.false_ne_true]
        have hPut := FileStore.putFile_spec (s := s) file target true
        have hPathOf : FileStore.pathOf target = path := by rw [FileStore.pathOf, hPath]; rfl
        rw [hPathOf] at hPut
        refine Ends.mono hPut ?_ fun _ _ _ => trivial
        rintro - t ⟨data, hRead, hFile⟩ other hOther
        cases hOther
        exact ⟨target, path, data, rfl, hPath, hRead, hFile⟩

/-- Checking a task changes no file. -/
theorem check_spec {k : TaskKind} (task : Task k) (s : Simulation Platform) :
    Ends Platform.handler task.check s (fun _ t => t.state.files = s.state.files)
      fun _ _ => True := by
  cases task with
  | python script parameters =>
    have hCheck := FileStore.checkScript_resolves (s := s) script
    refine Ends.mono hCheck ?_ fun _ _ _ => trivial
    rintro - t ⟨-, -, hSame⟩
    exact hSame.files
  | notebook | jar | sparkSubmit => rfl

/-- The job of an identifier is created with the settings as they were given. -/
theorem ask_create_spec (settings : JobSettings) (s : Simulation Platform) :
    Ends Platform.handler (.ask (.jobs (.create settings))) s
      (fun id t => (∃ record, t.state.jobs.get? id = some record ∧ record.settings = settings) ∧
        t.state.files = s.state.files) fun _ _ => True := by
  refine Platform.ends_ask (fun id q hServe => ?_) fun _ _ _ => trivial
  have hCreate : Except.ok ((s.state.count "jobs/create").createJob settings) = .ok (id, q) :=
    Platform.serve_eq_ok hServe
  cases hCreate
  exact ⟨⟨_, (SortedMap.get?_insert ..).trans (if_pos rfl), rfl⟩, rfl⟩

/-- What reading back gives is what is read. -/
theorem readBack_spec (id : JobId) (s : Simulation Platform) :
    Ends Platform.handler (readBack v id) s
      (fun job t => exec Platform.handler (Job.get id) s = (.ok ⟨v, job⟩, t)) fun _ _ => True := by
  refine (Action.ends_bind _).2 (Action.ends_attempt.2 ((Action.ends_bind _).2 ?_))
  refine .intro (fun job t hGet => ?_) fun e t _ => ?_
  · refine (Action.ends_ofExcept _).2 ?_
    obtain ⟨v', job⟩ := job
    unfold Job.expect
    by_cases hVariant : v' = v
    · subst hVariant
      rw [dif_pos rfl]
      exact hGet
    · -- A job of another kind is deleted again, and nothing is claimed of a failure.
      rw [dif_neg hVariant]
      exact Platform.ends_tryAsk (fun _ _ _ => trivial) fun _ _ _ => trivial
  · exact Platform.ends_tryAsk (fun _ _ _ => trivial) fun _ _ _ => trivial

/-- What creating a job does, up to reading it back: the local file is uploaded, and the job is
created with the settings of the draft. -/
structure Sent (d : JobDraft v) (s s₁ : Simulation Platform) (id : JobId) : Prop where
  /-- The platform is one that can be reached. -/
  reachable : s₁.state.Reachable
  uploaded : d.Uploaded s s₁.state
  /-- The job is kept with the settings of the draft. -/
  stored : ∃ record, s₁.state.jobs.get? id = some record ∧ d.buildSettings = .ok record.settings

theorem create_spec (d : JobDraft v) {s : Simulation Platform} (hReach : s.state.Reachable) :
    Ends Platform.handler d.create s
      (fun job t => ∃ id s₁, d.Sent s s₁ id ∧
        exec Platform.handler (Job.get id) s₁ = (.ok ⟨v, job⟩, t)) fun _ _ => True := by
  refine (Action.ends_within .job).2 ((Action.ends_bind _).2 ((Action.ends_ofExcept _).2 ?_))
  cases hSettings : d.buildSettings with
  | error e => trivial
  | ok settings =>
    -- Each step is followed from a platform that can be reached, since reading back at the end
    -- relies on what holds of all of those.
    refine (Action.ends_bind _).2 (((sendUpload_spec d s).and_reachable hReach).mono ?_
      fun _ _ _ => trivial)
    rintro - t ⟨hUploaded, hReach⟩
    refine (Action.ends_bind _).2 (((check_spec d.task t).and_reachable hReach).mono ?_
      fun _ _ _ => trivial)
    rintro - t' ⟨hFiles, hReach⟩
    refine (Action.ends_bind _).2 (((ask_create_spec settings t').and_reachable hReach).mono ?_
      fun _ _ _ => trivial)
    rintro id s₁ ⟨⟨⟨record, hStored, rfl⟩, hFiles'⟩, hReach⟩
    refine (readBack_spec id s₁).mono (fun job t'' hGet => ?_) fun _ _ _ => trivial
    exact ⟨id, s₁, ⟨hReach, hUploaded.congr (hFiles'.trans hFiles), record, hStored, hSettings⟩,
      hGet⟩

/-! ### Jobs that have been created -/

/-- A job that has been created is what its draft says. -/
structure Created (d : JobDraft v) (s t : Simulation Platform) (job : JobOf v) : Prop where
  settings : d.buildSettings = .ok job.settings
  /-- The platform keeps them under the identifier of the job. -/
  stored : t.state.jobs.get? job.id = some job.record
  /-- The settings are of the kind of the draft, and the target and the task are those that they
  describe, the notebook as the platform knows it. -/
  fits : job.settings.shape.Fits t.state v job.compute job.task
  target : ∃ compute, d.compute = some compute ∧ job.compute.SameTarget compute
  task : job.task.bare = d.task.bare
  /-- The libraries are those of the draft, with the archive of its task first. -/
  libraries : job.libraries = d.task.withArchive d.libraries
  uploaded : d.Uploaded s t.state
  /-- The same job is read later, if it and what it refers to are neither deleted nor replaced. -/
  later : ∀ u : Simulation Platform, u.state.Reachable → u.state.Serving →
    u.state.jobs.get? job.id = some job.record → job.settings.shape.Kept t.state u.state →
    ∃ found : JobOf v, (exec Platform.handler (Job.get job.id) u).1 = .ok ⟨v, found⟩ ∧
      found.record = job.record ∧ found.task = job.task ∧ found.compute.SameTarget job.compute

end JobDraft

/-- A job whose record is still kept is read again as it was, where what it refers to is neither
deleted nor replaced. -/
theorem Job.get_again {p : Platform} {job : JobOf v}
    (hFits : job.settings.shape.Fits p v job.compute job.task)
    (hPlace : job.settings.shape.InPlace p) {u : Simulation Platform} (hReach : u.state.Reachable)
    (hServing : u.state.Serving) (hStored : u.state.jobs.get? job.id = some job.record)
    (hKept : job.settings.shape.Kept p u.state) :
    ∃ found : JobOf v, (exec Platform.handler (Job.get job.id) u).1 = .ok ⟨v, found⟩ ∧
      found.record = job.record ∧ found.task = job.task ∧ found.compute.SameTarget job.compute := by
  have hConsistent := hReach.consistent
  obtain ⟨hIff, hOk, -⟩ :=
    (Job.get_resolves hConsistent.clusters hConsistent.objects job.id).succeeds_iff hServing
  -- What is in place is still in place, so the job is found; that it is the same is read off the
  -- record, which has not changed.
  obtain ⟨⟨v', found⟩, hFound⟩ := hIff.2 ⟨_, hStored, hFits.supported, hPlace.of_kept hKept⟩
  obtain ⟨hSame, hFits'⟩ := hOk _ hFound
  have hRecord : found.record = job.record := Option.some.inj (hSame.symm.trans hStored)
  have hShape : found.settings.shape = job.settings.shape :=
    congrArg (fun r : JobRecord => r.settings.shape) hRecord
  rw [hShape] at hFits'
  obtain rfl : v' = v := hFits'.variant_eq hFits
  exact ⟨found, hFound, hRecord, hFits.task.eq_of_kept hFits'.task hKept,
    hFits'.target.sameTarget hFits.target⟩

/-- Whatever choices are made, a job that is created from them on a platform that can be reached is
what its draft says. -/
theorem create_round_trip {s t : Simulation Platform} (hReach : s.state.Reachable)
    {task : Task v.kind} (hArchive : task.HasArchive) {compute : Option (Compute v.mode)}
    {choices : List (JobChoice v)} {job : JobOf v}
    (hCreate : exec Platform.handler (JobDraft.make task compute choices).create s = (.ok job, t)) :
    (JobDraft.make task compute choices).Created s t job := by
  have hKeeps : (JobDraft.make task compute choices).task.HasArchive :=
    JobDraft.hasArchive_foldl hArchive choices
  obtain ⟨id, s₁, hSent, hGet⟩ := (JobDraft.create_spec _ hReach).of_ok hCreate
  have hConsistent := hSent.reachable.consistent
  have hRead := Job.get_resolves hConsistent.clusters hConsistent.objects id
  -- The reading at the end answers from what is stored then: three records that are one.
  obtain ⟨⟨record, hStored, -, hPlace⟩, ⟨hStored', hFits⟩, hSame⟩ := hRead.of_ok hGet
  obtain ⟨record', hStored'', hSettings⟩ := hSent.stored
  obtain rfl : record = job.record := Option.some.inj (hStored.symm.trans hStored')
  obtain rfl : record' = job.record := Option.some.inj (hStored''.symm.trans hStored')
  have hId : job.id = id := (hConsistent.jobs hStored).1
  obtain ⟨target, hTarget, hApply⟩ := JobDraft.buildSettings_eq_ok hSettings
  -- Reading leaves the notebooks, so the handle fits the platform after it too.
  have hFitsAfter : job.settings.shape.Fits t.state v job.compute job.task :=
    hFits.congr fun path => (Shape.notebook?_congr hSame path).symm
  refine ⟨hSettings, ?_, hFitsAfter, ⟨target, hTarget, ?_⟩, ?_,
    JobDraft.libraries_buildSettings hSettings, hSent.uploaded.congr hSame.files, ?_⟩
  · rw [hSame.jobs, hId]
    exact hStored
  · have hTargets := hFits.target
    rw [JobOf.settings, hApply] at hTargets
    exact Compute.apply_sameTarget hTargets
  · have hTask := hFits.task
    rw [JobOf.settings, hApply] at hTask
    exact Task.apply_bare_eq hKeeps hTask
  · intro u hReachU hServing hStoredU hKept
    exact Job.get_again hFitsAfter ((Shape.inPlace_congr hSame).2 hPlace) hReachU hServing hStoredU
      hKept

/-! ### An archive that is uploaded -/

/-- A platform at its beginning, with an archive among the local files. -/
def archivePlatform : Simulation Platform where
  state := {}
  files := .ofList [("etl.jar", ⟨#[80, 75]⟩)]

/-- A class of the archive. -/
def archiveTask : Task .jar := .jar (some "dbfs:/etl.jar") "com.example.Main" []

/-- A job that runs the class; the archive is named once more after another one. -/
def archiveDraft : JobDraft .automatedJar :=
  .make archiveTask none
    [.parameters ["--full"], .libraries [.jar "dbfs:/util.jar", .jar "dbfs:/etl.jar"],
      .upload "etl.jar", .compute (.fresh { numWorkers := some 2 })]

theorem create_round_trip_archive :
    ∃ job t, (archivePlatform.state.Reachable ∧ archiveTask.HasArchive ∧
        exec Platform.handler archiveDraft.create archivePlatform = (.ok job, t)) ∧
      archiveDraft.Created archivePlatform t job := by
  have hReach : archivePlatform.state.Reachable := ⟨[], rfl⟩
  have hArchive : archiveTask.HasArchive := rfl
  obtain ⟨job, t, hCreate⟩ : ∃ job t,
      exec Platform.handler archiveDraft.create archivePlatform = (.ok job, t) := ⟨_, _, rfl⟩
  exact ⟨job, t, ⟨hReach, hArchive, hCreate⟩, create_round_trip hReach hArchive hCreate⟩

end SparkFleet
