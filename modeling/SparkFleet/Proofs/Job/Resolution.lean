import SparkFleet.Job.Handle
import SparkFleet.Proofs.Job.Supported
import SparkFleet.Proofs.Platform.Reading

/-!
# When a job can be read

A job is read in three steps: its record is fetched, its kind is decided by the fields that are set,
and its cluster, notebook or script is looked up.  The main statement `get_resolves` puts them
together: without injected failures a job is read exactly where its record is kept, describes a job,
and what it refers to is in place, and the handle then shows what the record says.
-/

namespace SparkFleet

open Platform (ClusterKept NotebookKept SameContent)

namespace Shape

variable {p q : Platform} {s : Shape}

/-- What the fields refer to is there. -/
structure InPlace (s : Shape) (p : Platform) : Prop where
  cluster : ∀ id, s.existingCluster = some id → p.clusters.contains id
  notebook : ∀ t, s.notebook = some t → ∀ path, t.notebookPath = some path →
    (p.notebook? path).isSome
  /-- A script of the file store is a file. -/
  script : ∀ t, s.python = some t → ∀ uri, t.pythonFile = some uri →
    ∀ path, FileStore.stripScheme? uri = some path → p.files.contains path

/-- The task has what it cannot do without, and the notebook or script is there. -/
structure TaskReady (s : Shape) (p : Platform) : Prop where
  /-- The field that the task needs is set. -/
  complete : s.Complete
  notebook : ∀ t, s.notebook = some t → ∀ path, t.notebookPath = some path →
    (p.notebook? path).isSome
  /-- A script of the file store is a file. -/
  script : ∀ t, s.python = some t → ∀ uri, t.pythonFile = some uri →
    ∀ path, FileStore.stripScheme? uri = some path → p.files.contains path

theorem complete_inPlace_iff : s.Complete ∧ s.InPlace p ↔
    (∀ id, s.existingCluster = some id → p.clusters.contains id) ∧ s.TaskReady p :=
  ⟨fun ⟨hComplete, hCluster, hNotebook, hScript⟩ => ⟨hCluster, hComplete, hNotebook, hScript⟩,
    fun ⟨hCluster, hComplete, hNotebook, hScript⟩ => ⟨hComplete, hCluster, hNotebook, hScript⟩⟩

/-- The target that is set. -/
structure Targets (s : Shape) {m : Mode} (compute : Compute m) : Prop where
  cluster : compute.cluster.map Cluster.id = s.existingCluster
  /-- The cluster that is created for each run. -/
  newCluster : compute.newCluster = s.newCluster

/-- The task that is set, where the platform knows the notebook. -/
inductive Describes (s : Shape) (p : Platform) : {k : TaskKind} → Task k → Prop where
  | notebook {t : NotebookTaskSettings} {path : String} {r : ObjectRecord}
      (hTask : s.notebook = some t) (hPath : t.notebookPath = some path)
      (hNotebook : p.notebook? path = some r) :
      Describes s p (.notebook ⟨path, r.language, r.objectId⟩ t.baseParameters)
  /-- The archive of a class is the first of the libraries. -/
  | jar {t : JarTaskSettings} {mainClass : String} (hTask : s.jar = some t)
      (hClass : t.mainClassName = some mainClass) :
      Describes s p (.jar (s.libraries.findSome? LibrarySpec.jar) mainClass t.parameters)
  | python {t : PythonTaskSettings} {script : String} (hTask : s.python = some t)
      (hScript : t.pythonFile = some script) : Describes s p (.python script t.parameters)
  | sparkSubmit {t : SubmitTaskSettings} {parameters : List String} (hTask : s.submit = some t)
      (hParameters : t.parameters = some parameters) : Describes s p (.sparkSubmit parameters)

/-- The kind, target and task that are set. -/
structure Fits (s : Shape) (p : Platform) (v : Variant) (compute : Compute v.mode)
    (task : Task v.kind) : Prop where
  mode : s.HasMode v.mode
  kind : s.HasKind v.kind
  /-- The target is the one that is set. -/
  target : s.Targets compute
  /-- The task is the one that is set. -/
  task : s.Describes p task

theorem notebook?_congr (hSame : SameContent p q) (path : String) :
    q.notebook? path = p.notebook? path := by
  rw [Platform.notebook?, hSame.objects, Platform.notebook?]

/-- Only what the platform knows of notebooks matters to a description. -/
theorem Describes.congr {k : TaskKind} {task : Task k} (h : s.Describes q task)
    (hSame : ∀ path, q.notebook? path = p.notebook? path) : s.Describes p task := by
  cases h with
  | notebook hTask hPath hNotebook =>
    exact .notebook hTask hPath ((hSame _).symm.trans hNotebook)
  | jar hTask hClass => exact .jar hTask hClass
  | python hTask hScript => exact .python hTask hScript
  | sparkSubmit hTask hParameters => exact .sparkSubmit hTask hParameters

theorem taskReady_congr (hSame : SameContent p q) : s.TaskReady q ↔ s.TaskReady p := by
  have hNotebook := notebook?_congr hSame
  have hFiles := hSame.files
  constructor
  · rintro ⟨hComplete, hPath, hScript⟩
    exact ⟨hComplete, by simpa [hNotebook] using hPath, by simpa [hFiles] using hScript⟩
  · rintro ⟨hComplete, hPath, hScript⟩
    exact ⟨hComplete, by simpa [hNotebook] using hPath, by simpa [hFiles] using hScript⟩

theorem inPlace_congr (hSame : SameContent p q) : s.InPlace q ↔ s.InPlace p := by
  have hNotebook := notebook?_congr hSame
  have hFiles := hSame.files
  have hClusters := hSame.clusters
  constructor
  · rintro ⟨hCluster, hPath, hScript⟩
    exact ⟨by simpa [hClusters] using hCluster, by simpa [hNotebook] using hPath,
      by simpa [hFiles] using hScript⟩
  · rintro ⟨hCluster, hPath, hScript⟩
    exact ⟨by simpa [hClusters] using hCluster, by simpa [hNotebook] using hPath,
      by simpa [hFiles] using hScript⟩

theorem Fits.congr {v : Variant} {compute : Compute v.mode} {task : Task v.kind}
    (h : s.Fits q v compute task) (hSame : ∀ path, q.notebook? path = p.notebook? path) :
    s.Fits p v compute task :=
  ⟨h.mode, h.kind, h.target, h.task.congr hSame⟩

/-! ### Targets and tasks -/

variable {σ : Simulation Platform} {f : Family}

/-- A field that must be set is followed by what is done with it. -/
theorem need_resolves {α β : Type} {field : String} {value : Option α} {next : α → Action β}
    {ready : Prop} {result : β → Prop} (hNone : value = none → ¬ready)
    (hSome : ∀ a, value = some a → Resolves (next a) σ ready result) :
    Resolves (need f field value >>= next) σ ready result := by
  cases value with
  | none => exact .throw (hNone rfl)
  | some a => exact hSome a rfl

/-- The target of the mode that is set is looked up where it is there. -/
theorem compute_resolves {m : Mode} (hMode : s.HasMode m)
    (hClusters : σ.state.clusters.All ClusterKept) :
    Resolves (s.compute f m) σ
      (∀ id, s.existingCluster = some id → σ.state.clusters.contains id) s.Targets := by
  cases m with
  | interactive =>
    obtain ⟨hExisting, hNew⟩ := hMode
    refine need_resolves (fun hNone => absurd hExisting (by simp [hNone])) fun id hId => ?_
    have hGet : Resolves (Cluster.get id >>= fun c => return .existing c) σ
        (σ.state.clusters.contains id ∧ True) s.Targets :=
      (Cluster.get_resolves id hClusters).bind fun c _ hc _ =>
        .pure trivial ⟨(congrArg some hc).trans hId.symm, hNew.symm⟩
    exact hGet.congr (by simp [hId])
  | automated =>
    obtain ⟨hExisting, hNew⟩ := hMode
    -- A new cluster is not looked up, so nothing has to be there for it.
    refine need_resolves (fun hNone => absurd hNew (by simp [hNone])) fun spec hSpec => ?_
    exact .pure (by simp [hExisting]) ⟨hExisting.symm, hSpec.symm⟩

/-- The task of the kind that is set is looked up where it is complete and what it refers to is
there. -/
theorem task_resolves {k : TaskKind} (hKind : s.HasKind k)
    (hObjects : σ.state.objects.All NotebookKept) :
    Resolves (s.task f k) σ (s.TaskReady σ.state) (s.Describes σ.state) := by
  obtain ⟨hNotebook, hJar, hPython, hSubmit⟩ := hKind.fields
  -- Only the task of the kind is set, so being ready says nothing about the other three.
  cases k
  all_goals simp only [decide_true, reduceCtorEq, decide_false, Option.isSome_eq_false_iff,
    Option.isNone_iff_eq_none] at hNotebook hJar hPython hSubmit
  case notebook =>
    refine need_resolves (fun hNone => absurd hNotebook (by simp [hNone])) fun t hTask => ?_
    refine need_resolves (fun hNone hReady => ?_) fun path hPath => ?_
    · exact absurd (hReady.complete.notebook t hTask) (by simp [hNone])
    have hReady : (σ.state.notebook? path).isSome ↔ s.TaskReady σ.state := by
      refine ⟨fun h => ⟨⟨?_, ?_, ?_, ?_⟩, ?_, ?_⟩, fun h => h.notebook t hTask path hPath⟩ <;>
        simp_all
    have hGet : Resolves (Notebook.get path >>= fun n => return .notebook n t.baseParameters) σ
        ((σ.state.notebook? path).isSome ∧ True) (s.Describes σ.state) := by
      refine (Notebook.get_resolves path hObjects).bind fun n _ ⟨r, hFound, hn⟩ _ => ?_
      rw [hn]
      exact .pure trivial (.notebook hTask hPath hFound)
    exact hGet.congr ((and_iff_left trivial).trans hReady)
  case jar =>
    refine need_resolves (fun hNone => absurd hJar (by simp [hNone])) fun t hTask => ?_
    refine need_resolves (fun hNone hReady => ?_) fun mainClass hClass => ?_
    · exact absurd (hReady.complete.jar t hTask) (by simp [hNone])
    have hReady : s.TaskReady σ.state := by
      refine ⟨⟨?_, ?_, ?_, ?_⟩, ?_, ?_⟩ <;> simp_all
    exact .pure hReady (.jar hTask hClass)
  case python =>
    refine need_resolves (fun hNone => absurd hPython (by simp [hNone])) fun t hTask => ?_
    refine need_resolves (fun hNone hReady => ?_) fun script hScript => ?_
    · exact absurd (hReady.complete.python t hTask) (by simp [hNone])
    have hReady : (∀ path, FileStore.stripScheme? script = some path →
        σ.state.files.contains path) ↔ s.TaskReady σ.state := by
      refine ⟨fun h => ⟨⟨?_, ?_, ?_, ?_⟩, ?_, ?_⟩, fun h => h.script t hTask script hScript⟩ <;>
        simp_all
    have hCheck : Resolves (FileStore.checkScript script >>= fun _ =>
        return .python script t.parameters) σ
        ((∀ path, FileStore.stripScheme? script = some path → σ.state.files.contains path) ∧ True)
        (s.Describes σ.state) :=
      (FileStore.checkScript_resolves script).bind fun _ _ _ _ =>
        .pure trivial (.python hTask hScript)
    exact hCheck.congr ((and_iff_left trivial).trans hReady)
  -- This task and that of an archive refer to nothing on the platform, so being complete is enough.
  case sparkSubmit =>
    refine need_resolves (fun hNone => absurd hSubmit (by simp [hNone])) fun t hTask => ?_
    refine need_resolves (fun hNone hReady => ?_) fun parameters hParameters => ?_
    · exact absurd (hReady.complete.submit t hTask) (by simp [hNone])
    have hReady : s.TaskReady σ.state := by
      refine ⟨⟨?_, ?_, ?_, ?_⟩, ?_, ?_⟩ <;> simp_all
    exact .pure hReady (.sparkSubmit hTask hParameters)

/-- The target and the task are looked up one after the other. -/
theorem parts_resolve {α : Type} {v : Variant} (hMode : s.HasMode v.mode) (hKind : s.HasKind v.kind)
    (hClusters : σ.state.clusters.All ClusterKept) (hObjects : σ.state.objects.All NotebookKept)
    {handle : Compute v.mode → Task v.kind → α} {result : α → Prop}
    (hResult : ∀ compute task, s.Fits σ.state v compute task → result (handle compute task)) :
    Resolves (do
        let compute ← s.compute f v.mode
        let task ← s.task f v.kind
        return handle compute task) σ (s.Complete ∧ s.InPlace σ.state) result := by
  -- The cluster is looked up first, and that changes nothing that the task refers to.
  refine .congr complete_inPlace_iff.symm ((compute_resolves hMode hClusters).bind ?_)
  intro compute t hTarget hSame
  have hTask : Resolves (s.task f v.kind >>= fun task => return handle compute task) t
      (s.TaskReady t.state ∧ True) result := by
    refine (task_resolves hKind (hSame.objects ▸ hObjects)).bind fun task _ hTask _ => ?_
    exact .pure trivial (hResult compute task ⟨hMode, hKind, hTarget,
      hTask.congr (notebook?_congr hSame)⟩)
  exact hTask.congr ((and_iff_left trivial).trans (taskReady_congr hSame))

/-- The kind is decided first, from the fields that are set. -/
theorem variant_resolves {α : Type} {next : Variant → Action α} {result : α → Prop}
    (hNext : ∀ v : Variant, s.HasMode v.mode → s.HasKind v.kind →
      Resolves (next v) σ (s.Complete ∧ s.InPlace σ.state) result) :
    Resolves (.ofExcept (s.variant f) >>= next) σ (s.Supported ∧ s.InPlace σ.state) result := by
  cases hVariant : s.variant f with
  | ok v =>
    obtain ⟨hMode, hKind⟩ := variant_eq_ok_iff.1 hVariant
    refine .congr ?_ (hNext v hMode hKind)
    have hSupported : s.Supported ↔ s.Complete :=
      supported_iff.trans (and_iff_right ⟨v, hMode, hKind⟩)
    rw [hSupported]
  | error e =>
    -- A record that describes a job has a kind, so this one describes none.
    refine .throw fun ⟨hSupported, _⟩ => ?_
    obtain ⟨v, hKinds⟩ := (supported_iff.1 hSupported).1
    exact nomatch hVariant.symm.trans (variant_eq_ok_iff.2 hKinds)

end Shape

/-! ### Jobs and runs -/

section Handles

variable {σ : Simulation Platform} (hClusters : σ.state.clusters.All ClusterKept)
  (hObjects : σ.state.objects.All NotebookKept)

include hClusters hObjects

/-- The job of a record is resolved where the record describes one and what it refers to is in
place. -/
theorem Job.resolve_resolves (record : JobRecord) :
    Resolves (Job.resolve record) σ
      (record.settings.shape.Supported ∧ record.settings.shape.InPlace σ.state) fun j =>
      j.details.record = record ∧
        record.settings.shape.Fits σ.state j.variant j.details.compute j.details.task := by
  unfold Job.resolve
  refine Shape.variant_resolves fun v hMode hKind => ?_
  cases v <;> exact Shape.parts_resolve hMode hKind hClusters hObjects fun _ _ hFits => ⟨rfl, hFits⟩

/-- The run of a record is resolved as a job is. -/
theorem Run.resolve_resolves (record : RunRecord) :
    Resolves (Run.resolve record) σ (record.shape.Supported ∧ record.shape.InPlace σ.state) fun r =>
      r.details.record = record ∧
        record.shape.Fits σ.state r.variant r.details.compute r.details.task := by
  unfold Run.resolve
  refine Shape.variant_resolves fun v hMode hKind => ?_
  cases v <;> exact Shape.parts_resolve hMode hKind hClusters hObjects fun _ _ hFits => ⟨rfl, hFits⟩

/-- A job is read where its record is kept, describes a job, and refers to what is in place. -/
theorem Job.get_resolves (id : JobId) :
    Resolves (Job.get id) σ
      (∃ record, σ.state.jobs.get? id = some record ∧ record.settings.shape.Supported ∧
        record.settings.shape.InPlace σ.state) fun j =>
      σ.state.jobs.get? id = some j.details.record ∧
        j.details.settings.shape.Fits σ.state j.variant j.details.compute j.details.task := by
  simp only [← Platform.findJob_eq_ok_iff]
  refine .within (.ask_bind (.jobs (.get id)) (σ.state.findJob id) (fun record =>
    record.settings.shape.Supported ∧ record.settings.shape.InPlace σ.state) rfl ?_)
  intro record t hRecord hSame
  have hResolve := Job.resolve_resolves (hSame.kept hClusters) (hSame.objects ▸ hObjects) record
  refine hResolve.mono (and_congr_right fun _ => Shape.inPlace_congr hSame) ?_
  rintro j ⟨rfl, hFits⟩
  exact ⟨hRecord, hFits.congr (Shape.notebook?_congr hSame)⟩

end Handles

open SparkFleet.Action (exec)

/-- Without injected failures a job is read exactly where its record is kept, describes a job, and
refers to what is in place.  The handle then shows what the record says; a failure is one of the
family of jobs; and in each case nothing that may be looked up changes. -/
theorem job_get_succeeds_iff {s : Simulation Platform} (hReach : s.state.Reachable)
    (hServing : s.state.Serving) (id : JobId) :
    ((∃ j, (exec Platform.handler (Job.get id) s).1 = .ok j) ↔
        ∃ record, s.state.jobs.get? id = some record ∧ record.settings.shape.Supported ∧
          record.settings.shape.InPlace s.state) ∧
      (∀ j, (exec Platform.handler (Job.get id) s).1 = .ok j →
        j.id = id ∧ s.state.jobs.get? id = some j.details.record ∧
          j.details.settings.shape.Fits s.state j.variant j.details.compute j.details.task) ∧
      (∀ e, (exec Platform.handler (Job.get id) s).1 = .error e → e.family = some .job) ∧
      SameContent s.state (exec Platform.handler (Job.get id) s).2.state := by
  have hConsistent := hReach.consistent
  obtain ⟨hIff, hOk, hSame⟩ :=
    (Job.get_resolves hConsistent.clusters hConsistent.objects id).succeeds_iff hServing
  refine ⟨hIff, fun j hj => ?_, fun e he => Action.family_of_within he, hSame⟩
  obtain ⟨hStored, hFits⟩ := hOk j hj
  exact ⟨(hConsistent.jobs hStored).1, hStored, hFits⟩

/-- What is known of a job that has been read. -/
theorem job_get_eq_ok {s s₁ : Simulation Platform} (hReach : s.state.Reachable) {id : JobId}
    {j : Job} (hGet : exec Platform.handler (Job.get id) s = (.ok j, s₁)) :
    j.id = id ∧ s₁.state.jobs.get? id = some j.details.record ∧
      j.details.settings.shape.Fits s.state j.variant j.details.compute j.details.task ∧
      SameContent s.state s₁.state := by
  have hConsistent := hReach.consistent
  have hRead := Job.get_resolves hConsistent.clusters hConsistent.objects id
  obtain ⟨-, ⟨hStored, hFits⟩, hSame⟩ := Action.Ends.of_ok hRead hGet
  exact ⟨(hConsistent.jobs hStored).1, hSame.jobs ▸ hStored, hFits, hSame⟩

/-! ### A notebook on a cluster of its own -/

/-- The settings of a job that runs a notebook. -/
def notebookSettings : JobSettings where
  newCluster := some { numWorkers := some 2 }
  notebookTask := some ⟨some "/etl", .empty⟩

/-- A platform that has the notebook and the job. -/
def notebookPlatform : Simulation Platform where
  state := ({} : Platform).after [.addNotebook "/etl" .python .empty, .putJob notebookSettings]

theorem notebookSettings_inPlace {p : Platform} (hNotebook : (p.notebook? "/etl").isSome) :
    notebookSettings.shape.InPlace p := by
  refine ⟨fun _ h => (nomatch h), ?_, fun _ h => (nomatch h)⟩
  intro t hTask path hPath
  cases hTask
  cases hPath
  exact hNotebook

theorem job_get_succeeds_notebook :
    (notebookPlatform.state.Reachable ∧ notebookPlatform.state.Serving) ∧
      ∃ j, (exec Platform.handler (Job.get ⟨2⟩) notebookPlatform).1 = .ok j := by
  have hReach : notebookPlatform.state.Reachable := ⟨_, rfl⟩
  have hServing : notebookPlatform.state.Serving := fun _ => rfl
  have hShape : notebookSettings.shape.Supported := by
    refine ⟨by decide, by decide, by decide, ?_, fun _ h => (nomatch h), fun _ h => (nomatch h),
      fun _ h => (nomatch h)⟩
    intro t hTask
    cases hTask
    rfl
  have hPlace : notebookSettings.shape.InPlace notebookPlatform.state :=
    notebookSettings_inPlace rfl
  exact ⟨⟨hReach, hServing⟩,
    (job_get_succeeds_iff hReach hServing ⟨2⟩).1.2 ⟨_, rfl, hShape, hPlace⟩⟩

end SparkFleet
