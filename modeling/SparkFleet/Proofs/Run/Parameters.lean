import SparkFleet.Proofs.Job.Resolution

/-!
# The parameters of a run

The parameters of a run are put together twice: the platform merges or replaces those of the job's
settings, and the handle those of the job's task.  `newRun_fits` says that both come to the same:
the record of a new run describes the job's task with the parameters of the run.

Two lookups of one task may find different notebooks at its path; `Describes.bare_eq` says that
apart from that they find the same, and `Describes.eq_of_kept` that they find the same where the
notebook is the same.
-/

namespace SparkFleet

/-! ### What lookups agree on -/

/-- The task, of whose notebook only the path counts. -/
def Task.bare {k : TaskKind} : Task k → Task k
  | .notebook n base => .notebook ⟨n.path, none, none⟩ base
  | t => t

/-- The same cluster, or clusters of the same specification. -/
structure Compute.SameTarget {m : Mode} (a b : Compute m) : Prop where
  cluster : a.cluster.map Cluster.id = b.cluster.map Cluster.id
  newCluster : a.newCluster = b.newCluster

namespace Shape

variable {p q : Platform} {s : Shape}

theorem Targets.sameTarget {m : Mode} {a b : Compute m} (ha : s.Targets a) (hb : s.Targets b) :
    a.SameTarget b :=
  ⟨ha.cluster.trans hb.cluster.symm, ha.newCluster.trans hb.newCluster.symm⟩

/-- Whatever the platform knows of notebooks, the task is the same apart from that. -/
theorem Describes.bare_eq {k : TaskKind} {a b : Task k} (ha : s.Describes p a)
    (hb : s.Describes q b) : a.bare = b.bare := by
  cases ha with
  | notebook hTask hPath _ =>
    cases hb with
    | notebook hTask' hPath' _ => simp_all [Task.bare]
  | jar hTask hClass =>
    cases hb with
    | jar hTask' hClass' => simp_all
  | python hTask hScript =>
    cases hb with
    | python hTask' hScript' => simp_all
  | sparkSubmit hTask hParameters =>
    cases hb with
    | sparkSubmit hTask' hParameters' => simp_all

/-- What the fields refer to is neither deleted nor replaced from one platform to another. -/
structure Kept (s : Shape) (p q : Platform) : Prop where
  cluster : ∀ id, s.existingCluster = some id → p.clusters.contains id → q.clusters.contains id
  notebook : ∀ t, s.notebook = some t → ∀ path, t.notebookPath = some path →
    q.notebook? path = p.notebook? path
  script : ∀ t, s.python = some t → ∀ uri, t.pythonFile = some uri →
    ∀ path, FileStore.stripScheme? uri = some path → p.files.contains path → q.files.contains path

theorem InPlace.of_kept (h : s.InPlace p) (hKept : s.Kept p q) : s.InPlace q := by
  refine ⟨fun id hId => hKept.cluster id hId (h.cluster id hId), ?_, ?_⟩
  · intro t hTask path hPath
    rw [hKept.notebook t hTask path hPath]
    exact h.notebook t hTask path hPath
  · intro t hTask uri hUri path hPath
    exact hKept.script t hTask uri hUri path hPath (h.script t hTask uri hUri path hPath)

/-- Where the notebook is the same, so is the task. -/
theorem Describes.eq_of_kept {k : TaskKind} {a b : Task k} (ha : s.Describes p a)
    (hb : s.Describes q b) (hKept : s.Kept p q) : b = a := by
  cases ha with
  | notebook hTask hPath hNotebook =>
    have hSame := hKept.notebook _ hTask _ hPath
    cases hb with
    | notebook hTask' hPath' hNotebook' => simp_all
  | jar hTask hClass =>
    cases hb with
    | jar hTask' hClass' => simp_all
  | python hTask hScript =>
    cases hb with
    | python hTask' hScript' => simp_all
  | sparkSubmit hTask hParameters =>
    cases hb with
    | sparkSubmit hTask' hParameters' => simp_all

/-- The kind is decided by the fields that are set. -/
theorem Fits.variant_eq {v v' : Variant} {compute : Compute v.mode} {compute' : Compute v'.mode}
    {task : Task v.kind} {task' : Task v'.kind} (h : s.Fits p v compute task)
    (h' : s.Fits q v' compute' task') : v = v' := by
  have hVariant : s.variant .job = .ok v := variant_eq_ok_iff.2 ⟨h.mode, h.kind⟩
  have hVariant' : s.variant .job = .ok v' := variant_eq_ok_iff.2 ⟨h'.mode, h'.kind⟩
  exact Except.ok.inj (hVariant.symm.trans hVariant')

/-- A task that is described has the field that it cannot do without. -/
theorem Fits.supported {v : Variant} {compute : Compute v.mode} {task : Task v.kind}
    (h : s.Fits p v compute task) : s.Supported := by
  obtain ⟨hMode, hKind, -, hTask⟩ := h
  refine supported_iff.2 ⟨⟨v, hMode, hKind⟩, ?_⟩
  obtain ⟨hNotebook, hJar, hPython, hSubmit⟩ := hKind.fields
  -- The kind says which field is set, and the description what it holds.
  generalize v.kind = k at task hTask hNotebook hJar hPython hSubmit
  cases hTask <;>
    simp only [decide_true, reduceCtorEq, decide_false, Option.isSome_eq_false_iff,
      Option.isNone_iff_eq_none] at hNotebook hJar hPython hSubmit <;>
    constructor <;> simp_all

end Shape

/-! ### The record of a new run -/

/-- Parameters that are sent only where there are any take the place of others. -/
theorem getD_filter_eq_replaced (own params : List String) :
    ((some params).filter (!·.isEmpty)).getD own = Task.replaced own params := by
  cases params <;> rfl

/-- Parameters that are sent only where there are any are merged over others. -/
theorem merge_getD_filter (base params : TextMap) :
    base.merge (((some params).filter (!·.isEmpty)).getD .empty) = base.merge params := by
  cases hEmpty : params.isEmpty with
  | false => simp [Option.filter, hEmpty]
  | true =>
    -- Nothing is sent, so nothing is merged.
    have hEntries : params.entries = [] := List.isEmpty_iff.1 hEmpty
    simp [Option.filter, hEmpty, SortedMap.merge, hEntries, SortedMap.empty]

namespace Platform

variable {p : Platform} {job : JobRecord} (id : RunId) (number : Nat)

/-- A new run has the target of its job and a task of the same kind. -/
theorem newRun_hasMode {request : RunRequest} {m : Mode} :
    (newRun job id number request).shape.HasMode m ↔ job.settings.shape.HasMode m := by
  cases m <;> rfl

theorem newRun_hasKind {request : RunRequest} {k : TaskKind} (h : job.settings.shape.HasKind k) :
    (newRun job id number request).shape.HasKind k := by
  intro k'
  rw [← h k']
  cases k' <;> exact Option.isSome_map ..

/-- The platform puts the parameters of a run together as the handle does. -/
theorem newRun_describes {k : TaskKind} {task : Task k} (h : job.settings.shape.Describes p task)
    (jobId : JobId) (params : k.Overrides) :
    (newRun job id number (.ofOverrides jobId k params)).shape.Describes p
      (task.withOverrides params) := by
  cases h with
  | @notebook t _ _ hTask hPath hNotebook =>
    -- The platform looks at what has been sent, the handle at the parameters themselves.
    have hRun : (newRun job id number (.ofOverrides jobId .notebook params)).shape.notebook =
        some { t with baseParameters := t.baseParameters.merge params } := by
      rw [← merge_getD_filter]
      exact congrArg (Option.map _) hTask
    exact .notebook hRun hPath hNotebook
  | @jar t _ hTask hClass =>
    have hRun : (newRun job id number (.ofOverrides jobId .jar params)).shape.jar =
        some { t with parameters := Task.replaced t.parameters params } := by
      rw [← getD_filter_eq_replaced]
      exact congrArg (Option.map _) hTask
    exact .jar hRun hClass
  | @python t _ hTask hScript =>
    have hRun : (newRun job id number (.ofOverrides jobId .python params)).shape.python =
        some { t with parameters := Task.replaced t.parameters params } := by
      rw [← getD_filter_eq_replaced]
      exact congrArg (Option.map _) hTask
    exact .python hRun hScript
  | @sparkSubmit t own hTask hParameters =>
    -- Here the parameters are optional in the record, and a described task has some.
    have hRun : (newRun job id number (.ofOverrides jobId .sparkSubmit params)).shape.submit =
        some { parameters := some (Task.replaced own params) } := by
      rw [← getD_filter_eq_replaced]
      refine (congrArg (Option.map _) hTask).trans ?_
      rw [Option.map_some, hParameters]
      cases params <;> rfl
    exact .sparkSubmit hRun rfl

/-- The record of a new run describes the job's target, and its task with the parameters of the
run. -/
theorem newRun_fits {v : Variant} {compute : Compute v.mode} {task : Task v.kind}
    (h : job.settings.shape.Fits p v compute task) (jobId : JobId) (params : v.kind.Overrides) :
    (newRun job id number (.ofOverrides jobId v.kind params)).shape.Fits p v compute
      (task.withOverrides params) :=
  ⟨(newRun_hasMode id number).2 h.mode, newRun_hasKind id number h.kind,
    ⟨h.target.cluster, h.target.newCluster⟩, newRun_describes id number h.task jobId params⟩

/-- A new run refers to what its job refers to. -/
theorem newRun_inPlace {request : RunRequest} (h : job.settings.shape.InPlace p) :
    (newRun job id number request).shape.InPlace p := by
  refine ⟨h.cluster, fun t hTask path hPath => ?_, fun t hTask uri hUri => ?_⟩
  · obtain ⟨own, hOwn, rfl⟩ := Option.map_eq_some_iff.1 hTask
    exact h.notebook own hOwn path hPath
  · obtain ⟨own, hOwn, rfl⟩ := Option.map_eq_some_iff.1 hTask
    exact h.script own hOwn uri hUri

end Platform

end SparkFleet
