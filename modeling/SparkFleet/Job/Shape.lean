import SparkFleet.Job.Task
import SparkFleet.Run.Record

/-!
# What a record describes

The settings of a job and the record of a run have the same fields in different places.  A `Shape`
holds just these fields.  Which kind of job it is of is decided by which of them are set, before
anything is looked up.  The parts of a job or run of that kind are then resolved one by one, and
what they refer to must be there.
-/

namespace SparkFleet

/-- The fields that say where and what a job or run runs. -/
structure Shape where
  existingCluster : Option ClusterId
  /-- The cluster that is created for each run. -/
  newCluster : Option ClusterSpec
  notebook : Option NotebookTaskSettings
  jar : Option JarTaskSettings
  python : Option PythonTaskSettings
  submit : Option SubmitTaskSettings
  libraries : List LibrarySpec
  deriving DecidableEq

/-- What job settings describe. -/
def JobSettings.shape (s : JobSettings) : Shape :=
  ⟨s.existingClusterId, s.newCluster, s.notebookTask, s.sparkJarTask, s.sparkPythonTask,
    s.sparkSubmitTask, s.libraries⟩

/-- What a run record describes. -/
def RunRecord.shape (r : RunRecord) : Shape :=
  ⟨r.clusterSpec.existingClusterId, r.clusterSpec.newCluster, r.task.notebookTask,
    r.task.sparkJarTask, r.task.sparkPythonTask, r.task.sparkSubmitTask, r.clusterSpec.libraries⟩

namespace Shape

/-! ### Kinds -/

/-- Where it runs: one of the two targets must be set. -/
def mode (s : Shape) (f : Family) : Except Error Mode :=
  match s.existingCluster, s.newCluster with
  | some _, none => .ok .interactive
  | none, some _ => .ok .automated
  | some _, some _ =>
    .error (.unsupportedType f "both existing_cluster_id and new_cluster are set")
  | none, none =>
    .error (.unsupportedType f "neither existing_cluster_id nor new_cluster is set")

/-- Whether the task of a kind is set. -/
def has (s : Shape) : TaskKind → Bool
  | .notebook => s.notebook.isSome
  | .jar => s.jar.isSome
  | .python => s.python.isSome
  | .sparkSubmit => s.submit.isSome

/-- The kinds whose task is set. -/
def kinds (s : Shape) : List TaskKind := TaskKind.all.filter s.has

/-- What it runs: one of the four tasks must be set. -/
def kind (s : Shape) (f : Family) : Except Error TaskKind :=
  match s.kinds with
  | [kind] => .ok kind
  | [] => .error (.unsupportedType f "no task is set")
  | several =>
    .error (.unsupportedType f
      ("several tasks are set: [" ++ ", ".intercalate (several.map TaskKind.debug) ++ "]"))

/-- The kind of job. -/
def variant (s : Shape) (f : Family) : Except Error Variant := do
  let mode ← s.mode f
  let kind ← s.kind f
  match Variant.of? mode kind with
  | some v => return v
  | none => throw (.unsupportedType f (mode.debug ++ " mode with " ++ kind.debug ++ " task"))

/-! ### References -/

/-- A field that must be set. -/
def need {β : Type} (f : Family) (field : String) : Option β → Action β
  | some value => return value
  | none => throw (.missingField f field)

/-- The compute target of a mode, its cluster looked up. -/
def compute (s : Shape) (f : Family) : (m : Mode) → Action (Compute m)
  | .interactive => do
    let id ← need f "existing_cluster_id" s.existingCluster
    return .existing (← Cluster.get id)
  | .automated => do return .fresh (← need f "new_cluster" s.newCluster)

/-- The task of a kind, its notebook or script looked up. -/
def task (s : Shape) (f : Family) : (k : TaskKind) → Action (Task k)
  | .notebook => do
    let settings ← need f "notebook_task" s.notebook
    let path ← need f "notebook_task.notebook_path" settings.notebookPath
    return .notebook (← Notebook.get path) settings.baseParameters
  | .jar => do
    let settings ← need f "spark_jar_task" s.jar
    let mainClass ← need f "spark_jar_task.main_class_name" settings.mainClassName
    return .jar (s.libraries.findSome? LibrarySpec.jar) mainClass settings.parameters
  | .python => do
    let settings ← need f "spark_python_task" s.python
    let script ← need f "spark_python_task.python_file" settings.pythonFile
    FileStore.checkScript script
    return .python script settings.parameters
  | .sparkSubmit => do
    let settings ← need f "spark_submit_task" s.submit
    return .sparkSubmit (← need f "spark_submit_task.parameters" settings.parameters)

end Shape

end SparkFleet
