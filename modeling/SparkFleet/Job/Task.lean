import SparkFleet.Cluster.Handle
import SparkFleet.FileStore.Transfer
import SparkFleet.Job.Variant
import SparkFleet.Workspace.Notebook

/-!
# Tasks and compute targets

What a job runs and where, with the references looked up: the type of a task is indexed by its
kind and that of a compute target by its mode, so that a job cannot hold the task of another kind.

A run may be started with parameters that differ from the job's: those of a notebook are merged
over the task's own, and for the other kinds they take the place of the task's own.  An empty
override changes nothing and is not sent.
-/

namespace SparkFleet

/-- Where a job of a mode runs. -/
inductive Compute : Mode → Type where
  | existing (cluster : Cluster) : Compute .interactive
  /-- On a cluster of this specification, created for each run. -/
  | fresh (spec : ClusterSpec) : Compute .automated
  deriving DecidableEq

namespace Compute

variable {m : Mode}

/-- The cluster that exists. -/
def cluster : Compute m → Option Cluster
  | .existing cluster => some cluster
  | .fresh _ => none

/-- The specification of the cluster that is created for each run. -/
def newCluster : Compute m → Option ClusterSpec
  | .existing _ => none
  | .fresh spec => some spec

/-- Settings with this compute target. -/
def apply (settings : JobSettings) : Compute m → JobSettings
  | .existing cluster => { settings with existingClusterId := some cluster.id }
  | .fresh spec => { settings with newCluster := some spec }

end Compute

/-- A task of a kind. -/
inductive Task : TaskKind → Type where
  /-- A notebook and the parameters of every run. -/
  | notebook (notebook : Notebook) (baseParameters : TextMap) : Task .notebook
  /-- A class, its arguments, and the archive that holds it, if the job brings it along. -/
  | jar (uri : Option String) (mainClass : String) (parameters : List String) : Task .jar
  /-- The address of a script and its arguments. -/
  | python (script : String) (parameters : List String) : Task .python
  | sparkSubmit (parameters : List String) : Task .sparkSubmit
  deriving DecidableEq

/-- The parameters with which a run of a kind of task may differ from its job. -/
@[reducible] def TaskKind.Overrides : TaskKind → Type
  | .notebook => TextMap
  | .jar | .python | .sparkSubmit => List String

/-- Parameters that do not differ. -/
def TaskKind.noOverrides : (k : TaskKind) → k.Overrides
  | .notebook => .empty
  | .jar | .python | .sparkSubmit => []

/-- The request for a run with some parameters. -/
def RunRequest.ofOverrides (job : JobId) : (k : TaskKind) → k.Overrides → RunRequest
  | .notebook, params => { jobId := job, notebookParams := some params |>.filter (!·.isEmpty) }
  | .jar, params => { jobId := job, jarParams := some params |>.filter (!·.isEmpty) }
  | .python, params => { jobId := job, pythonParams := some params |>.filter (!·.isEmpty) }
  | .sparkSubmit, params =>
    { jobId := job, sparkSubmitParams := some params |>.filter (!·.isEmpty) }

namespace Task

variable {k : TaskKind}

/-- Arguments in the place of others, unless there are none. -/
def replaced (own params : List String) : List String := if params.isEmpty then own else params

/-- The task of a run that was started with some parameters. -/
def withOverrides : {k : TaskKind} → Task k → k.Overrides → Task k
  | _, .notebook n base, params => .notebook n (base.merge params)
  | _, .jar uri mainClass own, params => .jar uri mainClass (replaced own params)
  | _, .python script own, params => .python script (replaced own params)
  | _, .sparkSubmit own, params => .sparkSubmit (replaced own params)

/-- A notebook with these parameters; another task as it is. -/
def withBaseParameters (t : Task k) (parameters : TextMap) : Task k :=
  match t with
  | .notebook n _ => .notebook n parameters
  | t => t

/-- A notebook with one more parameter; another task as it is. -/
def withBaseParameter (t : Task k) (key value : String) : Task k :=
  match t with
  | .notebook n base => .notebook n (base.insert key value)
  | t => t

/-- A task with these arguments; a notebook as it is. -/
def withParameters (t : Task k) (parameters : List String) : Task k :=
  match t with
  | .notebook n base => .notebook n base
  | .jar uri mainClass _ => .jar uri mainClass parameters
  | .python script _ => .python script parameters
  | .sparkSubmit _ => .sparkSubmit parameters

/-! ### Settings -/

/-- The archive of a jar task as a library. -/
def jarSpec (uri : String) : LibrarySpec := { jar := some uri }

/-- Libraries with an archive in front: where a job is read, the first archive is taken for that
of its task. -/
def withJarFirst (libraries : List LibrarySpec) (uri : String) : List LibrarySpec :=
  jarSpec uri :: libraries.filter (· ≠ jarSpec uri)

/-- Settings with this task. -/
def apply (settings : JobSettings) : Task k → JobSettings
  | .notebook n base => { settings with notebookTask := some ⟨some n.path, base⟩ }
  | .jar uri mainClass parameters =>
    { settings with
      sparkJarTask := some ⟨some mainClass, parameters⟩
      libraries := uri.elim settings.libraries (withJarFirst settings.libraries) }
  | .python script parameters => { settings with sparkPythonTask := some ⟨some script, parameters⟩ }
  | .sparkSubmit parameters => { settings with sparkSubmitTask := some ⟨some parameters⟩ }

/-- Refuse a task that cannot be run, before anything is sent. -/
def validate : Task k → Except Error Unit
  | .notebook _ _ => .ok ()
  | .jar uri mainClass _ =>
    if Text.isBlank mainClass then
      .error (.missingField .job "spark_jar_task.main_class_name")
    else if uri.any Text.isBlank then
      .error (.config .job "jar URI is empty")
    else
      .ok ()
  | .python script _ =>
    if Text.isBlank script then
      .error (.missingField .job "spark_python_task.python_file")
    else
      .ok ()
  | .sparkSubmit parameters =>
    if parameters.isEmpty then
      .error (.missingField .job "spark_submit_task.parameters")
    else
      .ok ()

/-- Where a local file that belongs to the task is uploaded. -/
def uploadTarget : Task k → Option String
  | .jar uri _ _ => uri
  | .python script _ => some script
  | .notebook _ _ | .sparkSubmit _ => none

/-- Check what the task needs before its job is created: a script must be there. -/
def check : Task k → Action Unit
  | .python script _ => FileStore.checkScript script
  | .notebook _ _ | .jar _ _ _ | .sparkSubmit _ => return ()

end Task

end SparkFleet
