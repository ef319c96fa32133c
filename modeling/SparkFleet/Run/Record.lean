import SparkFleet.Job.Record

/-!
# Run records

What the platform reports about a run of a job.  Its target and task have the fields of the job's
settings, arranged in two records of their own.
-/

namespace SparkFleet

open Wire

/-- How far a run has come. -/
inductive RunLifeCycle where
  | pending
  | running
  /-- The task has ended and the run is cleaned up. -/
  | terminating
  | terminated
  | skipped
  | internalError
  /-- A state of a name that is not known. -/
  | unknown
  deriving DecidableEq, Inhabited

namespace RunLifeCycle

/-- The name of a state. -/
def name : RunLifeCycle → String
  | .pending => "PENDING"
  | .running => "RUNNING"
  | .terminating => "TERMINATING"
  | .terminated => "TERMINATED"
  | .skipped => "SKIPPED"
  | .internalError => "INTERNAL_ERROR"
  | .unknown => "UNKNOWN"

/-- Every state. -/
def all : List RunLifeCycle :=
  [.pending, .running, .terminating, .terminated, .skipped, .internalError, .unknown]

/-- A state is written as its name. -/
def codec : Codec RunLifeCycle := .enumeration (all.map fun s => (s.name, s)) (some .unknown) name

/-- Whether the run stays in this state. -/
def isTerminal : RunLifeCycle → Bool
  | .terminated | .skipped | .internalError => true
  | .pending | .running | .terminating | .unknown => false

end RunLifeCycle

/-- How a run ended. -/
inductive RunResult where
  | success
  | failed
  | timedout
  | canceled
  /-- A result of a name that is not known. -/
  | unknown
  deriving DecidableEq, Inhabited

namespace RunResult

/-- The name of a result. -/
def name : RunResult → String
  | .success => "SUCCESS"
  | .failed => "FAILED"
  | .timedout => "TIMEDOUT"
  | .canceled => "CANCELED"
  | .unknown => "UNKNOWN"

/-- Every result. -/
def all : List RunResult := [.success, .failed, .timedout, .canceled, .unknown]

/-- A result is written as its name. -/
def codec : Codec RunResult := .enumeration (all.map fun s => (s.name, s)) (some .unknown) name

end RunResult

/-- The state of a run. -/
structure RunState where
  lifeCycleState : RunLifeCycle := .unknown
  resultState : Option RunResult := none
  stateMessage : Option String := none
  deriving DecidableEq

/-- A run's state is written with every field. -/
def RunState.codec : Codec RunState :=
  .record RunState.mk <|
    .field "life_cycle_state" lifeCycleState RunLifeCycle.codec (.defaultsTo .unknown) <|
    .field "result_state" resultState (.option RunResult.codec) (.defaultsTo none) <|
    .field "state_message" stateMessage (.option .text) (.defaultsTo none) .done

/-- The compute target and the libraries of a run. -/
structure RunTarget where
  existingClusterId : Option ClusterId := none
  /-- The cluster that is created for the run. -/
  newCluster : Option ClusterSpec := none
  libraries : List LibrarySpec := []
  deriving DecidableEq

/-- A run's target is written with the fields that are set. -/
def RunTarget.codec : Codec RunTarget :=
  .record RunTarget.mk <|
    .field "existing_cluster_id" existingClusterId (.option ClusterId.codec) .whenSome <|
    .field "new_cluster" newCluster (.option ClusterSpec.codec) .whenSome <|
    .field "libraries" libraries (.list LibrarySpec.codec) .whenFilled .done

/-- The cluster on which a run took place. -/
structure ClusterInstance where
  clusterId : Option ClusterId := none
  sparkContextId : Option String := none
  deriving DecidableEq

/-- A cluster instance is written with every field. -/
def ClusterInstance.codec : Codec ClusterInstance :=
  .record ClusterInstance.mk <|
    .field "cluster_id" clusterId (.option ClusterId.codec) (.defaultsTo none) <|
    .field "spark_context_id" sparkContextId (.option .text) (.defaultsTo none) .done

/-- The task of a run. -/
structure RunTask where
  notebookTask : Option NotebookTaskSettings := none
  sparkJarTask : Option JarTaskSettings := none
  sparkPythonTask : Option PythonTaskSettings := none
  sparkSubmitTask : Option SubmitTaskSettings := none
  deriving DecidableEq

/-- A run's task is written with the field that is set. -/
def RunTask.codec : Codec RunTask :=
  .record RunTask.mk <|
    .field "notebook_task" notebookTask (.option NotebookTaskSettings.codec) .whenSome <|
    .field "spark_jar_task" sparkJarTask (.option JarTaskSettings.codec) .whenSome <|
    .field "spark_python_task" sparkPythonTask (.option PythonTaskSettings.codec) .whenSome <|
    .field "spark_submit_task" sparkSubmitTask (.option SubmitTaskSettings.codec) .whenSome .done

/-- What the platform reports about a run. -/
structure RunRecord where
  jobId : JobId
  runId : RunId
  numberInJob : Option Int64 := none
  creatorUserName : Option String := none
  clusterSpec : RunTarget := {}
  /-- The cluster on which the run took place. -/
  clusterInstance : Option ClusterInstance := none
  task : RunTask := {}
  state : RunState := {}
  /-- When the run was started, in milliseconds. -/
  startTime : Option Int64 := none
  setupDuration : Option Int64 := none
  executionDuration : Option Int64 := none
  cleanupDuration : Option Int64 := none
  trigger : Option String := none
  runPageUrl : Option String := none
  deriving DecidableEq

/-- A run record is written with every field. -/
def RunRecord.codec : Codec RunRecord :=
  .record RunRecord.mk <|
    .field "job_id" jobId JobId.codec .required <|
    .field "run_id" runId RunId.codec .required <|
    .field "number_in_job" numberInJob (.option int64) (.defaultsTo none) <|
    .field "creator_user_name" creatorUserName (.option .text) (.defaultsTo none) <|
    .field "cluster_spec" clusterSpec RunTarget.codec (.defaultsTo {}) <|
    .field "cluster_instance" clusterInstance (.option ClusterInstance.codec) (.defaultsTo none) <|
    .field "task" task RunTask.codec (.defaultsTo {}) <|
    .field "state" state RunState.codec (.defaultsTo {}) <|
    .field "start_time" startTime (.option int64) (.defaultsTo none) <|
    .field "setup_duration" setupDuration (.option int64) (.defaultsTo none) <|
    .field "execution_duration" executionDuration (.option int64) (.defaultsTo none) <|
    .field "cleanup_duration" cleanupDuration (.option int64) (.defaultsTo none) <|
    .field "trigger" trigger (.option .text) (.defaultsTo none) <|
    .field "run_page_url" runPageUrl (.option .text) (.defaultsTo none) .done

/-- What a notebook returned. -/
structure NotebookOutput where
  /-- The value, once there is one. -/
  result : Option String := none
  truncated : Bool := false
  deriving DecidableEq

/-- A notebook's output is written with every field. -/
def NotebookOutput.codec : Codec NotebookOutput :=
  .record NotebookOutput.mk <|
    .field "result" result (.option .text) (.defaultsTo none) <|
    .field "truncated" truncated .flag (.defaultsTo false) .done

/-- What came out of a run. -/
structure RunOutput where
  notebookOutput : Option NotebookOutput := none
  error : Option String := none
  errorTrace : Option String := none
  metadata : Option RunRecord := none
  deriving DecidableEq

/-- A run's output is written with every field. -/
def RunOutput.codec : Codec RunOutput :=
  .record RunOutput.mk <|
    .field "notebook_output" notebookOutput (.option NotebookOutput.codec) (.defaultsTo none) <|
    .field "error" error (.option .text) (.defaultsTo none) <|
    .field "error_trace" errorTrace (.option .text) (.defaultsTo none) <|
    .field "metadata" metadata (.option RunRecord.codec) (.defaultsTo none) .done

end SparkFleet
