import SparkFleet.Cluster.Record
import SparkFleet.Library.Record

/-!
# Job records

A job's settings say which of several kinds of job they describe only by the fields that are set:
one of two compute targets and one of four tasks.
-/

namespace SparkFleet

open Wire

/-- A notebook to be run. -/
structure NotebookTaskSettings where
  notebookPath : Option String := none
  baseParameters : TextMap := .empty
  deriving DecidableEq

/-- A notebook task is written with the fields that are set. -/
def NotebookTaskSettings.codec : Codec NotebookTaskSettings :=
  .record NotebookTaskSettings.mk <|
    .field "notebook_path" notebookPath (.option .text) .whenSome <|
    .field "base_parameters" baseParameters .textMap .whenMapFilled .done

/-- A class of a Java archive to be run. -/
structure JarTaskSettings where
  mainClassName : Option String := none
  parameters : List String := []
  deriving DecidableEq

/-- A jar task is written with the fields that are set. -/
def JarTaskSettings.codec : Codec JarTaskSettings :=
  .record JarTaskSettings.mk <|
    .field "main_class_name" mainClassName (.option .text) .whenSome <|
    .field "parameters" parameters (.list .text) .whenFilled .done

/-- A Python script to be run. -/
structure PythonTaskSettings where
  pythonFile : Option String := none
  parameters : List String := []
  deriving DecidableEq

/-- A Python task is written with the fields that are set. -/
def PythonTaskSettings.codec : Codec PythonTaskSettings :=
  .record PythonTaskSettings.mk <|
    .field "python_file" pythonFile (.option .text) .whenSome <|
    .field "parameters" parameters (.list .text) .whenFilled .done

/-- A command line of spark-submit. -/
structure SubmitTaskSettings where
  parameters : Option (List String) := none
  deriving DecidableEq

/-- A spark-submit task is written with its arguments, if they are set. -/
def SubmitTaskSettings.codec : Codec SubmitTaskSettings :=
  .record SubmitTaskSettings.mk <|
    .field "parameters" parameters (.option (.list .text)) .whenSome .done

/-- When a job runs by itself. -/
structure CronSchedule where
  quartzCronExpression : String
  timezoneId : String
  deriving DecidableEq

/-- A schedule is written with every field. -/
def CronSchedule.codec : Codec CronSchedule :=
  .record CronSchedule.mk <|
    .field "quartz_cron_expression" quartzCronExpression .text .required <|
    .field "timezone_id" timezoneId .text .required .done

/-- The settings of a job. -/
structure JobSettings where
  name : Option String := none
  existingClusterId : Option ClusterId := none
  /-- The cluster that is created for each run. -/
  newCluster : Option ClusterSpec := none
  notebookTask : Option NotebookTaskSettings := none
  sparkJarTask : Option JarTaskSettings := none
  sparkPythonTask : Option PythonTaskSettings := none
  sparkSubmitTask : Option SubmitTaskSettings := none
  libraries : List LibrarySpec := []
  timeoutSeconds : Option UInt32 := none
  /-- How often a failed run is repeated; any number if negative. -/
  maxRetries : Option Int32 := none
  /-- The least time between a failure and its repetition. -/
  minRetryIntervalMillis : Option UInt32 := none
  /-- Whether a run that took too long is repeated. -/
  retryOnTimeout : Option Bool := none
  schedule : Option CronSchedule := none
  /-- How many runs there may be at once. -/
  maxConcurrentRuns : Option UInt32 := none
  deriving DecidableEq

/-- Settings are written with the fields that are set. -/
def JobSettings.codec : Codec JobSettings :=
  .record JobSettings.mk <|
    .field "name" name (.option .text) .whenSome <|
    .field "existing_cluster_id" existingClusterId (.option ClusterId.codec) .whenSome <|
    .field "new_cluster" newCluster (.option ClusterSpec.codec) .whenSome <|
    .field "notebook_task" notebookTask (.option NotebookTaskSettings.codec) .whenSome <|
    .field "spark_jar_task" sparkJarTask (.option JarTaskSettings.codec) .whenSome <|
    .field "spark_python_task" sparkPythonTask (.option PythonTaskSettings.codec) .whenSome <|
    .field "spark_submit_task" sparkSubmitTask (.option SubmitTaskSettings.codec) .whenSome <|
    .field "libraries" libraries (.list LibrarySpec.codec) .whenFilled <|
    .field "timeout_seconds" timeoutSeconds (.option uint32) .whenSome <|
    .field "max_retries" maxRetries (.option int32) .whenSome <|
    .field "min_retry_interval_millis" minRetryIntervalMillis (.option uint32) .whenSome <|
    .field "retry_on_timeout" retryOnTimeout (.option .flag) .whenSome <|
    .field "schedule" schedule (.option CronSchedule.codec) .whenSome <|
    .field "max_concurrent_runs" maxConcurrentRuns (.option uint32) .whenSome .done

/-- What the platform reports about a job. -/
structure JobRecord where
  jobId : JobId
  settings : JobSettings := {}
  creatorUserName : Option String := none
  /-- When the job was created, in milliseconds. -/
  createdTime : Option Int64 := none
  deriving DecidableEq

/-- A job record is written with every field. -/
def JobRecord.codec : Codec JobRecord :=
  .record JobRecord.mk <|
    .field "job_id" jobId JobId.codec .required <|
    .field "settings" settings JobSettings.codec (.defaultsTo {}) <|
    .field "creator_user_name" creatorUserName (.option .text) (.defaultsTo none) <|
    .field "created_time" createdTime (.option int64) (.defaultsTo none) .done

/-- A record that names a job: the body of a request about it, and the answer where one is
created. -/
def JobId.recordCodec : Codec JobId := wrapped "job_id" JobId.codec

/-- A request to run a job, with the parameters that differ from its settings. -/
structure RunRequest where
  jobId : JobId
  jarParams : Option (List String) := none
  notebookParams : Option TextMap := none
  pythonParams : Option (List String) := none
  sparkSubmitParams : Option (List String) := none
  deriving DecidableEq

/-- A run request is written with the parameters that are set. -/
def RunRequest.codec : Codec RunRequest :=
  .record RunRequest.mk <|
    .field "job_id" jobId JobId.codec .required <|
    .field "jar_params" jarParams (.option (.list .text)) .whenSome <|
    .field "notebook_params" notebookParams (.option .textMap) .whenSome <|
    .field "python_params" pythonParams (.option (.list .text)) .whenSome <|
    .field "spark_submit_params" sparkSubmitParams (.option (.list .text)) .whenSome .done

/-- The answer to a run request. -/
structure StartedRun where
  runId : RunId
  numberInJob : Option Int64 := none
  deriving DecidableEq

/-- A started run is written with every field. -/
def StartedRun.codec : Codec StartedRun :=
  .record StartedRun.mk <|
    .field "run_id" runId RunId.codec .required <|
    .field "number_in_job" numberInJob (.option int64) (.defaultsTo none) .done

end SparkFleet
