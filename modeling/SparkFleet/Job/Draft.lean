import SparkFleet.Job.Handle

/-!
# Drafts of jobs

A draft collects what a new job is to be like.  Nothing is sent until the job is created.  Then a
local file that belongs to the task is uploaded, the job is created, and it is read back and
resolved, so that a new job and one that is fetched are the same.  A job that is created but cannot
be resolved is deleted again.
-/

namespace SparkFleet

/-- What a new job of a kind is to be like. -/
structure JobDraft (v : Variant) where
  task : Task v.kind
  /-- Where it runs, once that has been chosen. -/
  compute : Option (Compute v.mode) := none
  /-- The other settings that have been chosen so far. -/
  settings : JobSettings := {}
  libraries : List Library := []
  /-- The local file that is uploaded for the task. -/
  upload : Option String := none

namespace JobDraft

variable {v : Variant}

/-! ### Choices -/

/-- Choose where the job runs. -/
def withCompute (d : JobDraft v) (compute : Compute v.mode) : JobDraft v :=
  { d with compute := some compute }

/-- Choose the name. -/
def withName (d : JobDraft v) (name : String) : JobDraft v :=
  { d with settings := { d.settings with name := some name } }

/-- Add libraries. -/
def withLibraries (d : JobDraft v) (libraries : List Library) : JobDraft v :=
  { d with libraries := d.libraries ++ libraries }

/-- Choose how long a run may take. -/
def withTimeout (d : JobDraft v) (seconds : UInt32) : JobDraft v :=
  { d with settings := { d.settings with timeoutSeconds := some seconds } }

/-- Choose how often a failed run is repeated. -/
def withMaxRetries (d : JobDraft v) (retries : Int32) : JobDraft v :=
  { d with settings := { d.settings with maxRetries := some retries } }

/-- Choose the least time between a failure and its repetition. -/
def withMinRetryInterval (d : JobDraft v) (millis : UInt32) : JobDraft v :=
  { d with settings := { d.settings with minRetryIntervalMillis := some millis } }

/-- Choose whether a run that took too long is repeated. -/
def withRetryOnTimeout (d : JobDraft v) (retry : Bool) : JobDraft v :=
  { d with settings := { d.settings with retryOnTimeout := some retry } }

/-- Choose when the job runs by itself. -/
def withSchedule (d : JobDraft v) (schedule : CronSchedule) : JobDraft v :=
  { d with settings := { d.settings with schedule := some schedule } }

/-- Choose how many runs there may be at once. -/
def withMaxConcurrentRuns (d : JobDraft v) (runs : UInt32) : JobDraft v :=
  { d with settings := { d.settings with maxConcurrentRuns := some runs } }

/-- Choose the local file that is uploaded for the task: an archive or a script.  Other tasks have
none. -/
def withUpload (d : JobDraft v) (file : String) : JobDraft v :=
  match v.kind with
  | .jar | .python => { d with upload := some file }
  | .notebook | .sparkSubmit => d

/-- Choose the parameters of a notebook; other tasks have none. -/
def withBaseParameters (d : JobDraft v) (parameters : TextMap) : JobDraft v :=
  { d with task := d.task.withBaseParameters parameters }

/-- Add a parameter of a notebook; other tasks have none. -/
def withBaseParameter (d : JobDraft v) (key value : String) : JobDraft v :=
  { d with task := d.task.withBaseParameter key value }

/-- Choose the arguments of a task that is not a notebook. -/
def withParameters (d : JobDraft v) (parameters : List String) : JobDraft v :=
  { d with task := d.task.withParameters parameters }

/-! ### Creation -/

/-- The settings that are sent where the job is created. -/
def buildSettings (d : JobDraft v) : Except Error JobSettings :=
  match d.compute with
  | none => .error (.missingField .job "new_cluster")
  | some compute => do
    d.task.validate
    let settings := { d.settings with libraries := d.libraries.map Library.toSpec }
    return d.task.apply (compute.apply settings)

/-- Upload the local file to where the task expects it, which must be in the file store. -/
def sendUpload (d : JobDraft v) : Action Unit := do
  match d.upload with
  | none => return ()
  | some file =>
    match d.task.uploadTarget with
    | none => throw (.config .job "task has no upload target")
    | some target =>
      if (FileStore.stripScheme? target).isNone then
        throw (.config .job ("cannot upload " ++ file ++ " to " ++ target ++
          ": only dbfs: targets are supported"))
      FileStore.putFile file target true

/-- Read a new job back; one that cannot be resolved is deleted again, whatever comes of that. -/
def readBack (v : Variant) (id : JobId) : Action (JobOf v) := do
  match ← Action.attempt (Job.get id >>= fun job => .ofExcept (job.expect v)) with
  | .ok job => return job
  | .error e =>
    -- The error that is reported is the one that made the job useless.
    let _ ← Action.tryAsk (.jobs (.delete id))
    throw e

/-- Create the job. -/
def create (d : JobDraft v) : Action (JobOf v) :=
  .within .job do
    -- Nothing is sent for a draft that is refused.
    let settings ← .ofExcept d.buildSettings
    d.sendUpload
    d.task.check
    let id : JobId ← .ask (.jobs (.create settings))
    readBack v id

end JobDraft

end SparkFleet
