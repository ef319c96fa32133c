import SparkFleet.Library.Basic
import SparkFleet.Run.Handle

/-!
# Handles on jobs

A handle keeps the record that was read when it was made, and with it where and what the job runs.
Running a job does not change it: a run differs from its job at most in its parameters.
-/

namespace SparkFleet

/-- A handle on a job of a known kind. -/
structure JobOf (v : Variant) where
  /-- The record that was read when the handle was made. -/
  record : JobRecord
  compute : Compute v.mode
  task : Task v.kind
  deriving DecidableEq

namespace JobOf

variable {v : Variant}

/-- The identifier. -/
def id (j : JobOf v) : JobId := j.record.jobId

/-- The name. -/
def name (j : JobOf v) : Option String := j.record.settings.name

/-- The settings as the platform keeps them. -/
def settings (j : JobOf v) : JobSettings := j.record.settings

/-- The libraries of the known kinds. -/
def libraries (j : JobOf v) : List Library := j.settings.libraries.filterMap Library.ofSpec?

/-- When the job was created. -/
def createdAt (j : JobOf v) : Option Int64 := j.record.createdTime.bind dated?

/-- Start a run with parameters that may differ from the job's. -/
def runWith (j : JobOf v) (params : v.kind.Overrides) : Action (RunOf v) :=
  .within .job do
    let started : StartedRun ← .ask (.jobs (.runNow (.ofOverrides j.id v.kind params)))
    let record : RunRecord ← .ask (.jobs (.getRun started.runId))
    return ⟨record, j.compute, j.task.withOverrides params⟩

/-- Start a run with the job's own parameters. -/
def run (j : JobOf v) : Action (RunOf v) := j.runWith v.kind.noOverrides

/-- Delete the job; runs in progress go on. -/
def delete (j : JobOf v) : Action Unit := .within .job (.ask (.jobs (.delete j.id)))

end JobOf

/-- A handle on a job. -/
structure Job where
  variant : Variant
  /-- The handle on a job of that kind. -/
  details : JobOf variant
  deriving DecidableEq

namespace Job

/-- The identifier. -/
def id (j : Job) : JobId := j.details.id

/-- The job that a record describes: its kind is decided, and what it refers to is looked up, the
cluster first. -/
def resolve (record : JobRecord) : Action Job := do
  let shape := record.settings.shape
  match ← .ofExcept (shape.variant .job) with
  | .interactiveNotebook =>
    let compute ← shape.compute .job .interactive
    return ⟨.interactiveNotebook, record, compute, ← shape.task .job .notebook⟩
  | .interactiveJar =>
    let compute ← shape.compute .job .interactive
    return ⟨.interactiveJar, record, compute, ← shape.task .job .jar⟩
  | .interactivePython =>
    let compute ← shape.compute .job .interactive
    return ⟨.interactivePython, record, compute, ← shape.task .job .python⟩
  | .automatedNotebook =>
    let compute ← shape.compute .job .automated
    return ⟨.automatedNotebook, record, compute, ← shape.task .job .notebook⟩
  | .automatedJar =>
    let compute ← shape.compute .job .automated
    return ⟨.automatedJar, record, compute, ← shape.task .job .jar⟩
  | .automatedPython =>
    let compute ← shape.compute .job .automated
    return ⟨.automatedPython, record, compute, ← shape.task .job .python⟩
  | .automatedSparkSubmit =>
    let compute ← shape.compute .job .automated
    return ⟨.automatedSparkSubmit, record, compute, ← shape.task .job .sparkSubmit⟩

/-- A handle on the job of an identifier. -/
def get (id : JobId) : Action Job :=
  .within .job do
    let record : JobRecord ← .ask (.jobs (.get id))
    resolve record

/-- The handle as one of a kind, which must be its own. -/
def expect (j : Job) (v : Variant) : Except Error (JobOf v) :=
  if h : j.variant = v then
    .ok (h ▸ j.details)
  else
    .error (.config .job
      ("job " ++ j.id.text ++ " is " ++ j.variant.text ++ ", expected " ++ v.text))

end Job

end SparkFleet
