import SparkFleet.Instant
import SparkFleet.Job.Shape

/-!
# Handles on runs

A handle keeps the record that was read when it was made, and with it where and what the run runs.
Its state is read again each time it is asked for; target and task stay what they are.
-/

namespace SparkFleet

/-- A handle on a run of a known kind. -/
structure RunOf (v : Variant) where
  /-- The record that was read when the handle was made. -/
  record : RunRecord
  compute : Compute v.mode
  /-- What the run runs, with the parameters that it was started with. -/
  task : Task v.kind
  deriving DecidableEq

namespace RunOf

variable {v : Variant}

/-- The identifier. -/
def id (r : RunOf v) : RunId := r.record.runId

/-- The job that the run is of. -/
def jobId (r : RunOf v) : JobId := r.record.jobId

/-- When the run was started. -/
def startedAt (r : RunOf v) : Option Int64 := r.record.startTime.bind dated?

/-- The record as it is now. -/
def read (r : RunOf v) : Action RunRecord := .within .run (.ask (.jobs (.getRun r.id)))

/-- The state as it is now. -/
def state (r : RunOf v) : Action RunState := do return (← r.read).state

/-- A handle with the record as it is now. -/
def refresh (r : RunOf v) : Action (RunOf v) := do return { r with record := ← r.read }

/-- What an output says that the run returned.  The output of a notebook counts also where an error
is reported with it. -/
def returned (output : RunOutput) : Except Error (Option String) :=
  match output.notebookOutput, output.error with
  | some notebook, _ => .ok notebook.result
  | none, some message => .error (.config .run message)
  | none, none => .ok none

/-- What the run returned, if it returns anything and has done so. -/
def output (r : RunOf v) : Action (Option String) := do
  let output : RunOutput ← .within .run (.ask (.jobs (.getRunOutput r.id)))
  .ofExcept (returned output)

end RunOf

/-- A handle on a run. -/
structure Run where
  variant : Variant
  /-- The handle on a run of that kind. -/
  details : RunOf variant
  deriving DecidableEq

namespace Run

/-- The identifier. -/
def id (r : Run) : RunId := r.details.id

/-- The run that a record describes: every kind of job has its runs, and what they refer to is
looked up as for a job. -/
def resolve (record : RunRecord) : Action Run := do
  let shape := record.shape
  match ← .ofExcept (shape.variant .run) with
  | .interactiveNotebook =>
    let compute ← shape.compute .run .interactive
    return ⟨.interactiveNotebook, record, compute, ← shape.task .run .notebook⟩
  | .interactiveJar =>
    let compute ← shape.compute .run .interactive
    return ⟨.interactiveJar, record, compute, ← shape.task .run .jar⟩
  | .interactivePython =>
    let compute ← shape.compute .run .interactive
    return ⟨.interactivePython, record, compute, ← shape.task .run .python⟩
  | .automatedNotebook =>
    let compute ← shape.compute .run .automated
    return ⟨.automatedNotebook, record, compute, ← shape.task .run .notebook⟩
  | .automatedJar =>
    let compute ← shape.compute .run .automated
    return ⟨.automatedJar, record, compute, ← shape.task .run .jar⟩
  | .automatedPython =>
    let compute ← shape.compute .run .automated
    return ⟨.automatedPython, record, compute, ← shape.task .run .python⟩
  | .automatedSparkSubmit =>
    let compute ← shape.compute .run .automated
    return ⟨.automatedSparkSubmit, record, compute, ← shape.task .run .sparkSubmit⟩

/-- A handle on the run of an identifier. -/
def get (id : RunId) : Action Run :=
  .within .run do
    let record : RunRecord ← .ask (.jobs (.getRun id))
    resolve record

/-- The handle as one of a kind, which must be its own. -/
def expect (r : Run) (v : Variant) : Except Error (RunOf v) :=
  if h : r.variant = v then
    .ok (h ▸ r.details)
  else
    .error (.config .run
      ("run " ++ r.id.text ++ " is " ++ r.variant.text ++ ", expected " ++ v.text))

end Run

end SparkFleet
