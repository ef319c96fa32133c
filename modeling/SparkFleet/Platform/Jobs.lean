import SparkFleet.Platform.State

/-!
# Jobs and runs on the platform

A job is kept as it was given.  A run takes the job's settings of the moment with the parameters of
its request; it ends by itself, with success, after a number of reads.
-/

namespace SparkFleet

/-- The task of a run: that of the settings, with the parameters of the request.  Parameters of a
notebook are merged over its own, and others take the place of the task's own. -/
def RunTask.ofRequest (settings : JobSettings) (request : RunRequest) : RunTask where
  notebookTask := settings.notebookTask.map fun t =>
    { t with baseParameters := t.baseParameters.merge (request.notebookParams.getD .empty) }
  sparkJarTask := settings.sparkJarTask.map fun t =>
    { t with parameters := request.jarParams.getD t.parameters }
  sparkPythonTask := settings.sparkPythonTask.map fun t =>
    { t with parameters := request.pythonParams.getD t.parameters }
  sparkSubmitTask := settings.sparkSubmitTask.map fun t =>
    { parameters := request.sparkSubmitParams <|> t.parameters }

/-- The compute target and the libraries of a run: those of the settings. -/
def RunTarget.ofSettings (settings : JobSettings) : RunTarget :=
  ⟨settings.existingClusterId, settings.newCluster, settings.libraries⟩

namespace Platform

/-- The job of an identifier. -/
def findJob (p : Platform) (id : JobId) : Except ApiError JobRecord :=
  match p.jobs.get? id with
  | some record => .ok record
  | none => .error (notFound ("Job " ++ id.text ++ " does not exist."))

/-- The run of an identifier. -/
def findRun (p : Platform) (id : RunId) : Except ApiError RunEntry :=
  match p.runs.get? id with
  | some entry => .ok entry
  | none => .error (notFound ("Run " ++ id.text ++ " does not exist."))

/-- The identifier of the next new job. -/
def nextJobId (p : Platform) : JobId := ⟨.ofNat p.nextNumber⟩

/-- The identifier of the next new run. -/
def nextRunId (p : Platform) : RunId := ⟨.ofNat p.nextNumber⟩

/-- Create a job. -/
def createJob (p : Platform) (settings : JobSettings) : JobId × Platform :=
  let id := p.nextJobId
  let record : JobRecord := ⟨id, settings, some "mock@example.com", none⟩
  (id, { p.withNextNumber with jobs := p.jobs.insert id record })

/-- Delete a job; its runs stay. -/
def deleteJob (p : Platform) (id : JobId) : Except ApiError (Unit × Platform) := do
  let _ ← p.findJob id
  return ((), { p with jobs := p.jobs.erase id })

/-- The runs of a job. -/
def runsOf (p : Platform) (id : JobId) : List RunEntry :=
  p.runs.values.filter fun entry => entry.record.jobId = id

/-- The record of a new run, which is the job's run of a number. -/
def newRun (job : JobRecord) (id : RunId) (number : Nat) (request : RunRequest) : RunRecord where
  jobId := request.jobId
  runId := id
  numberInJob := some (.ofNat number)
  creatorUserName := job.creatorUserName
  clusterSpec := .ofSettings job.settings
  clusterInstance := job.settings.existingClusterId.map fun cluster => ⟨some cluster, none⟩
  task := .ofRequest job.settings request
  state := ⟨.pending, none, some "Waiting for cluster"⟩
  trigger := some "ONE_TIME"
  runPageUrl := some ("https://mock.example.com/#job/" ++ request.jobId.text ++ "/run/" ++
    toString number)

/-- Start a run of a job: the runs of a job are numbered from one. -/
def startRun (p : Platform) (request : RunRequest) : Except ApiError (StartedRun × Platform) := do
  let job ← p.findJob request.jobId
  let number := (p.runsOf request.jobId).length + 1
  let id := p.nextRunId
  let entry : RunEntry := ⟨newRun job id number request, {}, p.settleReads⟩
  return (⟨id, some (.ofNat number)⟩, { p.withNextNumber with runs := p.runs.insert id entry })

/-- The effect of one read on a run: a run that has not ended comes nearer to its end. -/
def observeRun (entry : RunEntry) : RunEntry :=
  if entry.record.state.lifeCycleState.isTerminal then
    entry
  else
    match entry.readsLeft with
    | 0 =>
      { entry with record := { entry.record with state := ⟨.terminated, some .success, none⟩ } }
    | reads + 1 => { entry with readsLeft := reads }

/-- Read a run. -/
def readRun (p : Platform) (id : RunId) : Except ApiError (RunRecord × Platform) := do
  let entry := observeRun (← p.findRun id)
  return (entry.record, { p with runs := p.runs.insert id entry })

/-- Read what came out of a run. -/
def readOutput (p : Platform) (id : RunId) : Except ApiError (RunOutput × Platform) := do
  let entry ← p.findRun id
  return ({ entry.output with metadata := some entry.record }, p)

/-- Do what a call about jobs asks for. -/
def performJobs (p : Platform) : (c : JobCall) → Except ApiError (c.Answer × Platform)
  | .create settings => .ok (p.createJob settings)
  | .get id => (p.findJob id).map (·, p)
  | .runNow request => p.startRun request
  | .getRun id => p.readRun id
  | .getRunOutput id => p.readOutput id
  | .delete id => p.deleteJob id

end Platform

end SparkFleet
