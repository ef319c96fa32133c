import SparkFleet.Platform.Serve

/-!
# Controlling the platform

What is done to the platform from outside, where it stands in for a real one: resources are put in
place as they are, changes are brought to their end, and failures are switched on and off.  None of
this counts as a call.
-/

namespace SparkFleet.Platform

/-- The platform where changes show for so many reads from now on. -/
def withSettleReads (p : Platform) (reads : Nat) : Platform := { p with settleReads := reads }

/-- Refuse all calls of an endpoint with a status. -/
def injectFailure (p : Platform) (endpoint : String) (code : UInt16) : Platform :=
  { p with failures := p.failures.insert endpoint code }

/-- Serve the calls of an endpoint again. -/
def clearFailure (p : Platform) (endpoint : String) : Platform :=
  { p with failures := p.failures.erase endpoint }

/-! ### Clusters -/

/-- The record of a cluster. -/
def clusterRecord? (p : Platform) (id : ClusterId) : Option ClusterRecord :=
  (p.clusters.get? id).map (·.record)

/-- Put a cluster in place as it is. -/
def putCluster (p : Platform) (record : ClusterRecord) : Platform :=
  p.setCluster record.clusterId ⟨record, none⟩

/-- Add a running cluster of a fixed size. -/
def addRunningCluster (p : Platform) (name : String) (workers : UInt32) : ClusterId × Platform :=
  let id := p.nextClusterId
  let record : ClusterRecord :=
    { ClusterRecord.new id with
      clusterName := some name
      sparkVersion := some firstSparkVersion
      nodeTypeId := some firstNodeType
      numWorkers := some workers }
  (id, p.withNextNumber.setCluster id ⟨record.inState .running, none⟩)

/-- Let a cluster fail. -/
def failCluster (p : Platform) (id : ClusterId) : Platform :=
  match p.clusters.get? id with
  | some entry => p.setCluster id ⟨entry.record.inState .error, none⟩
  | none => p

/-! ### Jobs and runs -/

/-- The record of a job. -/
def jobRecord? (p : Platform) (id : JobId) : Option JobRecord := p.jobs.get? id

/-- The number of jobs. -/
def jobCount (p : Platform) : Nat := p.jobs.size

/-- The record of a run. -/
def runRecord? (p : Platform) (id : RunId) : Option RunRecord := (p.runs.get? id).map (·.record)

/-- Put a run in place as it is. -/
def putRun (p : Platform) (record : RunRecord) : Platform :=
  { p with runs := p.runs.insert record.runId ⟨record, {}, p.settleReads⟩ }

/-- Say what comes out of a run. -/
def setRunOutput (p : Platform) (id : RunId) (output : RunOutput) : Platform :=
  { p with runs := p.runs.modify id fun entry => { entry with output := output } }

/-- A run that has ended with a result; what the platform says about its state stays. -/
def ended (result : RunResult) (entry : RunEntry) : RunEntry :=
  let state := { entry.record.state with
    lifeCycleState := .terminated, resultState := some result }
  { entry with record := { entry.record with state := state }, readsLeft := 0 }

/-- Let a run end with a result. -/
def finishRun (p : Platform) (id : RunId) (result : RunResult) : Platform :=
  { p with runs := p.runs.modify id (ended result) }

/-! ### Libraries -/

/-- What is reported about the libraries of a cluster. -/
def libraryEntries (p : Platform) (id : ClusterId) : List LibraryEntry :=
  (p.librariesOf id).map (·.entry)

/-- Give a status to a library of a cluster. -/
def setLibraryStatus (p : Platform) (id : ClusterId) (library : LibrarySpec)
    (status : InstallStatus) : Platform :=
  { p with
    libraries := p.libraries.modify id fun entries =>
      entries.map (LibraryProgress.marked [library] status) }

/-! ### Notebooks and files -/

/-- Put a notebook in place, creating the directories above it. -/
def addNotebook (p : Platform) (path : String) (language : Language) (content : ByteArray) :
    Platform :=
  { p.withNextNumber.makeDirs (Path.parent path) with
    objects := p.objects.insert path (p.newNotebook path (some language) content) }

/-- Put a file in place, creating the directories above it. -/
def addFile (p : Platform) (path : String) (content : ByteArray) : Platform :=
  p.writeFile path content

/-- The content of a file. -/
def file? (p : Platform) (path : String) : Option ByteArray := p.files.get? path

end SparkFleet.Platform
