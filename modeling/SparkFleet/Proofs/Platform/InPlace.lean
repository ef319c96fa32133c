import SparkFleet.Proofs.Platform.Reading

/-!
# Calls that are done in place

The platform has one state, which a call changes step by step, and nothing is undone when a later
check fails.  Some calls change the state before their last check: an entry is taken out before it
is seen whether it was there, a read lets a cluster settle before the cluster is looked up again,
and a resize writes the new size before the change of state begins.  `Platform.InPlace` are the
calls as such steps, where an error keeps what has been done until then.

The main statement `calls_all_or_nothing` says that a call that fails nevertheless leaves everything
as it was, except that it has been counted.  It rests on `exec_perform`: the steps of each call come
to what is done where a call either succeeds or leaves the state alone.
-/

namespace SparkFleet

namespace Platform

/-- What is done to the state step by step: an error keeps what has been done until then. -/
abbrev InPlace (α : Type) := ExceptT ApiError (StateM Platform) α

namespace InPlace

variable {α β : Type}

/-- Look something up in the state of the moment. -/
def look (find : Platform → Except ApiError α) : InPlace α := do
  MonadExcept.ofExcept (find (← get))

/-- Take something out of the state; only then is it seen whether it was there. -/
def takeOut (find : Platform → Except ApiError α) (rest : Platform → Platform) : InPlace α := do
  let p ← get
  set (rest p)
  MonadExcept.ofExcept (find p)

/-! ### Clusters -/

/-- Begin a change of a cluster, which is looked up for it. -/
def beginChange (id : ClusterId) (state target : ClusterState) : InPlace Unit := do
  let entry ← look (·.findCluster id)
  modify fun p => p.begin id entry.record state target

/-- Create a cluster. -/
def createCluster (spec : ClusterSpec) : InPlace ClusterId := do
  if spec.sparkVersion.isNone || spec.nodeTypeId.isNone then
    throw (refused "INVALID_PARAMETER_VALUE" "spark_version and node_type_id are required")
  if spec.numWorkers.isSome == spec.autoscale.isSome then
    throw (refused "INVALID_PARAMETER_VALUE"
      "exactly one of num_workers and autoscale is required")
  let id := (← get).nextClusterId
  modify withNextNumber
  modify fun p => p.begin id (newCluster id spec) .pending .running
  return id

/-- Bring a change of a cluster nearer to its end. -/
def observeCluster (id : ClusterId) (entry : ClusterEntry) : InPlace Unit :=
  match entry.transition with
  | none => pure ()
  | some ⟨_, 0⟩ => modify (·.settleCluster id)
  | some ⟨target, reads + 1⟩ =>
    modify (·.setCluster id { entry with transition := some ⟨target, reads⟩ })

/-- Read a cluster: it is looked up again after it has been observed. -/
def readCluster (id : ClusterId) : InPlace ClusterRecord := do
  let entry ← look (·.findCluster id)
  observeCluster id entry
  return (← look (·.findCluster id)).record

/-- Change the size of a running cluster: the size is written before the change begins. -/
def resizeCluster (r : ResizeRequest) : InPlace Unit := do
  let entry ← look (·.findCluster r.clusterId)
  if entry.record.state ≠ .running then
    throw (unexpectedState r.clusterId entry.record.state)
  let record := { entry.record with numWorkers := r.numWorkers, autoscale := r.autoscale }
  modify (·.setCluster r.clusterId { entry with record := record })
  beginChange r.clusterId .resizing .running

/-- Begin a change of a cluster whose state allows it. -/
def changeCluster (id : ClusterId) (allowed : ClusterState → Bool) (state target : ClusterState) :
    InPlace Unit := do
  let entry ← look (·.findCluster id)
  if !allowed entry.record.state then
    throw (unexpectedState id entry.record.state)
  beginChange id state target

/-- Remove a cluster. -/
def removeCluster (id : ClusterId) : InPlace Unit := do
  let _ ← takeOut (·.findCluster id) fun p => { p with clusters := p.clusters.erase id }

/-- Do what a call about clusters asks for. -/
def performClusters : (c : ClusterCall) → InPlace c.Answer
  | .create spec => createCluster spec
  | .get id => readCluster id
  | .list => return (← get).clusters.values.map (·.record)
  | .resize r => resizeCluster r
  | .restart id => changeCluster id (· == .running) .restarting .running
  | .terminate id => changeCluster id (!·.isTerminal) .terminating .terminated
  | .permanentDelete id => removeCluster id
  | .sparkVersions => return (← get).sparkVersions
  | .nodeTypes => return (← get).nodeTypes
  | .zones => return (← get).zones

/-! ### Jobs and runs -/

/-- Create a job. -/
def createJob (settings : JobSettings) : InPlace JobId := do
  let id := (← get).nextJobId
  modify withNextNumber
  modify fun p =>
    { p with jobs := p.jobs.insert id ⟨id, settings, some "mock@example.com", none⟩ }
  return id

/-- Start a run of a job. -/
def startRun (request : RunRequest) : InPlace StartedRun := do
  let job ← look (·.findJob request.jobId)
  let number := ((← get).runsOf request.jobId).length + 1
  let id := (← get).nextRunId
  modify withNextNumber
  modify fun p =>
    { p with runs := p.runs.insert id ⟨newRun job id number request, {}, p.settleReads⟩ }
  return ⟨id, some (.ofNat number)⟩

/-- Read a run. -/
def readRun (id : RunId) : InPlace RunRecord := do
  let entry := observeRun (← look (·.findRun id))
  modify fun p => { p with runs := p.runs.insert id entry }
  return entry.record

/-- Read what came out of a run. -/
def readOutput (id : RunId) : InPlace RunOutput := do
  let entry ← look (·.findRun id)
  return { entry.output with metadata := some entry.record }

/-- Delete a job. -/
def deleteJob (id : JobId) : InPlace Unit := do
  let _ ← takeOut (·.findJob id) fun p => { p with jobs := p.jobs.erase id }

/-- Do what a call about jobs asks for. -/
def performJobs : (c : JobCall) → InPlace c.Answer
  | .create settings => createJob settings
  | .get id => look (·.findJob id)
  | .runNow request => startRun request
  | .getRun id => readRun id
  | .getRunOutput id => readOutput id
  | .delete id => deleteJob id

/-! ### Libraries -/

/-- Give a cluster an entry for its libraries, if it has none. -/
def openLibraries (id : ClusterId) : InPlace Unit :=
  modify fun p => { p with libraries := p.libraries.insert id (p.librariesOf id) }

/-- Change the libraries of a cluster that has an entry for them. -/
def changeLibraries (id : ClusterId)
    (change : Platform → List LibraryProgress → List LibraryProgress) : InPlace Unit :=
  modify fun p => { p with libraries := p.libraries.modify id (change p) }

/-- Install libraries on a cluster, each in a step of its own. -/
def installLibraries (id : ClusterId) (libraries : List LibrarySpec) : InPlace Unit := do
  let _ ← look (·.findCluster id)
  openLibraries id
  libraries.forM fun library =>
    changeLibraries id fun p => LibraryProgress.installed p.settleReads library

/-- Mark libraries of a cluster for removal. -/
def uninstallLibraries (id : ClusterId) (libraries : List LibrarySpec) : InPlace Unit := do
  let _ ← look (·.findCluster id)
  changeLibraries id fun _ => List.map (LibraryProgress.marked libraries .uninstallOnRestart)

/-- Read the statuses of the libraries of a cluster. -/
def readLibraries (id : ClusterId) : InPlace ClusterLibraries := do
  let cluster ← look (·.findCluster id)
  openLibraries id
  if cluster.record.state = .running then
    changeLibraries id fun _ => List.map LibraryProgress.observed
  return ⟨id, ((← get).librariesOf id).map (·.entry)⟩

/-- Do what a call about libraries asks for. -/
def performLibraries : (c : LibraryCall) → InPlace c.Answer
  | .install id libraries => installLibraries id libraries
  | .uninstall id libraries => uninstallLibraries id libraries
  | .clusterStatus id => readLibraries id

/-! ### Notebooks and files -/

/-- Delete a directory of the workspace: the notebooks below it go before the directories. -/
def deleteFolder (path : String) (recursive : Bool) : InPlace Unit := do
  let dir := Path.directory path
  if !(← get).dirs.contains dir then
    throw (noPath path)
  let p ← get
  if !recursive && (p.objects.any (fun o _ => Path.isBelow o dir) ||
      p.dirs.any (fun d _ => Path.isBelow d dir)) then
    throw (refused "DIRECTORY_NOT_EMPTY" ("Folder (" ++ path ++ ") is not empty"))
  modify fun p => { p with objects := p.objects.filter fun o _ => !(Path.isBelow o dir) }
  modify (·.removeDirs dir)

/-- Delete what is at a path of the workspace: a notebook is taken out before a directory is looked
for. -/
def deleteObject (path : String) (recursive : Bool) : InPlace Unit := do
  let removed := (← get).objects.contains path
  modify fun p => { p with objects := p.objects.erase path }
  unless removed do deleteFolder path recursive

/-- Import a notebook. -/
def importNotebook (n : NotebookImport) : InPlace Unit := do
  if (← get).objects.contains n.path && !n.overwrite then
    throw (refused "RESOURCE_ALREADY_EXISTS" ("Path (" ++ n.path ++ ") already exists."))
  if !(← get).dirs.contains (Path.parent n.path) then
    throw (notFound ("The parent folder (" ++ Path.parent n.path ++ ") does not exist."))
  let object := (← get).newNotebook n.path n.language n.content
  modify withNextNumber
  modify fun p => { p with objects := p.objects.insert n.path object }

/-- Do what a call about the workspace asks for. -/
def performWorkspace : (c : WorkspaceCall) → InPlace c.Answer
  | .getStatus path => look (·.objectStatus path)
  | .list path => look (·.listObjects path)
  | .mkdirs path => modify (·.makeDirs path)
  | .delete path recursive => deleteObject path recursive
  | .exportNotebook path _ => look (·.exportContent path)
  | .importNotebook n => importNotebook n

/-- Open a path for writing. -/
def openUpload (path : String) (overwrite : Bool) : InPlace Int64 := do
  if (← get).files.contains path && !overwrite then
    throw (entryExists path)
  let handle := (← get).nextHandle
  modify withNextNumber
  modify fun p => { p with uploads := p.uploads.insert handle { path := path } }
  return handle

/-- Append a block to what has been sent. -/
def appendBlock (handle : Int64) (data : ByteArray) : InPlace Unit := do
  let upload ← look (·.findUpload handle)
  modify fun p =>
    { p with
      uploads := p.uploads.insert handle { upload with content := upload.content ++ data } }

/-- Close a handle: the upload is taken out before it becomes the file. -/
def closeUpload (handle : Int64) : InPlace Unit := do
  let upload ← takeOut (·.findUpload handle) fun p => { p with uploads := p.uploads.erase handle }
  modify (·.writeFile upload.path upload.content)

/-- Delete a directory of the file store: the files below it go before the directories. -/
def deleteDirectory (path : String) (recursive : Bool) : InPlace Unit := do
  let dir := Path.directory path
  if !recursive && (← get).files.any (fun f _ => Path.isBelow f dir) then
    throw (refused "IO_ERROR" ("Directory " ++ path ++ " is not empty"))
  modify fun p => { p with files := p.files.filter fun f _ => !(Path.isBelow f dir) }
  modify (·.removeDirs dir)

/-- Delete what is at a path of the file store: a file is taken out before a directory is looked
for. -/
def deleteFile (path : String) (recursive : Bool) : InPlace Unit := do
  let removed := (← get).files.contains path
  modify fun p => { p with files := p.files.erase path }
  unless removed do deleteDirectory path recursive

/-- Move a file: it is taken out before it is written again. -/
def moveFile (source destination : String) : InPlace Unit := do
  if (← get).files.contains destination then
    throw (entryExists destination)
  let content ← takeOut (·.findFile source) fun p => { p with files := p.files.erase source }
  modify (·.writeFile destination content)

/-- Do what a call about the file store asks for. -/
def performFiles : (c : FileCall) → InPlace c.Answer
  | .create path overwrite => openUpload path overwrite
  | .addBlock handle data => appendBlock handle data
  | .close handle => closeUpload handle
  | .read path offset length =>
    return window (← look (·.findFile path)) offset.toNat length.toNat
  | .getStatus path => look (·.fileStatus path)
  | .delete path recursive => deleteFile path recursive
  | .move source destination => moveFile source destination
  | .mkdirs path => modify (·.makeDirs path)
  | .list path => look (·.listFiles path)

/-! ### All calls -/

/-- Count a call of an endpoint, and refuse it if a failure is injected. -/
def enter (endpoint : String) : InPlace Unit := do
  modify (·.count endpoint)
  if let some e := (← get).failure? endpoint then
    throw e

/-- Do what a call asks for. -/
def perform : (c : Call) → InPlace c.Answer
  | .clusters call => performClusters call
  | .jobs call => performJobs call
  | .libraries call => performLibraries call
  | .workspace call => performWorkspace call
  | .files call => performFiles call

/-- Answer a call. -/
def serve (c : Call) : InPlace c.Answer := do
  enter c.endpoint
  perform c

/-! ### What steps leave -/

/-- What steps answer, and the state that they leave. -/
def exec (x : InPlace α) (p : Platform) : Except ApiError α × Platform := x.run.run p

/-- What is answered, and the state that is left, where a failure leaves the state as it was. -/
def outcome (p : Platform) : Except ApiError (α × Platform) → Except ApiError α × Platform
  | .ok (a, q) => (.ok a, q)
  | .error e => (.error e, p)

variable {p q : Platform}

theorem exec_bind (x : InPlace α) (f : α → InPlace β) (p : Platform) :
    exec (x >>= f) p =
      match exec x p with
      | (.ok a, q) => exec (f a) q
      | (.error e, q) => (.error e, q) := by
  change (match exec x p with | (a, q) => StateT.run (ExceptT.bindCont f a) q) = _
  rcases exec x p with ⟨e | a, q⟩ <;> rfl

@[simp] theorem exec_pure (a : α) (p : Platform) : exec (pure a) p = (.ok a, p) := rfl

@[simp] theorem exec_get_bind (f : Platform → InPlace α) (p : Platform) :
    exec (get >>= f) p = exec (f p) p := rfl

@[simp] theorem exec_modify_bind (change : Platform → Platform) (f : Unit → InPlace α)
    (p : Platform) : exec (modify change >>= f) p = exec (f ()) (change p) := rfl

/-- What is looked up does not change the state; if it is not there, nothing more is done. -/
theorem exec_look_bind {find : Platform → Except ApiError α} {f : α → InPlace β}
    {k : α → Except ApiError (β × Platform)}
    (hNext : ∀ a, find p = .ok a → exec (f a) p = outcome p (k a)) :
    exec (look find >>= f) p = outcome p (find p >>= k) := by
  change exec (MonadExcept.ofExcept (find p) >>= f) p = _
  cases hFind : find p with
  | error e => rfl
  | ok a =>
    -- The rest has to be compared only where the look-up gives this value.
    exact hNext a hFind

theorem exec_look (find : Platform → Except ApiError α) (p : Platform) :
    exec (look find) p = outcome p ((find p).map (·, p)) := by
  change exec (MonadExcept.ofExcept (find p)) p = _
  cases find p <;> rfl

/-- What is not there is taken out in vain, and the state is as it was. -/
theorem exec_takeOut_bind {find : Platform → Except ApiError α} {rest : Platform → Platform}
    {f : α → InPlace β} {k : α → Except ApiError (β × Platform)}
    (hMissing : ∀ e, find p = .error e → rest p = p)
    (hNext : ∀ a, find p = .ok a → exec (f a) (rest p) = outcome p (k a)) :
    exec (takeOut find rest >>= f) p = outcome p (find p >>= k) := by
  change exec (MonadExcept.ofExcept (find p) >>= f) (rest p) = _
  cases hFind : find p with
  | error e =>
    rw [hMissing e hFind]
    rfl
  | ok a => exact hNext a hFind

/-- Where a lookup fails there is no entry. -/
theorem get?_eq_none {κ : Type} [Ord κ] {m : SortedMap κ α} {k : κ} {find : Except ApiError α}
    {e : ApiError} (hOk : ∀ a, m.get? k = some a → find = .ok a) (hFind : find = .error e) :
    m.get? k = none := by
  cases hGet : m.get? k with
  | none => rfl
  | some a => exact nomatch hFind.symm.trans (hOk a hGet)

/-! ### Clusters -/

theorem exec_createCluster (spec : ClusterSpec) (p : Platform) :
    exec (createCluster spec) p = outcome p (p.createCluster spec) := by
  simp only [createCluster, Platform.createCluster]
  split
  · rfl
  · split <;> rfl

/-- A cluster that is there can begin a change. -/
theorem exec_beginChange {id : ClusterId} {entry : ClusterEntry}
    (hEntry : p.clusters.get? id = some entry) (state target : ClusterState) :
    exec (beginChange id state target) p = (.ok (), p.begin id entry.record state target) := by
  have hBegin : exec (beginChange id state target) p =
      outcome p (p.findCluster id >>= fun entry =>
        .ok ((), p.begin id entry.record state target)) := exec_look_bind fun _ _ => rfl
  rw [hBegin, findCluster_eq_ok_iff.2 hEntry]
  rfl

theorem exec_observeCluster {id : ClusterId} {entry : ClusterEntry}
    (hEntry : p.clusters.get? id = some entry) :
    exec (observeCluster id entry) p = (.ok (), p.observeCluster id entry) := by
  obtain ⟨record, _ | ⟨target, _ | reads⟩⟩ := entry
  · rfl
  · -- Settling looks the cluster up itself, and finds the same entry.
    change (Except.ok (), p.settleCluster id) = _
    rw [settleCluster, hEntry]
    rfl
  · rfl

theorem exec_readCluster (id : ClusterId) (p : Platform) :
    exec (readCluster id) p = outcome p (p.readCluster id) := by
  refine exec_look_bind fun entry hFind => ?_
  have hEntry := findCluster_eq_ok_iff.1 hFind
  -- However far the change has come, the cluster is still there.
  have hThere : (p.observeCluster id entry).clusters.contains id :=
    (contains_observeCluster hEntry id).trans (Option.isSome_of_eq_some hEntry)
  obtain ⟨entry', hEntry'⟩ := Option.isSome_iff_exists.1 hThere
  have hFind' := findCluster_eq_ok_iff.2 hEntry'
  rw [exec_bind, exec_observeCluster hEntry]
  change exec (look (·.findCluster id) >>= fun found => pure found.record) _ =
    outcome p ((p.observeCluster id entry).findCluster id >>= fun found =>
      .ok (found.record, p.observeCluster id entry))
  rw [exec_bind, exec_look, hFind']
  rfl

theorem exec_changeCluster (id : ClusterId) (allowed : ClusterState → Bool)
    (state target : ClusterState) (p : Platform) :
    exec (changeCluster id allowed state target) p =
      outcome p (p.changeCluster id allowed state target) := by
  refine exec_look_bind fun entry hFind => ?_
  have hBegin := exec_beginChange (findCluster_eq_ok_iff.1 hFind) state target
  cases allowed entry.record.state with
  | true => exact hBegin
  | false => rfl

/-- What has been written about a cluster is overwritten by a change that begins. -/
theorem begin_setCluster (id : ClusterId) (entry : ClusterEntry) (record : ClusterRecord)
    (state target : ClusterState) :
    (p.setCluster id entry).begin id record state target = p.begin id record state target := by
  simp only [begin, setCluster, SortedMap.insert_insert]

theorem exec_resizeCluster (r : ResizeRequest) (p : Platform) :
    exec (resizeCluster r) p = outcome p (p.resizeCluster r) := by
  refine exec_look_bind fun entry hFind => ?_
  split
  · rfl
  · -- The new size has been written by then, and the cluster is found with it.
    let sized : ClusterEntry :=
      { entry with
        record := { entry.record with numWorkers := r.numWorkers, autoscale := r.autoscale } }
    have hSized : (p.setCluster r.clusterId sized).clusters.get? r.clusterId = some sized :=
      (SortedMap.get?_insert ..).trans (if_pos rfl)
    change exec (beginChange r.clusterId .resizing .running) (p.setCluster r.clusterId sized) = _
    rw [exec_beginChange hSized, begin_setCluster]
    rfl

theorem exec_removeCluster (id : ClusterId) (p : Platform) :
    exec (removeCluster id) p = outcome p (p.removeCluster id) := by
  refine exec_takeOut_bind (fun e hFind => ?_) fun _ _ => rfl
  rw [SortedMap.erase_of_get?_eq_none (get?_eq_none (fun _ => findCluster_eq_ok_iff.2) hFind)]

theorem exec_performClusters (c : ClusterCall) (p : Platform) :
    exec (performClusters c) p = outcome p (p.performClusters c) := by
  cases c with
  | create spec => exact exec_createCluster spec p
  | get id => exact exec_readCluster id p
  | resize r => exact exec_resizeCluster r p
  | restart id => exact exec_changeCluster id (· == .running) .restarting .running p
  | terminate id => exact exec_changeCluster id (!·.isTerminal) .terminating .terminated p
  | permanentDelete id => exact exec_removeCluster id p
  | list | sparkVersions | nodeTypes | zones => rfl

/-! ### Jobs and libraries -/

theorem exec_deleteJob (id : JobId) (p : Platform) :
    exec (deleteJob id) p = outcome p (p.deleteJob id) := by
  refine exec_takeOut_bind (fun e hFind => ?_) fun _ _ => rfl
  rw [SortedMap.erase_of_get?_eq_none (get?_eq_none (fun _ => findJob_eq_ok_iff.2) hFind)]

theorem exec_performJobs (c : JobCall) (p : Platform) :
    exec (performJobs c) p = outcome p (p.performJobs c) := by
  cases c with
  | create settings => rfl
  | get id => exact exec_look _ p
  | runNow request => exact exec_look_bind fun _ _ => rfl
  | getRun id => exact exec_look_bind fun _ _ => rfl
  | getRunOutput id => exact exec_look_bind fun _ _ => rfl
  | delete id => exact exec_deleteJob id p

/-- The libraries of a cluster change one after the other, at the entry that has been opened. -/
theorem exec_forM_changeLibraries {γ : Type} (id : ClusterId)
    (change : γ → Nat → List LibraryProgress → List LibraryProgress) (items : List γ)
    (entries : List LibraryProgress) (p : Platform) :
    exec (items.forM fun item => changeLibraries id fun p => change item p.settleReads)
        { p with libraries := p.libraries.insert id entries } =
      (.ok (), { p with
        libraries := p.libraries.insert id
          (items.foldl (fun entries item => change item p.settleReads entries) entries) }) := by
  induction items generalizing entries with
  | nil => rfl
  | cons item items ih =>
    -- Each step finds the entry that the one before it has written.
    rw [List.foldl_cons, ← ih]
    rw [← SortedMap.modify_insert]
    rfl

theorem exec_installLibraries (id : ClusterId) (libraries : List LibrarySpec) (p : Platform) :
    exec (installLibraries id libraries) p = outcome p (p.installLibraries id libraries) := by
  refine exec_look_bind fun _ _ => ?_
  exact exec_forM_changeLibraries id (fun library reads => LibraryProgress.installed reads library)
    libraries (p.librariesOf id) p

theorem librariesOf_insert (id : ClusterId) (entries : List LibraryProgress) (p : Platform) :
    librariesOf { p with libraries := p.libraries.insert id entries } id = entries := by
  rw [librariesOf, SortedMap.get?_insert, if_pos rfl]
  rfl

theorem exec_readLibraries (id : ClusterId) (p : Platform) :
    exec (readLibraries id) p = outcome p (p.readLibraries id) := by
  refine exec_look_bind fun cluster _ => ?_
  have hReport (entries : List LibraryProgress) :
      exec (do return (⟨id, ((← get).librariesOf id).map (·.entry)⟩ : ClusterLibraries))
          { p with libraries := p.libraries.insert id entries } =
        (.ok ⟨id, entries.map (·.entry)⟩,
          { p with libraries := p.libraries.insert id entries }) := by
    rw [exec_get_bind, librariesOf_insert, exec_pure]
  by_cases hRunning : cluster.record.state = .running
  · simp only [hRunning, if_true]
    refine Eq.trans ?_ (hReport ((p.librariesOf id).map LibraryProgress.observed))
    rw [← SortedMap.modify_insert]
    rfl
  · simp only [hRunning, if_false]
    exact hReport (p.librariesOf id)

theorem exec_performLibraries (c : LibraryCall) (p : Platform) :
    exec (performLibraries c) p = outcome p (p.performLibraries c) := by
  cases c with
  | install id libraries => exact exec_installLibraries id libraries p
  | uninstall id libraries => exact exec_look_bind fun _ _ => rfl
  | clusterStatus id => exact exec_readLibraries id p

/-! ### Notebooks and files -/

theorem exec_deleteObject (path : String) (recursive : Bool) (p : Platform) :
    exec (deleteObject path recursive) p = outcome p (p.deleteObject path recursive) := by
  simp only [deleteObject, Platform.deleteObject, exec_get_bind, exec_modify_bind]
  cases hThere : p.objects.contains path with
  | true => rfl
  | false =>
    -- Nothing has been taken out, so the look for a directory begins on the state as it was.
    have hMissing := Option.isNone_iff_eq_none.1 (Option.isSome_eq_false_iff.1 hThere)
    rw [SortedMap.erase_of_get?_eq_none hMissing]
    change exec (deleteFolder path recursive) p = outcome p (if _ then _ else _)
    simp only [deleteFolder, exec_get_bind]
    split
    · rfl
    · rw [exec_get_bind]
      split <;> rfl

theorem exec_importNotebook (n : NotebookImport) (p : Platform) :
    exec (importNotebook n) p = outcome p (p.importNotebook n) := by
  simp only [importNotebook, Platform.importNotebook, exec_get_bind]
  split
  · rfl
  · rw [exec_get_bind]
    split <;> rfl

theorem exec_performWorkspace (c : WorkspaceCall) (p : Platform) :
    exec (performWorkspace c) p = outcome p (p.performWorkspace c) := by
  cases c with
  | getStatus path => exact exec_look _ p
  | list path => exact exec_look _ p
  | mkdirs path => rfl
  | delete path recursive => exact exec_deleteObject path recursive p
  | exportNotebook path format => exact exec_look _ p
  | importNotebook n => exact exec_importNotebook n p

theorem exec_openUpload (path : String) (overwrite : Bool) (p : Platform) :
    exec (openUpload path overwrite) p = outcome p (p.openUpload path overwrite) := by
  simp only [openUpload, Platform.openUpload, exec_get_bind]
  split <;> rfl

theorem exec_closeUpload (handle : Int64) (p : Platform) :
    exec (closeUpload handle) p = outcome p (p.closeUpload handle) := by
  refine exec_takeOut_bind (fun e hFind => ?_) fun _ _ => rfl
  rw [SortedMap.erase_of_get?_eq_none (get?_eq_none (fun _ => findUpload_eq_ok_iff.2) hFind)]

theorem exec_deleteFile (path : String) (recursive : Bool) (p : Platform) :
    exec (deleteFile path recursive) p = outcome p (p.deleteFile path recursive) := by
  simp only [deleteFile, Platform.deleteFile, exec_get_bind, exec_modify_bind]
  cases hThere : p.files.contains path with
  | true => rfl
  | false =>
    -- As in the workspace: nothing has been taken out before the directory is looked for.
    have hMissing := Option.isNone_iff_eq_none.1 (Option.isSome_eq_false_iff.1 hThere)
    rw [SortedMap.erase_of_get?_eq_none hMissing]
    change exec (deleteDirectory path recursive) p = outcome p (if _ then _ else _)
    simp only [deleteDirectory, exec_get_bind]
    split <;> rfl

theorem findFile_eq_ok_iff {path : String} {content : ByteArray} :
    p.findFile path = .ok content ↔ p.files.get? path = some content := by
  unfold findFile
  split <;> simp_all

theorem exec_moveFile (source destination : String) (p : Platform) :
    exec (moveFile source destination) p = outcome p (p.moveFile source destination) := by
  simp only [moveFile, Platform.moveFile, exec_get_bind]
  split
  · rfl
  · -- The source is taken out although it may not be there; then nothing is lost.
    refine exec_takeOut_bind (fun e hFind => ?_) fun _ _ => rfl
    rw [SortedMap.erase_of_get?_eq_none (get?_eq_none (fun _ => findFile_eq_ok_iff.2) hFind)]

theorem exec_performFiles (c : FileCall) (p : Platform) :
    exec (performFiles c) p = outcome p (p.performFiles c) := by
  cases c with
  | create path overwrite => exact exec_openUpload path overwrite p
  | addBlock handle data => exact exec_look_bind fun _ _ => rfl
  | close handle => exact exec_closeUpload handle p
  | read path offset length =>
    have hRead : exec (performFiles (.read path offset length)) p =
        outcome p (p.findFile path >>= fun content =>
          .ok (window content offset.toNat length.toNat, p)) := exec_look_bind fun _ _ => rfl
    rw [hRead, Platform.performFiles]
    cases p.findFile path <;> rfl
  | getStatus path => exact exec_look _ p
  | delete path recursive => exact exec_deleteFile path recursive p
  | move source destination => exact exec_moveFile source destination p
  | mkdirs path => rfl
  | list path => exact exec_look _ p

/-! ### All calls -/

/-- The steps of a call come to what is done where a failure leaves the state as it was. -/
theorem exec_perform (c : Call) (p : Platform) :
    exec (perform c) p = outcome p (p.perform c) := by
  cases c with
  | clusters call => exact exec_performClusters call p
  | jobs call => exact exec_performJobs call p
  | libraries call => exact exec_performLibraries call p
  | workspace call => exact exec_performWorkspace call p
  | files call => exact exec_performFiles call p

/-- A call of an endpoint is counted before a failure that is injected for it is looked for. -/
theorem exec_enter (endpoint : String) (p : Platform) :
    exec (enter endpoint) p =
      match p.failure? endpoint with
      | some e => (.error e, p.count endpoint)
      | none => (.ok (), p.count endpoint) := by
  have hFailure : (p.count endpoint).failure? endpoint = p.failure? endpoint := rfl
  rw [enter, exec_modify_bind, exec_get_bind, hFailure]
  cases p.failure? endpoint <;> rfl

/-- A call that is done in place is answered as the platform serves it, and leaves the same. -/
theorem exec_serve (c : Call) (p : Platform) : exec (serve c) p = p.serve c := by
  simp only [serve, Platform.serve]
  rw [exec_bind, exec_enter]
  cases p.failure? c.endpoint with
  | some e => rfl
  | none =>
    -- The call has been counted, and what it does is compared on the platform as counted.
    refine (exec_perform c (p.count c.endpoint)).trans ?_
    cases (p.count c.endpoint).perform c <;> rfl

/-- An injected failure is given back whatever the state is. -/
theorem serve_of_failure {c : Call} {code : UInt16}
    (hFailure : p.failures.get? c.endpoint = some code) :
    (p.serve c).1 = .error (injected c.endpoint code) := by
  have hInjected : p.failure? c.endpoint = some (injected c.endpoint code) := by
    rw [failure?, hFailure, Option.map_some]
  rw [Platform.serve, hInjected]

/-- Each call is done as a whole or not at all: whatever the state is, what is done in place is what
the platform serves, and a call that fails leaves everything as it was, except that it has been
counted.  In each case the endpoint of the call is counted once, and no other; and where a failure
is injected for the endpoint, the call fails with it. -/
theorem calls_all_or_nothing (c : Call) (p : Platform) :
    exec (serve c) p = p.serve c ∧
      (∀ e, (exec (serve c) p).1 = .error e →
        (exec (serve c) p).2 =
          { p with calls := p.calls.insert c.endpoint (p.callCount c.endpoint + 1) }) ∧
      (∀ endpoint, (exec (serve c) p).2.callCount endpoint =
        p.callCount endpoint + if endpoint = c.endpoint then 1 else 0) ∧
      ∀ code, p.failures.get? c.endpoint = some code →
        (exec (serve c) p).1 = .error (
          if code = 401 then .unauthenticated
          else if code = 403 then .unauthorized
          else .status code none ("injected failure for " ++ c.endpoint)) := by
  rw [exec_serve]
  exact ⟨rfl, fun e hError => serve_error hError, p.callCount_serve c,
    fun code hFailure => serve_of_failure hFailure⟩

/-- A platform without files that refuses to close uploads. -/
def refusing : Platform := ({} : Platform).injectFailure "dbfs/close" 503

/-- A file that is not there is moved in vain, and a failure that is injected is given back. -/
theorem calls_all_or_nothing_refusing :
    ((exec (serve (.files (.move "/in" "/out"))) refusing).1 = .error (noEntry "/in") ∧
        refusing.failures.get? "dbfs/close" = some 503) ∧
      (exec (serve (.files (.move "/in" "/out"))) refusing).2 =
        { refusing with calls := SortedMap.empty.insert "dbfs/move" 1 } ∧
      (exec (serve (.files (.close 1))) refusing).1 =
        .error (.status 503 none "injected failure for dbfs/close") := by
  have hMissing : (exec (serve (.files (.move "/in" "/out"))) refusing).1 =
    .error (noEntry "/in") := rfl
  have hRefused : refusing.failures.get? "dbfs/close" = some 503 := rfl
  exact ⟨⟨hMissing, hRefused⟩,
    (calls_all_or_nothing (.files (.move "/in" "/out")) refusing).2.1 _ hMissing,
    (calls_all_or_nothing (.files (.close 1)) refusing).2.2.2 503 hRefused⟩

end InPlace

end Platform

end SparkFleet
