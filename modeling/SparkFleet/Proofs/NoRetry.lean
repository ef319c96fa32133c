import SparkFleet.Proofs.AfterFailure
import SparkFleet.Proofs.ErrorFamilies

/-!
# No operation retries

No operation goes on after a call that fails.  What the operations look up is derived part by part
to stop there (`Action.Stops`).  Two of them clean up: an upload whose block is refused closes the
handle that it was given, and a job that is created but not read back is deleted.

The main statement `at_most_cleans_up` says of every operation that a caller meets, whatever is
answered, that the first call that fails is the last but for one of these, and that the operation
then fails; only whether a file exists is answered where the platform says that it is not found.
-/

namespace SparkFleet

open SparkFleet.Action

/-! ### Looking things up -/

theorem FileStore.checkScript_stops (uri : String) : (checkScript uri).Stops := by
  unfold checkScript
  split
  · exact stops_pure ()
  · refine stops_tryAsk_bind (fun record => ?_) fun cause => ⟨_, rfl⟩
    dsimp only
    split
    · exact stops_throw _
    · exact stops_pure ()

theorem Notebook.get_stops (path : String) : (Notebook.get path).Stops :=
  (stops_tryAsk_bind (fun _ => stops_ofExcept _) fun _ => ⟨_, rfl⟩).within .workspace

theorem Cluster.get_stops (id : ClusterId) : (Cluster.get id).Stops :=
  ((stops_ask (.clusters (.get id))).bind fun _ => stops_pure _).within .cluster

theorem Cluster.read_stops (c : Cluster) : c.read.Stops := (stops_ask _).within .cluster

theorem Cluster.refresh_stops (c : Cluster) : c.refresh.Stops :=
  c.read_stops.bind fun _ => stops_pure _

theorem Cluster.check_stops (c : Cluster) (operation : ClusterOperation) :
    (c.check operation).Stops :=
  (c.read_stops.bind fun _ => stops_pure _).bind fun _ => stops_ofExcept _

theorem Cluster.resize_stops (c : Cluster) (size : ClusterSize) : (c.resize size).Stops := by
  refine Stops.within ((stops_ofExcept _).bind fun _ => ?_) .cluster
  refine (c.check_stops .resize).bind fun _ => ?_
  exact Stops.bind (stops_ask (.clusters (.resize _))) fun _ => c.refresh_stops

namespace Shape

variable (shape : Shape) (f : Family)

theorem need_stops {β : Type} (field : String) (value : Option β) : (need f field value).Stops := by
  cases value with
  | some b => exact stops_pure b
  | none => exact stops_throw _

theorem compute_stops (m : Mode) : (shape.compute f m).Stops := by
  cases m with
  | interactive =>
    exact (need_stops f _ _).bind fun id => (Cluster.get_stops id).bind fun _ => stops_pure _
  | automated => exact (need_stops f _ _).bind fun _ => stops_pure _

theorem task_stops (k : TaskKind) : (shape.task f k).Stops := by
  cases k with
  | notebook =>
    exact (need_stops f _ _).bind fun _ => (need_stops f _ _).bind fun path =>
      (Notebook.get_stops path).bind fun _ => stops_pure _
  | jar => exact (need_stops f _ _).bind fun _ => (need_stops f _ _).bind fun _ => stops_pure _
  | python =>
    exact (need_stops f _ _).bind fun _ => (need_stops f _ _).bind fun script =>
      (FileStore.checkScript_stops script).bind fun _ => stops_pure _
  | sparkSubmit =>
    exact (need_stops f _ _).bind fun _ => (need_stops f _ _).bind fun _ => stops_pure _

end Shape

theorem Task.check_stops {k : TaskKind} (task : Task k) : task.check.Stops := by
  cases task with
  | python script parameters => exact FileStore.checkScript_stops script
  | notebook | jar | sparkSubmit => exact stops_pure ()

theorem Job.get_stops (id : JobId) : (Job.get id).Stops := by
  refine Stops.within ((stops_ask (.jobs (.get id))).bind fun record => ?_) .job
  refine (stops_ofExcept _).bind fun v => ?_
  -- The variants differ in which parts are read, and each part stops.
  cases v
  all_goals
    exact Stops.bind (Shape.compute_stops _ _ _) fun _ =>
      Stops.bind (Shape.task_stops _ _ _) fun _ => stops_pure _

theorem Run.get_stops (id : RunId) : (Run.get id).Stops := by
  refine Stops.within ((stops_ask (.jobs (.getRun id))).bind fun record => ?_) .run
  refine (stops_ofExcept _).bind fun v => ?_
  cases v
  all_goals
    exact Stops.bind (Shape.compute_stops _ _ _) fun _ =>
      Stops.bind (Shape.task_stops _ _ _) fun _ => stops_pure _

theorem RunOf.read_stops {v : Variant} (r : RunOf v) : r.read.Stops := (stops_ask _).within .run

theorem RunOf.state_stops {v : Variant} (r : RunOf v) : r.state.Stops :=
  r.read_stops.bind fun _ => stops_pure _

theorem Library.clusterStatus_stops (l : Library) (c : Cluster) : (l.clusterStatus c).Stops := by
  refine Stops.bind (Stops.within (Stops.bind (stops_ask (.libraries (.clusterStatus c.id)))
    fun _ => stops_pure _) .library) fun statuses => ?_
  cases statuses.find? fun status => status.library.isSameAs l with
  | some status => exact stops_pure status
  | none => exact stops_throw _

/-! ### Drafts of clusters -/

theorem CatalogItem.access_stops (i : CatalogItem) : i.access.Stops := by
  rw [access_eq]
  refine Session.stops_get.bind fun known => ?_
  cases i.known? known with
  | some v => exact Session.stops_pure v
  | none =>
    -- The one call is made here; what is put into the catalog after it makes none.
    exact (Session.stops_act (stops_ask i.call)).bind fun a =>
      (Session.stops_modify _).bind fun _ => Session.stops_pure _

namespace ClusterDraft

theorem choose_stops {β : Type} (chosen : Option β) {i : CatalogItem}
    (offered : i.Value → Except Error β) : (choose chosen i offered).Stops := by
  cases chosen with
  | some b => exact Session.stops_pure b
  | none => exact i.access_stops.bind fun v => Session.stops_act (stops_ofExcept _)

theorem resolve_stops (d : ClusterDraft) : d.resolve.Stops := by
  unfold resolve
  rw [resolveSparkVersion_eq, resolveNodeType_eq, resolveZone_eq]
  refine (Session.stops_act (stops_ofExcept _)).bind fun _ => ?_
  refine Session.Stops.bind (choose_stops _ _) fun version => ?_
  refine Session.Stops.bind (choose_stops _ _) fun nodeType => ?_
  exact Session.Stops.bind (choose_stops _ _) fun zone => Session.stops_pure _

theorem create_stops (d : ClusterDraft) : d.create.Stops := by
  rw [create_eq]
  refine Session.Stops.within (Session.Stops.bind ?_ fun spec => ?_) .cluster
  · unfold prepare
    split
    · exact Session.stops_throw _
    · exact d.resolve_stops
  · exact Session.stops_act ((stops_ask (.clusters (.create spec))).bind Cluster.get_stops)

end ClusterDraft

/-! ### Uploads -/

namespace FileStore

/-- The handle that an upload was given is closed after a block that is refused. -/
def closesUpload : CleanUp := fun before failed c =>
  ∃ path overwrite handle block, ⟨.files (.create path overwrite), .ok handle⟩ ∈ before ∧
    failed = .files (.addBlock handle block) ∧ c = .files (.close handle)

variable {cleansUp : CleanUp} {before : List Exchange}

theorem send_stopsAfter (hCleans : ∀ before failed c, closesUpload before failed c →
    cleansUp before failed c) {path : String} {overwrite : Bool} {handle : Int64}
    (hOpened : ⟨.files (.create path overwrite), .ok handle⟩ ∈ before) (parts : List ByteArray) :
    (send handle parts).StopsAfter cleansUp before := by
  induction parts generalizing before with
  | nil => exact (stops_ask _).after
  | cons block rest ih =>
    -- A block that is taken is followed by the rest; after one that is refused the handle is
    -- closed.
    refine stopsAfter_tryAsk_bind (fun _ => ih (List.mem_append_left _ hOpened)) fun cause => ?_
    refine ⟨.transport cause, .cleansUp (hCleans _ _ _ ?_) fun _ => rfl⟩
    exact ⟨path, overwrite, handle, block, hOpened, rfl, rfl⟩

theorem put_stopsAfter (hCleans : ∀ before failed c, closesUpload before failed c →
    cleansUp before failed c) (path : String) (data : ByteArray) (overwrite : Bool) :
    (put path data overwrite).StopsAfter cleansUp before :=
  stopsAfter_ask_bind fun _ =>
    send_stopsAfter hCleans (List.mem_append_right _ (List.mem_singleton_self _)) _

theorem putFile_stopsAfter (hCleans : ∀ before failed c, closesUpload before failed c →
    cleansUp before failed c) (file path : String) (overwrite : Bool) :
    (putFile file path overwrite).StopsAfter cleansUp before :=
  (stops_readLocal file).after.bind fun _ _ => put_stopsAfter hCleans path _ overwrite

theorem readOn_stops (path : String) (windows : Nat) (content : ByteArray) :
    (readOn path content windows).Stops := by
  induction windows generalizing content with
  | zero => exact stops_pure content
  | succ windows ih =>
    refine Stops.bind (stops_ask (.files (.read path _ _))) fun window => ?_
    split
    · exact stops_pure _
    · exact ih _

end FileStore

/-! ### Creating a job -/

namespace JobDraft

/-- A job that has been created is deleted. -/
def deletesJob : CleanUp := fun before _ c =>
  ∃ settings id, ⟨.jobs (.create settings), .ok id⟩ ∈ before ∧ c = .jobs (.delete id)

/-- A creation cleans up after its upload or after the job. -/
def leavesNothing : CleanUp := fun before failed c =>
  FileStore.closesUpload before failed c ∨ deletesJob before failed c

variable {v : Variant} {before : List Exchange}

theorem lookUp_stops (v : Variant) (id : JobId) : (lookUp v id).Stops :=
  (Job.get_stops id).bind fun _ => stops_ofExcept _

/-- A job that is not read back is deleted, whatever comes of that. -/
theorem readBack_stopsAfter {settings : JobSettings} {id : JobId}
    (hCreated : ⟨.jobs (.create settings), .ok id⟩ ∈ before) :
    (readBack v id).StopsAfter leavesNothing before := by
  -- The deletion cleans up whatever calls lie between the creation and the one that fails.
  have hDeletes (more : List Exchange) (failed : Call) :
      leavesNothing (before ++ more) failed (.jobs (.delete id)) :=
    .inr ⟨settings, id, List.mem_append_left _ hCreated, rfl⟩
  refine stopsAfter_attempt_bind (lookUp_stops v id) (fun result more => ?_) fun e failed more => ?_
  · cases result with
    | ok job => exact (stops_pure job).after
    | error e =>
      -- A job that is read but not of this variant is deleted too, and no call has failed.
      exact (stops_tryAsk_bind (fun _ => stops_throw e) fun _ => ⟨e, rfl⟩).after
  · exact ⟨e, .cleansUp (hDeletes more failed) fun _ => rfl⟩

theorem sendUpload_stopsAfter (d : JobDraft v) : d.sendUpload.StopsAfter leavesNothing before := by
  unfold sendUpload
  split
  · exact (stops_pure ()).after
  · split
    · exact (stops_throw _).after
    · dsimp only
      split
      · exact (stops_throw _).after
      · exact FileStore.putFile_stopsAfter (fun _ _ _ => .inl) _ _ _

theorem create_stopsAfter (d : JobDraft v) : d.create.StopsAfter leavesNothing before := by
  rw [create_eq]
  refine StopsAfter.within (StopsAfter.bind ?_ fun settings more => ?_) .job
  · refine (stops_ofExcept _).after.bind fun _ _ => d.sendUpload_stopsAfter.bind fun _ _ => ?_
    exact (d.task.check_stops.bind fun _ => stops_pure _).after
  · -- From here on the job is there, and so the exchange that the deletion refers to.
    exact stopsAfter_ask_bind fun _ =>
      readBack_stopsAfter (List.mem_append_right _ (List.mem_singleton_self _))

end JobDraft

/-! ### Operations -/

/-- An operation on the platform: one with errors of its family, one on what is on offer, one on
files, or a wait. -/
inductive Operation : Type → Type 1 where
  | entry {α : Type} (operation : Entry α) : Operation α
  | offer (use : CatalogUse) : Operation use.Result
  | checkScript (uri : String) : Operation Unit
  | putFileContent (path : String) (data : ByteArray) (overwrite : Bool) : Operation Unit
  | putLocalFile (file path : String) (overwrite : Bool) : Operation Unit
  | fileContent (path : String) : Operation ByteArray
  | fileStatus (path : String) : Operation FileRecord
  | fileExists (path : String) : Operation Bool
  | deleteFile (path : String) (recursive : Bool) : Operation Unit
  | moveFile (source destination : String) : Operation Unit
  | makeDirectory (path : String) : Operation Unit
  | listFiles (path : String) : Operation (List FileRecord)
  /-- Wait with polls that do not retry themselves. -/
  | pollUntil {α : Type} (o : WaitOptions) (what : String) (poll : Nat → Action (Option α))
    (hPoll : ∀ k, (poll k).Stops) : Operation α

namespace Operation

variable {α : Type}

/-- The operation as a program of a session. -/
def program : Operation α → Session α
  | .entry operation => operation.program
  | .offer use => use.program
  | .checkScript uri => .act (FileStore.checkScript uri)
  | .putFileContent path data overwrite => .act (FileStore.put path data overwrite)
  | .putLocalFile file path overwrite => .act (FileStore.putFile file path overwrite)
  | .fileContent path => .act (FileStore.get path)
  | .fileStatus path => .act (FileStore.status path)
  | .fileExists path => .act (FileStore.exists path)
  | .deleteFile path recursive => .act (FileStore.delete path recursive)
  | .moveFile source destination => .act (FileStore.move source destination)
  | .makeDirectory path => .act (FileStore.mkdirs path)
  | .listFiles path => .act (FileStore.list path)
  | .pollUntil o what poll _ => .act (Wait.pollUntil o what poll)

/-- How the operation cleans up after a failed call. -/
def cleansUp : Operation α → CleanUp
  | .putFileContent _ _ _ | .putLocalFile _ _ _ => FileStore.closesUpload
  | .entry (.createJob _) => JobDraft.leavesNothing
  | _ => .never

/-- What the operation ends with after a call that fails: an error, but what is not found does not
exist. -/
def Fails : Operation α → ApiError → Except Error α → Prop
  | .fileExists _, cause, result =>
    if cause.isNotFound then result = .ok false else ∃ e, result = .error e
  | _, _, result => ∃ e, result = .error e

end Operation

theorem Entry.stopsAfter {α : Type} (entry : Entry α) :
    entry.program.StopsAfter (Operation.entry entry).cleansUp [] := by
  -- Each operation stops because its parts do.  Only the first case needs a clean-up; all the
  -- others end with the call that fails.
  cases entry with
  | createJob d =>
    -- An upload is closed, or the new job is deleted.
    exact Session.stopsAfter_act d.create_stopsAfter
  | getCluster id => exact (Session.stops_act (Cluster.get_stops id)).after
  | listClusters =>
    exact (Session.stops_act
      (((stops_ask (.clusters .list)).bind fun _ => stops_pure _).within .cluster)).after
  | clusterState c | executors c | driver c =>
    exact (Session.stops_act (c.read_stops.bind fun _ => stops_pure _)).after
  | refreshCluster c => exact (Session.stops_act c.refresh_stops).after
  | resize c size => exact (Session.stops_act (c.resize_stops size)).after
  | restart c | terminate c | permanentDelete c =>
    exact (Session.stops_act
      (((c.check_stops _).bind fun _ => stops_ask _).within .cluster)).after
  | buildSpec d => exact (d.resolve_stops.within .cluster).after
  | createCluster d => exact d.create_stops.after
  | getJob id => exact (Session.stops_act (Job.get_stops id)).after
  | runWith j params =>
    -- A run that is started but not read is not cancelled.
    refine (Session.stops_act (Stops.within ?_ .job)).after
    refine Stops.bind (stops_ask (.jobs (.runNow _))) fun started => ?_
    exact Stops.bind (stops_ask (.jobs (.getRun started.runId))) fun _ => stops_pure _
  | deleteJob j => exact (Session.stops_act ((stops_ask _).within .job)).after
  | getRun id => exact (Session.stops_act (Run.get_stops id)).after
  | runState r => exact (Session.stops_act r.state_stops).after
  | refreshRun r => exact (Session.stops_act (r.read_stops.bind fun _ => stops_pure _)).after
  | runOutput r =>
    refine (Session.stops_act (Stops.bind ?_ fun _ => stops_ofExcept _)).after
    exact (stops_ask (.jobs (.getRunOutput r.id))).within .run
  | libraryStatuses c =>
    refine (Session.stops_act (Stops.within ?_ .library)).after
    exact Stops.bind (stops_ask (.libraries (.clusterStatus c.id))) fun _ => stops_pure _
  | install l c =>
    refine (Session.stops_act (Stops.within ?_ .library)).after
    exact Stops.bind (stops_ask (.libraries (.install c.id _))) fun _ => stops_pure _
  | uninstall l c => exact (Session.stops_act ((stops_ask _).within .library)).after
  | libraryStatus l c => exact (Session.stops_act (l.clusterStatus_stops c)).after
  | getNotebook path => exact (Session.stops_act (Notebook.get_stops path)).after
  | importNotebook path language content overwrite =>
    refine (Session.stops_act (Stops.bind ?_ fun _ => Notebook.get_stops path)).after
    exact (stops_ask (.workspace (.importNotebook _))).within .workspace
  | exportNotebook | listWorkspace | mkdirs | deleteObject =>
    exact (Session.stops_act ((stops_ask _).within .workspace)).after
  | waitForCluster o c target =>
    -- A wait reads again only after a poll that has not failed, so it stops where its polls do.
    refine (Session.stops_act (stops_pollUntil (fun _ => ?_) o _)).after
    exact c.refresh_stops.bind fun _ => stops_ofExcept _
  | waitForRun o r =>
    refine (Session.stops_act (stops_pollUntil (fun _ => ?_) o _)).after
    exact r.details.state_stops.bind fun _ => stops_pure _
  | waitForLibrary o i =>
    refine (Session.stops_act (stops_pollUntil (fun _ => ?_) o _)).after
    exact Stops.bind (i.library.clusterStatus_stops i.cluster) fun _ => stops_pure _

theorem CatalogUse.stops (use : CatalogUse) : use.program.Stops := by
  cases use with
  | sparkVersions => exact CatalogItem.access_stops .sparkVersions
  | nodeTypes => exact CatalogItem.access_stops .nodeTypes
  | zones => exact CatalogItem.access_stops .zones
  | defaultSparkVersion | sparkVersionByKey =>
    exact Session.Stops.bind (CatalogItem.access_stops .sparkVersions) fun _ =>
      Session.stops_pure _
  | defaultNodeType | nodeTypeById =>
    exact Session.Stops.bind (CatalogItem.access_stops .nodeTypes) fun _ => Session.stops_pure _
  | defaultZone =>
    exact Session.Stops.bind (CatalogItem.access_stops .zones) fun _ => Session.stops_pure _
  | buildSpec d => exact d.resolve_stops.within .cluster
  | create d => exact d.create_stops

/-- An answer that says that there is nothing is no failure. -/
theorem FileStore.exists_stops (path : String) (known : Catalog) :
    Program.Stops .never (fun cause result => (Operation.fileExists path).Fails cause result.1) []
      ((Session.act (FileStore.exists path)).run.run known) := by
  refine ⟨fun _ => trivial, fun cause => ?_⟩
  change ∃ result : Except Error Bool × Catalog,
    (if cause.isNotFound then result.1 = .ok false else ∃ e, result.1 = .error e) ∧
      Program.GivesUp .never [] _ result (Program.bind (ExceptT.run
        (if cause.isNotFound then pure false else throw (.transport cause) : Action Bool)) _)
  -- No call is made in either case; where the platform says that the path is not found, this is the
  -- answer, and otherwise the failure is reported.
  split
  · exact ⟨(.ok false, known), rfl, .ends⟩
  · exact ⟨(.error (.transport cause), known), ⟨_, rfl⟩, .ends⟩

namespace Operation

variable {α : Type}

theorem stops (op : Operation α) (known : Catalog) :
    Program.Stops op.cleansUp (fun cause result => op.Fails cause result.1) []
      (op.program.run.run known) := by
  cases op with
  | entry operation => exact operation.stopsAfter known
  | offer use => exact use.stops [] known
  | checkScript uri => exact Session.stops_act (FileStore.checkScript_stops uri) [] known
  | putFileContent path data overwrite =>
    exact Session.stopsAfter_act
      (FileStore.put_stopsAfter (fun _ _ _ => id) path data overwrite) known
  | putLocalFile file path overwrite =>
    exact Session.stopsAfter_act
      (FileStore.putFile_stopsAfter (fun _ _ _ => id) file path overwrite) known
  | fileContent path => exact Session.stops_act (FileStore.readOn_stops _ _ _) [] known
  | fileExists path => exact FileStore.exists_stops path known
  | fileStatus | deleteFile | moveFile | makeDirectory | listFiles =>
    exact Session.stops_act (stops_ask _) [] known
  | pollUntil o what poll hPoll => exact Session.stops_act (stops_pollUntil hPoll o what) [] known

end Operation

/-- Whatever is answered to its calls, an operation makes at most one call after the first that
fails, to clean up what it has begun, and then it fails. -/
theorem at_most_cleans_up {α σ : Type} (op : Operation α) (h : Program.Handler σ) (known : Catalog)
    (s : σ) {before after : List Exchange} {failed : Exchange} {cause : ApiError}
    (hCalls : op.program.exchanges h known s = before ++ failed :: after)
    (hBefore : firstFailure? before = none) (hFailed : failed.failure? = some cause) :
    (after = [] ∨ ∃ x, after = [x] ∧ op.cleansUp before failed.call x.call) ∧
      op.Fails cause (op.program.exec h known s).1.1 := by
  obtain ⟨hFails, hAfter⟩ := (op.stops known).of_failed hCalls hBefore hFailed
  exact ⟨hAfter, hFails⟩

/-- A new job that can neither be read nor be deleted: after the read that fails it is deleted,
which fails too, and no other call is made. -/
theorem at_most_cleans_up_undeletable :
    ∃ settings answer, (Operation.entry (.createJob submitDraft)).program.exchanges
        Platform.handler {} undeletable =
          [⟨.jobs (.create settings), .ok ⟨1⟩⟩] ++
            ⟨.jobs (.get ⟨1⟩), .error (Platform.injected "jobs/get" 500)⟩ ::
              [⟨.jobs (.delete ⟨1⟩), answer⟩] ∧
      JobDraft.leavesNothing [⟨.jobs (.create settings), .ok ⟨1⟩⟩] (.jobs (.get ⟨1⟩))
        (.jobs (.delete ⟨1⟩)) ∧
      ∃ e, ((Operation.entry (.createJob submitDraft)).program.exec Platform.handler {}
        undeletable).1.1 = .error e := by
  obtain ⟨settings, answer, hCalls⟩ : ∃ settings answer,
      (Operation.entry (.createJob submitDraft)).program.exchanges Platform.handler {}
        undeletable = [⟨.jobs (.create settings), .ok ⟨1⟩⟩] ++
          ⟨.jobs (.get ⟨1⟩), .error (Platform.injected "jobs/get" 500)⟩ ::
            [⟨.jobs (.delete ⟨1⟩), answer⟩] := ⟨_, _, rfl⟩
  obtain ⟨hAfter, hFails⟩ := at_most_cleans_up _ Platform.handler {} undeletable hCalls rfl rfl
  obtain ⟨x, hDelete, hCleans⟩ := hAfter.resolve_left (List.cons_ne_nil _ _)
  obtain rfl := (List.cons.inj hDelete).1
  exact ⟨settings, answer, hCalls, hCleans, hFails⟩

end SparkFleet
