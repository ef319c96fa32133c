import SparkFleet.Proofs.CatalogReads
import SparkFleet.Proofs.Cluster.FailedCreation
import SparkFleet.Proofs.FirstFailure
import SparkFleet.Proofs.Job.FailedCreation

/-!
# The errors of operations

Each operation that a caller meets is an `Entry`, with the family that its errors are to have.  The
operations look things up for one another, each with errors of a family of its own, so what they
report is derived part by part: what is looked up is `Action.Faithful` to the first call that
fails, and what leaves an operation is wrapped for its family.

The main statement `errors_stay_in_family` says of every error of every operation, whatever is
answered, that it is of the operation's family, or a wait that took too long, and that it goes back
to the first call that failed.  A job that is useless is deleted before the creation fails; whether
that call fails does not matter.
-/

namespace SparkFleet

open SparkFleet.Action

/-! ### Files, notebooks and clusters that are looked up -/

theorem FileStore.send_faithful (handle : Int64) (parts : List ByteArray) :
    (send handle parts).Faithful := by
  induction parts with
  | nil => exact faithful_ask _
  | cons block rest ih =>
    -- After a block that is refused the handle is closed, and the error is that of the block.
    exact faithful_tryAsk_bind (fun _ => ih) fun _ _ _ _ => rfl

theorem FileStore.putFile_faithful (file path : String) (overwrite : Bool) :
    (putFile file path overwrite).Faithful :=
  (faithful_readLocal file).bind fun _ =>
    (faithful_ask _).bind fun handle => send_faithful handle _

theorem FileStore.checkScript_faithful (uri : String) : (checkScript uri).Faithful := by
  unfold checkScript
  split
  · exact faithful_pure ()
  · refine faithful_tryAsk_bind (fun record => ?_) fun _ _ _ _ => rfl
    dsimp only
    split
    · exact faithful_throw rfl
    · exact faithful_pure ()

theorem Notebook.failedCall?_ofRecord (record : ObjectRecord) :
    failedCall? (ofRecord record) = none := by
  unfold ofRecord
  split <;> rfl

theorem Notebook.get_reports (path : String) :
    (Notebook.get path).Reports (·.family = some .workspace) :=
  reports_within .workspace (faithful_tryAsk_bind
    (fun record => faithful_ofExcept (failedCall?_ofRecord record)) fun _ _ _ _ => rfl)

theorem Cluster.get_reports (id : ClusterId) :
    (Cluster.get id).Reports (·.family = some .cluster) :=
  reports_within .cluster ((faithful_ask _).bind fun _ => faithful_pure _)

theorem Cluster.read_reports (c : Cluster) : c.read.Reports (·.family = some .cluster) :=
  reports_within .cluster (faithful_ask _)

theorem ClusterSize.failedCall?_validate (size : ClusterSize) :
    failedCall? size.validate = none := by
  unfold validate
  cases size with
  | fixed workers => rfl
  | autoscale least greatest =>
    dsimp only
    split <;> rfl

/-- An operation that the state does not allow is refused without a call. -/
theorem Cluster.check_faithful (c : Cluster) (operation : ClusterOperation) :
    (c.check operation).Faithful := by
  refine Faithful.bind (c.read_reports.faithful.bind fun _ => faithful_pure _) fun state => ?_
  refine faithful_ofExcept ?_
  unfold ClusterOperation.validate
  split <;> rfl

/-! ### Jobs and runs -/

namespace Shape

variable (shape : Shape) (f : Family)

theorem need_faithful {β : Type} (field : String) (value : Option β) :
    (need f field value).Faithful := by
  cases value with
  | some b => exact faithful_pure b
  | none => exact faithful_throw rfl

theorem compute_faithful (m : Mode) : (shape.compute f m).Faithful := by
  cases m with
  | interactive =>
    exact (need_faithful f _ _).bind fun id =>
      (Cluster.get_reports id).faithful.bind fun _ => faithful_pure _
  | automated => exact (need_faithful f _ _).bind fun _ => faithful_pure _

theorem task_faithful (k : TaskKind) : (shape.task f k).Faithful := by
  cases k with
  | notebook =>
    exact (need_faithful f _ _).bind fun _ => (need_faithful f _ _).bind fun path =>
      (Notebook.get_reports path).faithful.bind fun _ => faithful_pure _
  | jar =>
    exact (need_faithful f _ _).bind fun _ => (need_faithful f _ _).bind fun _ => faithful_pure _
  | python =>
    exact (need_faithful f _ _).bind fun _ => (need_faithful f _ _).bind fun script =>
      (FileStore.checkScript_faithful script).bind fun _ => faithful_pure _
  | sparkSubmit =>
    exact (need_faithful f _ _).bind fun _ => (need_faithful f _ _).bind fun _ => faithful_pure _

/-- Which kind of job a record describes is decided without a call. -/
theorem failedCall?_variant : failedCall? (shape.variant f) = none := by
  refine failedCall?_bind ?_ fun mode => failedCall?_bind ?_ fun kind => ?_
  · unfold Shape.mode
    split <;> rfl
  · unfold Shape.kind
    split <;> rfl
  · cases Variant.of? mode kind <;> rfl

end Shape

theorem Job.get_reports (id : JobId) : (Job.get id).Reports (·.family = some .job) := by
  refine reports_within .job ((faithful_ask _).bind fun record => ?_)
  refine (faithful_ofExcept (Shape.failedCall?_variant _ _)).bind fun v => ?_
  -- Every variant looks its parts up in the same order, compute before task.
  cases v
  all_goals
    exact (Shape.compute_faithful ..).bind fun _ => (Shape.task_faithful ..).bind fun _ =>
      faithful_pure _

theorem Run.get_reports (id : RunId) : (Run.get id).Reports (·.family = some .run) := by
  refine reports_within .run ((faithful_ask _).bind fun record => ?_)
  refine (faithful_ofExcept (Shape.failedCall?_variant _ _)).bind fun v => ?_
  cases v
  all_goals
    exact (Shape.compute_faithful ..).bind fun _ => (Shape.task_faithful ..).bind fun _ =>
      faithful_pure _

theorem Task.check_faithful {k : TaskKind} (task : Task k) : task.check.Faithful := by
  cases task with
  | python script parameters => exact FileStore.checkScript_faithful script
  | notebook | jar | sparkSubmit => exact faithful_pure ()

/-- A task that cannot be run is refused without a call. -/
theorem Task.failedCall?_validate {k : TaskKind} (task : Task k) :
    failedCall? task.validate = none := by
  unfold Task.validate
  cases task with
  | notebook => rfl
  | jar uri mainClass parameters =>
    dsimp only
    split
    · rfl
    · split <;> rfl
  | python script parameters =>
    dsimp only
    split <;> rfl
  | sparkSubmit parameters =>
    dsimp only
    split <;> rfl

/-! ### Creating a job -/

namespace JobDraft

variable {v : Variant} (d : JobDraft v)

theorem failedCall?_buildSettings : failedCall? d.buildSettings = none := by
  unfold buildSettings
  split
  · rfl
  · exact failedCall?_bind d.task.failedCall?_validate fun _ => rfl

theorem sendUpload_faithful : d.sendUpload.Faithful := by
  unfold sendUpload
  split
  · exact faithful_pure ()
  · split
    · exact faithful_throw rfl
    · dsimp only
      split
      · exact faithful_throw rfl
      · exact FileStore.putFile_faithful _ _ _

theorem prepare_faithful : d.prepare.Faithful :=
  (faithful_ofExcept d.failedCall?_buildSettings).bind fun _ =>
    d.sendUpload_faithful.bind fun _ => d.task.check_faithful.bind fun _ => faithful_pure _

theorem lookUp_faithful (v : Variant) (id : JobId) : (lookUp v id).Faithful := by
  refine (Job.get_reports id).faithful.bind fun job => faithful_ofExcept ?_
  unfold Job.expect
  split <;> rfl

/-- The creation without the deletion of a job that is useless. -/
def attempted : Action (JobOf v) :=
  .within .job (d.prepare >>= fun settings =>
    .ask (.jobs (.create settings)) >>= fun id => lookUp v id)

theorem attempted_faithful : d.attempted.Faithful := by
  refine Faithful.within (d.prepare_faithful.bind fun settings => ?_) .job
  refine Faithful.bind (faithful_ask (.jobs (.create settings))) fun id => ?_
  exact lookUp_faithful v id

/-- The call that removes a useless job. -/
def cleansUp : Call → Bool
  | .jobs (.delete _) => true
  | _ => false

theorem cleansUp_of_keepsJobs {c : Call} (hKeeps : c.keepsJobs = true) : cleansUp c = false := by
  cases c with
  | jobs call =>
    cases call <;> first | rfl | cases hKeeps
  | clusters | libraries | workspace | files => rfl

theorem attempted_cleansUp : d.attempted.CallsOnly (cleansUp · = false) := by
  refine CallsOnly.within ?_ .job
  -- The creation of the job is the one call that does not keep the jobs, and it deletes none.
  refine CallsOnly.bind (d.prepare_keepsJobs.mono fun _ => cleansUp_of_keepsJobs) fun settings => ?_
  refine CallsOnly.bind (callsOnly_ask rfl) fun id => ?_
  exact (lookUp_keepsJobs v id).mono fun _ => cleansUp_of_keepsJobs

section

variable {σ : Type} (h : Program.Handler σ) (s : σ)

/-- Reading a job back is looking it up, and deleting it if that fails. -/
theorem exchanges_readBack (v : Variant) (id : JobId) :
    (exec h (readBack v id) s).1 = (exec h (lookUp v id) s).1 ∧
      ∃ cleanup : List Exchange, (∀ x ∈ cleanup, cleansUp x.call = true) ∧
        Program.exchanges h (readBack v id).run s =
          Program.exchanges h (lookUp v id).run s ++ cleanup := by
  rcases hRead : exec h (lookUp v id) s with ⟨e | job, t⟩
  · -- The job is deleted, and the error is that of the look-up whatever the deletion is answered.
    obtain ⟨hExec, hCalls⟩ := readBack_of_error h hRead
    rw [hExec, hCalls]
    exact ⟨rfl, _, by simp [cleansUp], rfl⟩
  · have hAttempt : exec h (attempt (lookUp v id)) s = (.ok (.ok job), t) := by
      rw [exec_attempt, hRead]
    rw [readBack_of_ok h hRead]
    refine ⟨rfl, [], by simp, ?_⟩
    change Program.exchanges h (attempt (lookUp v id) >>= _).run s = _
    rw [Action.exchanges_bind, hAttempt, exchanges_attempt]
    rfl

/-- A creation ends as it does without the deletion, and makes the same calls before it. -/
theorem exchanges_create :
    (exec h d.create s).1 = (exec h d.attempted s).1 ∧
      ∃ cleanup : List Exchange, (∀ x ∈ cleanup, cleansUp x.call = true) ∧
        Program.exchanges h d.create.run s =
          Program.exchanges h d.attempted.run s ++ cleanup := by
  have hNone : ∀ x ∈ ([] : List Exchange), cleansUp x.call = true := by simp
  rw [create_eq, attempted]
  simp only [exec_within, exchanges_within, exec_bind, Action.exchanges_bind]
  rcases exec h d.prepare s with ⟨e | settings, t⟩
  · exact ⟨rfl, [], hNone, (List.append_nil _).symm⟩
  · dsimp only
    rcases exec h (ask (.jobs (.create settings))) t with ⟨e | id, u⟩
    · exact ⟨rfl, [], hNone, (List.append_nil _).symm⟩
    · obtain ⟨hSame, cleanup, hCleanup, hCalls⟩ := exchanges_readBack h u v id
      dsimp only
      rw [hSame, hCalls]
      exact ⟨rfl, cleanup, hCleanup, by simp only [List.append_assoc]⟩

end

end JobDraft

/-! ### Drafts of clusters -/

/-- An item that is asked for is known, or one call tells it. -/
theorem CatalogItem.access_faithful (i : CatalogItem) : i.access.Faithful := by
  intro σ h known s
  cases hKnown : i.known? known with
  | some v =>
    rw [(access_of_known hKnown).1, (access_of_known hKnown).2]
    rfl
  | none =>
    rw [(access_of_unknown hKnown).1, (access_of_unknown hKnown).2]
    cases (h.answer i.call s).1 <;> rfl

namespace ClusterDraft

theorem choose_faithful {β : Type} (chosen : Option β) {i : CatalogItem}
    {offered : i.Value → Except Error β} (hOffered : ∀ v, failedCall? (offered v) = none) :
    (choose chosen i offered).Faithful := by
  cases chosen with
  | some b => exact Session.faithful_act (faithful_pure b)
  | none =>
    exact i.access_faithful.bind fun v => Session.faithful_act (faithful_ofExcept (hOffered v))

theorem resolve_faithful (d : ClusterDraft) : d.resolve.Faithful := by
  unfold resolve
  rw [resolveSparkVersion_eq, resolveNodeType_eq, resolveZone_eq]
  have hVersion (versions : SparkVersions) : failedCall? (offeredVersion versions) = none := by
    unfold offeredVersion
    split <;> rfl
  have hNodeType (types : NodeTypes) : failedCall? (offeredNodeType types) = none := by
    unfold offeredNodeType
    split <;> rfl
  refine (Session.faithful_act (faithful_ofExcept d.size.failedCall?_validate)).bind fun _ => ?_
  refine (choose_faithful _ hVersion).bind fun version => ?_
  refine (choose_faithful _ hNodeType).bind fun nodeType => ?_
  refine (choose_faithful _ fun _ => rfl).bind fun zone => ?_
  exact Session.faithful_act (faithful_pure _)

theorem create_faithful (d : ClusterDraft) : d.create.Faithful := by
  rw [create_eq]
  refine Session.Faithful.within (Session.Faithful.bind ?_ fun spec => ?_) .cluster
  · unfold prepare
    split
    · exact Session.faithful_act (faithful_throw rfl)
    · exact d.resolve_faithful
  · refine Session.faithful_act (Faithful.bind (faithful_ask (.clusters (.create spec))) ?_)
    exact fun id => (Cluster.get_reports id).faithful

end ClusterDraft

/-! ### Operations -/

/-- An operation that a caller meets, with its arguments. -/
inductive Entry : Type → Type where
  | getCluster (id : ClusterId) : Entry Cluster
  | listClusters : Entry (List Cluster)
  | clusterState (c : Cluster) : Entry ClusterState
  | refreshCluster (c : Cluster) : Entry Cluster
  | executors (c : Cluster) : Entry (List SparkNode)
  | driver (c : Cluster) : Entry (Option SparkNode)
  | resize (c : Cluster) (size : ClusterSize) : Entry Cluster
  | restart (c : Cluster) : Entry Unit
  | terminate (c : Cluster) : Entry Unit
  | permanentDelete (c : Cluster) : Entry Unit
  | buildSpec (d : ClusterDraft) : Entry ClusterSpec
  | createCluster (d : ClusterDraft) : Entry Cluster
  | getJob (id : JobId) : Entry Job
  | createJob {v : Variant} (d : JobDraft v) : Entry (JobOf v)
  | runWith {v : Variant} (j : JobOf v) (params : v.kind.Overrides) : Entry (RunOf v)
  | deleteJob {v : Variant} (j : JobOf v) : Entry Unit
  | getRun (id : RunId) : Entry Run
  | runState {v : Variant} (r : RunOf v) : Entry RunState
  | refreshRun {v : Variant} (r : RunOf v) : Entry (RunOf v)
  | runOutput {v : Variant} (r : RunOf v) : Entry (Option String)
  | libraryStatuses (c : Cluster) : Entry (List LibraryStatus)
  | install (l : Library) (c : Cluster) : Entry InstalledLibrary
  | uninstall (l : Library) (c : Cluster) : Entry Unit
  | libraryStatus (l : Library) (c : Cluster) : Entry LibraryStatus
  | getNotebook (path : String) : Entry Notebook
  | importNotebook (path : String) (language : Language) (content : ByteArray)
    (overwrite : Bool) : Entry Notebook
  | exportNotebook (n : Notebook) (format : ExportFormat) : Entry ByteArray
  | listWorkspace (path : String) : Entry (List ObjectRecord)
  | mkdirs (path : String) : Entry Unit
  | deleteObject (path : String) (recursive : Bool) : Entry Unit
  | waitForCluster (o : WaitOptions) (c : Cluster) (target : ClusterState) : Entry Cluster
  | waitForRun (o : WaitOptions) (r : Run) : Entry RunState
  | waitForLibrary (o : WaitOptions) (i : InstalledLibrary) : Entry LibraryStatus

namespace Entry

variable {α : Type}

/-- The operation as a program of a session. -/
def program : Entry α → Session α
  | .getCluster id => .act (Cluster.get id)
  | .listClusters => .act Cluster.list
  | .clusterState c => .act c.state
  | .refreshCluster c => .act c.refresh
  | .executors c => .act c.executors
  | .driver c => .act c.driver
  | .resize c size => .act (c.resize size)
  | .restart c => .act c.restart
  | .terminate c => .act c.terminate
  | .permanentDelete c => .act c.permanentDelete
  | .buildSpec d => d.buildSpec
  | .createCluster d => d.create
  | .getJob id => .act (Job.get id)
  | .createJob d => .act d.create
  | .runWith j params => .act (j.runWith params)
  | .deleteJob j => .act j.delete
  | .getRun id => .act (Run.get id)
  | .runState r => .act r.state
  | .refreshRun r => .act r.refresh
  | .runOutput r => .act r.output
  | .libraryStatuses c => .act c.libraryStatuses
  | .install l c => .act (l.install c)
  | .uninstall l c => .act (l.uninstall c)
  | .libraryStatus l c => .act (l.clusterStatus c)
  | .getNotebook path => .act (Notebook.get path)
  | .importNotebook path language content overwrite =>
    .act (Notebook.importSource path language content overwrite)
  | .exportNotebook n format => .act (n.exportAs format)
  | .listWorkspace path => .act (Workspace.list path)
  | .mkdirs path => .act (Workspace.mkdirs path)
  | .deleteObject path recursive => .act (Workspace.delete path recursive)
  | .waitForCluster o c target => .act (Wait.clusterState o c target)
  | .waitForRun o r => .act (Wait.run o r)
  | .waitForLibrary o i => .act (Wait.library o i)

/-- The family of the operation's errors. -/
def family : Entry α → Family
  | .getCluster _ | .listClusters | .clusterState _ | .refreshCluster _ | .executors _ | .driver _
  | .resize _ _ | .restart _ | .terminate _ | .permanentDelete _ | .buildSpec _
  | .createCluster _ | .waitForCluster _ _ _ => .cluster
  | .getJob _ | .createJob _ | .runWith _ _ | .deleteJob _ => .job
  | .getRun _ | .runState _ | .refreshRun _ | .runOutput _ | .waitForRun _ _ => .run
  | .libraryStatuses _ | .install _ _ | .uninstall _ _ | .libraryStatus _ _
  | .waitForLibrary _ _ => .library
  | .getNotebook _ | .importNotebook _ _ _ _ | .exportNotebook _ _ | .listWorkspace _ | .mkdirs _
  | .deleteObject _ _ => .workspace

/-- The operation waits, and may give up. -/
def waits : Entry α → Bool
  | .waitForCluster _ _ _ | .waitForRun _ _ | .waitForLibrary _ _ => true
  | _ => false

/-- The calls that remove what a failed creation would leave; what comes of them does not matter. -/
def cleansUp : Entry α → Call → Bool
  | .createJob _ => JobDraft.cleansUp
  | _ => fun _ => false

/-- The error is of the operation's family, or a wait that took too long. -/
def Owns (entry : Entry α) (e : Error) : Prop :=
  e.family = some entry.family ∨ entry.waits = true ∧ ∃ what waited, e = .timeout what waited

end Entry

/-- What the failed call at the root of an error is. -/
structure GoesBack (e : Error) (calls : List Exchange) (cleansUp : Call → Bool) : Prop where
  /-- It is the first call that failed. -/
  first : ∀ cause, e.transport? = some cause → firstFailure? calls = some cause
  /-- There is one as soon as a call has failed that does not clean up. -/
  caused : e.transport? = firstFailure? (calls.filter (!cleansUp ·.call))

namespace Entry

variable {α : Type}

/-- Every error of the operation is its own, and goes back to the calls that it makes. -/
def Sound (entry : Entry α) : Prop :=
  ∀ ⦃σ : Type⦄ (h : Program.Handler σ) (known : Catalog) (s : σ) (e : Error),
    (entry.program.exec h known s).1.1 = .error e →
      entry.Owns e ∧ GoesBack e (entry.program.exchanges h known s) entry.cleansUp

/-- An operation that does not go on after a failed call goes back to it. -/
theorem goesBack_of_faithful {entry : Entry α} (hProgram : entry.program.Faithful)
    (hCleans : ∀ c, entry.cleansUp c = false) {σ : Type} (h : Program.Handler σ) (known : Catalog)
    (s : σ) {e : Error} (hError : (entry.program.exec h known s).1.1 = .error e) :
    GoesBack e (entry.program.exchanges h known s) entry.cleansUp := by
  have hFirst := hProgram h known s
  rw [hError] at hFirst
  refine ⟨fun cause hCause => hFirst.trans hCause, ?_⟩
  rw [List.filter_eq_self.2 fun x _ => by simp [hCleans], hFirst]
  rfl

theorem sound_act {entry : Entry α} {act : Action α} (hProgram : entry.program = .act act)
    (hReports : act.Reports entry.Owns) (hCleans : ∀ c, entry.cleansUp c = false) :
    entry.Sound := by
  intro σ h known s e hError
  have hFaithful : entry.program.Faithful := hProgram ▸ Session.faithful_act hReports.faithful
  refine ⟨?_, goesBack_of_faithful hFaithful hCleans h known s hError⟩
  rw [hProgram, Session.exec_act] at hError
  exact (hReports.ends h s).of_error (Prod.ext hError rfl)

theorem sound_within {entry : Entry α} {act : Action α}
    (hProgram : entry.program = .act (.within entry.family act)) (hAct : act.Faithful)
    (hCleans : ∀ c, entry.cleansUp c = false) : entry.Sound :=
  sound_act hProgram ((reports_within entry.family hAct).mono fun _ => .inl) hCleans

/-- As for an action, with a catalog. -/
theorem sound_session {entry : Entry α} {act : Session α}
    (hProgram : entry.program = .within entry.family act) (hFaithful : entry.program.Faithful)
    (hCleans : ∀ c, entry.cleansUp c = false) : entry.Sound := by
  intro σ h known s e hError
  refine ⟨.inl ?_, goesBack_of_faithful hFaithful hCleans h known s hError⟩
  rw [hProgram, Session.exec_within] at hError
  cases hExec : (act.exec h known s).1.1 with
  | ok a =>
    rw [hExec] at hError
    cases hError
  | error cause =>
    -- Whatever the error inside was, it leaves with the family of the operation.
    rw [hExec] at hError
    rw [← Except.error.inj hError, Error.family_within]

/-- A job that is useless is deleted after the error has been found. -/
theorem sound_createJob {v : Variant} (d : JobDraft v) : (createJob d).Sound := by
  intro σ h known s e hError
  obtain ⟨hSame, cleanup, hCleanup, hCalls⟩ := d.exchanges_create h s
  rw [program, Session.exec_act] at hError
  have hAttempted := hSame.symm.trans hError
  have hFirst := d.attempted_faithful h s
  rw [hAttempted] at hFirst
  rw [program, Session.exchanges_act, hCalls]
  refine ⟨.inl (family_of_within hAttempted), fun cause hCause => ?_, ?_⟩
  · -- The deletion comes after the failure, so it is not the first.
    rw [firstFailure?_append, hFirst, failedCall?, hCause, Option.some_or]
  · -- Without the deletions, which are all at the end, the calls are those of the attempt.
    have hQuiet : ∀ x ∈ Program.exchanges h d.attempted.run s, JobDraft.cleansUp x.call = false :=
      fun _ hMem => Program.CallsOnly.of_mem d.attempted_cleansUp hMem
    have hKept : (Program.exchanges h d.attempted.run s ++ cleanup).filter
        (!(createJob d).cleansUp ·.call) = Program.exchanges h d.attempted.run s := by
      rw [List.filter_append, List.filter_eq_self.2 fun x hMem => ?_,
        List.filter_eq_nil_iff.2 fun x hMem => ?_, List.append_nil]
      · simp [cleansUp, hCleanup x hMem]
      · simp [cleansUp, hQuiet x hMem]
    rw [hKept, hFirst]
    rfl

end Entry

/-! ### What the operations report -/

theorem Cluster.refresh_reports (c : Cluster) : c.refresh.Reports (·.family = some .cluster) :=
  c.read_reports.bind fun _ => reports_pure _

theorem Cluster.resize_faithful (c : Cluster) (size : ClusterSize) :
    Faithful (do
      Action.ofExcept size.validate
      c.check .resize
      let _ ← Action.ask (.clusters (.resize ⟨c.id, size.toParts.1, size.toParts.2⟩))
      c.refresh) :=
  (faithful_ofExcept size.failedCall?_validate).bind fun _ =>
    (c.check_faithful .resize).bind fun _ =>
      Faithful.bind (faithful_ask (.clusters (.resize _))) fun _ => c.refresh_reports.faithful

theorem RunOf.read_reports {v : Variant} (r : RunOf v) : r.read.Reports (·.family = some .run) :=
  reports_within .run (faithful_ask _)

theorem RunOf.state_reports {v : Variant} (r : RunOf v) :
    r.state.Reports (·.family = some .run) :=
  r.read_reports.bind fun _ => reports_pure _

/-- An output that says that the run failed is an error of the run. -/
theorem RunOf.output_reports {v : Variant} (r : RunOf v) :
    r.output.Reports (·.family = some .run) := by
  refine Reports.bind (reports_within .run (faithful_ask _)) fun output => ?_
  refine reports_ofExcept fun e hResult => ?_
  unfold returned at hResult
  split at hResult
  · cases hResult
  · cases hResult
    exact ⟨rfl, rfl⟩
  · cases hResult

theorem Cluster.libraryStatuses_reports (c : Cluster) :
    c.libraryStatuses.Reports (·.family = some .library) :=
  reports_within .library ((faithful_ask (.libraries (.clusterStatus c.id))).bind fun _ =>
    faithful_pure _)

theorem Library.clusterStatus_reports (l : Library) (c : Cluster) :
    (l.clusterStatus c).Reports (·.family = some .library) := by
  refine c.libraryStatuses_reports.bind fun statuses => ?_
  cases statuses.find? fun status => status.library.isSameAs l with
  | some status => exact reports_pure status
  | none => exact reports_throw rfl rfl

theorem Notebook.importSource_reports (path : String) (language : Language) (content : ByteArray)
    (overwrite : Bool) :
    (Notebook.importSource path language content overwrite).Reports
      (·.family = some .workspace) := by
  refine Reports.bind (reports_within .workspace (faithful_ask _)) fun _ => ?_
  exact Notebook.get_reports path

theorem Wait.clusterPoll_reports (c : Cluster) (target : ClusterState) :
    (clusterPoll c target).Reports (·.family = some .cluster) := by
  refine c.refresh_reports.bind fun now => reports_ofExcept fun e hResult => ?_
  unfold clusterReached at hResult
  split at hResult
  · -- The awaited state is out of reach, which is an error of the cluster without a failed call.
    cases hResult
  · split at hResult
    · cases hResult
      exact ⟨rfl, rfl⟩
    · cases hResult

namespace Entry

variable {α : Type}

theorem sound_own {entry : Entry α} {act : Action α} (hProgram : entry.program = .act act)
    (hReports : act.Reports (·.family = some entry.family))
    (hCleans : ∀ c, entry.cleansUp c = false) : entry.Sound :=
  sound_act hProgram (hReports.mono fun _ => .inl) hCleans

/-- A wait whose polls report errors of its family. -/
theorem sound_wait {entry : Entry α} {o : WaitOptions} {what : String}
    {poll : Nat → Action (Option α)} (hProgram : entry.program = .act (Wait.pollUntil o what poll))
    (hPoll : ∀ k, (poll k).Reports (·.family = some entry.family)) (hWaits : entry.waits = true)
    (hCleans : ∀ c, entry.cleansUp c = false) : entry.Sound :=
  sound_act hProgram (reports_pollUntil (fun k => (hPoll k).mono fun _ => .inl)
    (fun what waited => .inr ⟨hWaits, what, waited, rfl⟩) o what) hCleans

theorem sound (entry : Entry α) : entry.Sound := by
  -- Most operations are one action that is wrapped for their family (`sound_within`), or one whose
  -- parts report errors of that family (`sound_own`).
  cases entry with
  | getCluster id => exact sound_own rfl (Cluster.get_reports id) fun _ => rfl
  | listClusters =>
    exact sound_within rfl ((faithful_ask (.clusters .list)).bind fun _ => faithful_pure _)
      fun _ => rfl
  | clusterState c | executors c | driver c =>
    exact sound_own rfl (c.read_reports.bind fun _ => reports_pure _) fun _ => rfl
  | refreshCluster c => exact sound_own rfl c.refresh_reports fun _ => rfl
  | resize c size => exact sound_within rfl (c.resize_faithful size) fun _ => rfl
  | restart c | terminate c | permanentDelete c =>
    exact sound_within rfl ((c.check_faithful _).bind fun _ => faithful_ask _) fun _ => rfl
  | buildSpec d => exact sound_session rfl (d.resolve_faithful.within .cluster) fun _ => rfl
  | createCluster d => exact sound_session rfl d.create_faithful fun _ => rfl
  | getJob id => exact sound_own rfl (Job.get_reports id) fun _ => rfl
  | createJob d =>
    -- The only operation that goes on after a failure.
    exact sound_createJob d
  | runWith j params =>
    refine sound_within rfl (Faithful.bind (faithful_ask (.jobs (.runNow _))) fun started => ?_)
      fun _ => rfl
    exact Faithful.bind (faithful_ask (.jobs (.getRun started.runId))) fun _ => faithful_pure _
  | deleteJob j => exact sound_within rfl (faithful_ask _) fun _ => rfl
  | getRun id => exact sound_own rfl (Run.get_reports id) fun _ => rfl
  | runState r => exact sound_own rfl r.state_reports fun _ => rfl
  | refreshRun r => exact sound_own rfl (r.read_reports.bind fun _ => reports_pure _) fun _ => rfl
  | runOutput r => exact sound_own rfl r.output_reports fun _ => rfl
  | libraryStatuses c => exact sound_own rfl c.libraryStatuses_reports fun _ => rfl
  | install l c =>
    exact sound_within rfl ((faithful_ask _).bind fun _ => faithful_pure _) fun _ => rfl
  | uninstall l c => exact sound_within rfl (faithful_ask _) fun _ => rfl
  | libraryStatus l c => exact sound_own rfl (l.clusterStatus_reports c) fun _ => rfl
  | getNotebook path => exact sound_own rfl (Notebook.get_reports path) fun _ => rfl
  | importNotebook path language content overwrite =>
    exact sound_own rfl (Notebook.importSource_reports path language content overwrite) fun _ => rfl
  | exportNotebook n format => exact sound_within rfl (faithful_ask _) fun _ => rfl
  | listWorkspace path | mkdirs path =>
    exact sound_within rfl (faithful_ask _) fun _ => rfl
  | deleteObject path recursive => exact sound_within rfl (faithful_ask _) fun _ => rfl
  | waitForCluster o c target =>
    -- A wait has the errors of its polls, and one of its own.
    exact sound_wait rfl (fun _ => Wait.clusterPoll_reports c target) rfl fun _ => rfl
  | waitForRun o r =>
    refine sound_wait rfl (fun _ => ?_) rfl fun _ => rfl
    refine r.details.state_reports.bind fun state => ?_
    exact reports_pure _
  | waitForLibrary o i =>
    refine sound_wait rfl (fun _ => ?_) rfl fun _ => rfl
    exact Reports.bind (i.library.clusterStatus_reports i.cluster) fun status => reports_pure _

end Entry

/-- Whatever is answered to its calls, an operation fails with errors of its own family, or as a
wait that took too long, and where a failed call is at the root of the error, it is the first that
failed. -/
theorem errors_stay_in_family {α σ : Type} (entry : Entry α) (h : Program.Handler σ)
    (known : Catalog) (s : σ) {e : Error}
    (hError : (entry.program.exec h known s).1.1 = .error e) :
    (e.family = some entry.family ∨
        entry.waits = true ∧ ∃ what waited, e = .timeout what waited) ∧
      GoesBack e (entry.program.exchanges h known s) entry.cleansUp :=
  entry.sound h known s e hError

/-- A platform that creates jobs, but neither reads nor deletes them. -/
def undeletable : Simulation Platform where
  state := ({} : Platform).after [.injectFailure "jobs/get" 500, .injectFailure "jobs/delete" 503]

/-- A new job that can neither be read nor be deleted: the error goes back to the read. -/
theorem errors_stay_in_family_undeletable :
    ∃ e, ((Entry.createJob submitDraft).program.exec Platform.handler {} undeletable).1.1 =
        .error e ∧
      e.family = some .job ∧
      e.transport? = some (Platform.injected "jobs/get" 500) ∧
      firstFailure? ((Entry.createJob submitDraft).program.exchanges Platform.handler {}
        undeletable) = some (Platform.injected "jobs/get" 500) := by
  obtain ⟨e, hError, hRoot⟩ : ∃ e,
      ((Entry.createJob submitDraft).program.exec Platform.handler {} undeletable).1.1 =
          .error e ∧
        e.transport? = some (Platform.injected "jobs/get" 500) := ⟨_, rfl, rfl⟩
  obtain ⟨hFamily, hBack⟩ := errors_stay_in_family _ Platform.handler {} undeletable hError
  have hJob : e.family = some .job := hFamily.resolve_right fun hWait => nomatch hWait.1
  exact ⟨e, hError, hJob, hRoot, hBack.first _ hRoot⟩

end SparkFleet
