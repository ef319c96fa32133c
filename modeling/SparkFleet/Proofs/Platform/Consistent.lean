import SparkFleet.Proofs.Platform.Frame
import SparkFleet.Proofs.SortedMap

/-!
# What holds in every state of the platform

Every resource is kept under the identifier or path that its record names, every object is a
notebook, and the number of every job has been given out.  `Reachable.consistent` says so of every
reachable platform: each call and each change from outside keeps it.
-/

namespace SparkFleet.Platform

variable {p q : Platform}

/-- The number has been given to a resource. -/
def Issued (p : Platform) (number : Int64) : Prop := ∃ n ≤ p.lastNumber, number = .ofNat n

theorem Issued.mono {number : Int64} (hIssued : p.Issued number)
    (hLe : p.lastNumber ≤ q.lastNumber) : q.Issued number := by
  obtain ⟨n, hn, rfl⟩ := hIssued
  exact ⟨n, Nat.le_trans hn hLe, rfl⟩

/-- A cluster is kept under its own identifier. -/
def ClusterKept (id : ClusterId) (entry : ClusterEntry) : Prop := entry.record.clusterId = id

/-- A job is kept under its own identifier, which has been given out. -/
def JobKept (p : Platform) (id : JobId) (record : JobRecord) : Prop :=
  record.jobId = id ∧ p.Issued id.number

/-- A run is kept under its own identifier. -/
def RunKept (id : RunId) (entry : RunEntry) : Prop := entry.record.runId = id

/-- A notebook is kept under its own path. -/
def NotebookKept (path : String) (object : ObjectEntry) : Prop :=
  object.record.objectType = .notebook ∧ object.record.path = path

/-- Everything is kept under its own name. -/
structure Consistent (p : Platform) : Prop where
  clusters : p.clusters.All ClusterKept
  jobs : p.jobs.All p.JobKept
  runs : p.runs.All RunKept
  /-- The objects are, and they are notebooks. -/
  objects : p.objects.All NotebookKept

/-- Jobs stay where they are when more numbers are given out. -/
theorem jobs_kept_mono (hJobs : p.jobs.All p.JobKept) (hSame : q.jobs = p.jobs)
    (hLe : p.lastNumber ≤ q.lastNumber) : q.jobs.All q.JobKept := by
  rw [hSame]
  intro id record hGet
  exact ⟨(hJobs hGet).1, (hJobs hGet).2.mono hLe⟩

/-! ### Clusters -/

@[simp] theorem clusterId_inState (r : ClusterRecord) (state : ClusterState) :
    (r.inState state).clusterId = r.clusterId := by
  cases state <;> rfl

theorem clusters_finish {id : ClusterId} {entry : ClusterEntry} (target : ClusterState)
    (hClusters : p.clusters.All ClusterKept) (hEntry : ClusterKept id entry) :
    (p.finish id entry target).clusters.All ClusterKept := by
  have hNew : ClusterKept id ⟨entry.record.inState target, none⟩ :=
    (clusterId_inState _ _).trans hEntry
  unfold finish
  split <;> exact hClusters.insert hNew

theorem clusters_observe {id : ClusterId} {entry : ClusterEntry}
    (hClusters : p.clusters.All ClusterKept) (hEntry : ClusterKept id entry) :
    (p.observeCluster id entry).clusters.All ClusterKept := by
  unfold observeCluster
  split
  · exact hClusters
  · exact clusters_finish _ hClusters hEntry
  · exact hClusters.insert hEntry

theorem clusters_settle {id : ClusterId} (hClusters : p.clusters.All ClusterKept) :
    (p.settleCluster id).clusters.All ClusterKept := by
  unfold settleCluster
  split
  · next entry hEntry =>
    split
    · exact clusters_finish _ hClusters (hClusters hEntry)
    · exact hClusters
  · exact hClusters

theorem clusters_change {id : ClusterId} {allowed : ClusterState → Bool}
    {state target : ClusterState} {u : Unit} (hClusters : p.clusters.All ClusterKept)
    (h : p.changeCluster id allowed state target = .ok (u, q)) : q.clusters.All ClusterKept := by
  obtain ⟨entry, hFind, h⟩ := bind_eq_ok h
  have hEntry : ClusterKept id entry := hClusters (findCluster_eq_ok_iff.1 hFind)
  split at h
  · cases h
    exact hClusters.insert hEntry
  · cases h

theorem clusters_perform {c : ClusterCall} {a : c.Answer} (hClusters : p.clusters.All ClusterKept)
    (h : p.performClusters c = .ok (a, q)) : q.clusters.All ClusterKept := by
  cases c with
  | create spec =>
    obtain ⟨rfl, rfl⟩ := createCluster_eq_ok h
    exact hClusters.insert rfl
  | get id =>
    -- A read may write the cluster anew, but under the same identifier.
    obtain ⟨entry, hFind, h⟩ := bind_eq_ok h
    obtain ⟨entry', -, h⟩ := bind_eq_ok h
    cases h
    exact clusters_observe hClusters (hClusters (findCluster_eq_ok_iff.1 hFind))
  | resize r =>
    obtain ⟨entry, hFind, h⟩ := bind_eq_ok h
    have hEntry : ClusterKept r.clusterId entry := hClusters (findCluster_eq_ok_iff.1 hFind)
    split at h
    · cases h
    · cases h
      exact hClusters.insert hEntry
  | restart id =>
    have hChange : p.changeCluster id (· == .running) .restarting .running = .ok (a, q) := h
    exact clusters_change hClusters hChange
  | terminate id =>
    have hChange : p.changeCluster id (!·.isTerminal) .terminating .terminated = .ok (a, q) := h
    exact clusters_change hClusters hChange
  | permanentDelete id =>
    obtain ⟨entry, -, h⟩ := bind_eq_ok h
    cases h
    exact hClusters.erase id
  | list | sparkVersions | nodeTypes | zones =>
    cases h
    exact hClusters

/-! ### Jobs and runs -/

/-- The number that is given next has then been given. -/
theorem issued_nextNumber (hLast : q.lastNumber = p.nextNumber) : q.Issued (.ofNat p.nextNumber) :=
  ⟨p.nextNumber, Nat.le_of_eq hLast.symm, rfl⟩

theorem jobs_create (settings : JobSettings) (hJobs : p.jobs.All p.JobKept) :
    (p.createJob settings).2.jobs.All (p.createJob settings).2.JobKept := by
  have hOld : p.jobs.All (p.createJob settings).2.JobKept := fun id record hGet =>
    ⟨(hJobs hGet).1, (hJobs hGet).2.mono (Nat.le_succ _)⟩
  exact hOld.insert ⟨rfl, issued_nextNumber rfl⟩

theorem jobs_perform {c : JobCall} {a : c.Answer} (hJobs : p.jobs.All p.JobKept)
    (h : p.performJobs c = .ok (a, q)) : q.jobs.All q.JobKept := by
  cases c with
  | create settings =>
    cases h
    exact jobs_create settings hJobs
  | get id =>
    obtain ⟨record, -, h⟩ := map_eq_ok h
    cases h
    exact hJobs
  | runNow request =>
    -- Jobs are left, but the counter moves on, so the numbers have been given out all the more.
    obtain ⟨job, -, h⟩ := bind_eq_ok h
    cases h
    exact jobs_kept_mono hJobs rfl (Nat.le_succ _)
  | getRun id | getRunOutput id =>
    obtain ⟨found, -, h⟩ := bind_eq_ok h
    cases h
    exact hJobs
  | delete id =>
    obtain ⟨found, -, h⟩ := bind_eq_ok h
    cases h
    exact hJobs.erase id

theorem runKept_observe {id : RunId} {entry : RunEntry} (hEntry : RunKept id entry) :
    RunKept id (observeRun entry) := by
  unfold observeRun
  split
  · exact hEntry
  · split <;> exact hEntry

theorem runs_perform {c : JobCall} {a : c.Answer} (hRuns : p.runs.All RunKept)
    (h : p.performJobs c = .ok (a, q)) : q.runs.All RunKept := by
  cases c with
  | create settings =>
    cases h
    exact hRuns
  | get id =>
    obtain ⟨record, -, h⟩ := map_eq_ok h
    cases h
    exact hRuns
  | runNow request =>
    obtain ⟨job, -, h⟩ := bind_eq_ok h
    cases h
    exact hRuns.insert rfl
  | getRun id =>
    obtain ⟨entry, hFind, h⟩ := bind_eq_ok h
    cases h
    exact hRuns.insert (runKept_observe (hRuns (findRun_eq_ok_iff.1 hFind)))
  | getRunOutput id | delete id =>
    obtain ⟨found, -, h⟩ := bind_eq_ok h
    cases h
    exact hRuns

/-! ### Notebooks -/

theorem objects_perform {c : WorkspaceCall} {a : c.Answer} (hObjects : p.objects.All NotebookKept)
    (h : p.performWorkspace c = .ok (a, q)) : q.objects.All NotebookKept := by
  cases c with
  | getStatus path | list path | exportNotebook path format =>
    obtain ⟨found, -, h⟩ := map_eq_ok h
    cases h
    exact hObjects
  | mkdirs path =>
    cases h
    exact hObjects
  | delete path recursive =>
    simp only [performWorkspace, deleteObject] at h
    split at h
    · cases h
      exact hObjects.erase path
    · split at h
      · cases h
      · split at h
        · cases h
        · cases h
          exact hObjects.filter fun o _ => !Path.isBelow o (Path.directory path)
  | importNotebook n =>
    -- A notebook replaces one at the same path, whose record names this path.
    simp only [performWorkspace, importNotebook] at h
    split at h
    · cases h
    · split at h
      · cases h
      · cases h
        exact hObjects.insert ⟨rfl, rfl⟩

/-! ### Every event -/

theorem Consistent.perform {c : Call} {a : c.Answer} (hConsistent : p.Consistent)
    (h : p.perform c = .ok (a, q)) : q.Consistent := by
  obtain ⟨hClusters, hJobs, hRuns, hObjects⟩ := hConsistent
  have hLe := lastNumber_le_perform h
  -- What a family of calls may change is kept by its own lemma; the rest is read off its frame law.
  cases c with
  | clusters call =>
    have hFrame := (performClusters_frame h).1
    refine ⟨clusters_perform hClusters h, jobs_kept_mono hJobs ?_ hLe, ?_, ?_⟩
    · rw [hFrame]
    · rw [hFrame]
      exact hRuns
    · rw [hFrame]
      exact hObjects
  | jobs call =>
    have hFrame := (performJobs_frame h).1
    refine ⟨?_, jobs_perform hJobs h, runs_perform hRuns h, ?_⟩
    · rw [hFrame]
      exact hClusters
    · rw [hFrame]
      exact hObjects
  | libraries call =>
    rw [performLibraries_frame h]
    exact ⟨hClusters, hJobs, hRuns, hObjects⟩
  | workspace call =>
    have hFrame := (performWorkspace_frame h).1
    refine ⟨?_, jobs_kept_mono hJobs ?_ hLe, ?_, objects_perform hObjects h⟩
    · rw [hFrame]
      exact hClusters
    · rw [hFrame]
    · rw [hFrame]
      exact hRuns
  | files call =>
    have hFrame := (performFiles_frame h).1
    refine ⟨?_, jobs_kept_mono hJobs ?_ hLe, ?_, ?_⟩
    · rw [hFrame]
      exact hClusters
    · rw [hFrame]
    · rw [hFrame]
      exact hRuns
    · rw [hFrame]
      exact hObjects

theorem Consistent.apply (hConsistent : p.Consistent) (e : Event) : (e.apply p).Consistent := by
  obtain ⟨hClusters, hJobs, hRuns, hObjects⟩ := hConsistent
  have hLe := lastNumber_le_apply (p := p) e
  cases e with
  | call c =>
    have hCounted : (p.count c.endpoint).Consistent := ⟨hClusters, hJobs, hRuns, hObjects⟩
    exact serve_induction hCounted fun _ _ h => hCounted.perform h
  | settleReads | injectFailure | clearFailure | offerVersions | offerNodeTypes | offerZones
  | setLibraryStatus =>
    exact ⟨hClusters, hJobs, hRuns, hObjects⟩
  | addFile path content =>
    simp only [Event.apply, addFile]
    rw [writeFile_frame]
    exact ⟨hClusters, jobs_kept_mono hJobs rfl (Nat.le_refl _), hRuns, hObjects⟩
  | putCluster record =>
    -- What is put in place from outside is kept under the name in its own record too.
    exact ⟨hClusters.insert rfl, hJobs, hRuns, hObjects⟩
  | addRunningCluster name workers =>
    exact ⟨hClusters.insert rfl, jobs_kept_mono hJobs rfl hLe, hRuns, hObjects⟩
  | settleCluster id =>
    simp only [Event.apply]
    refine ⟨clusters_settle hClusters, ?_, ?_, ?_⟩
    · rw [settleCluster_frame]
      exact hJobs
    · rw [settleCluster_frame]
      exact hRuns
    · rw [settleCluster_frame]
      exact hObjects
  | failCluster id =>
    simp only [Event.apply, failCluster]
    split
    · next entry hEntry =>
      have hNew : ClusterKept id ⟨entry.record.inState .error, none⟩ :=
        (clusterId_inState _ _).trans (hClusters hEntry)
      exact ⟨hClusters.insert hNew, hJobs, hRuns, hObjects⟩
    · exact ⟨hClusters, hJobs, hRuns, hObjects⟩
  | putJob settings => exact ⟨hClusters, jobs_create settings hJobs, hRuns, hObjects⟩
  | putRun record => exact ⟨hClusters, hJobs, hRuns.insert rfl, hObjects⟩
  | setRunOutput id output =>
    exact ⟨hClusters, hJobs, hRuns.modify fun _ h => h, hObjects⟩
  | finishRun id result => exact ⟨hClusters, hJobs, hRuns.modify fun _ h => h, hObjects⟩
  | addNotebook path language content =>
    exact ⟨hClusters, jobs_kept_mono hJobs rfl hLe, hRuns, hObjects.insert ⟨rfl, rfl⟩⟩

/-- Every reachable platform keeps everything under its own name. -/
theorem Reachable.consistent (hReach : p.Reachable) : p.Consistent :=
  hReach.induction ⟨.empty, .empty, .empty, .empty⟩ fun _ e h => h.apply e

end SparkFleet.Platform
