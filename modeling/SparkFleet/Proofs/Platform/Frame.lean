import SparkFleet.Proofs.Platform.Event

/-!
# What each family of calls leaves alone

Each family of calls changes only some of what the platform keeps.  A frame law says so in one
equation: the new state is the old one with the parts that the family may change, so every other
part is read off it.  Numbers are only counted up (`lastNumber_le_apply`).

`serve_cases` says what serving a call comes to: the call is performed, or it is only counted.  In
each case it is counted once (`callCount_serve`).
-/

namespace SparkFleet.Platform

variable {p q : Platform}

theorem ok_bind {α β : Type} (a : α) (f : α → Except ApiError β) : Except.ok a >>= f = f a := rfl

/-- A successful chain of results begins with a success. -/
theorem bind_eq_ok {ε α β : Type} {x : Except ε α} {f : α → Except ε β} {b : β}
    (h : x >>= f = .ok b) : ∃ a, x = .ok a ∧ f a = .ok b := by
  cases x with
  | error e => cases h
  | ok a => exact ⟨a, rfl, h⟩

/-- A successful result is the image of a success. -/
theorem map_eq_ok {α β : Type} {x : Except ApiError α} {f : α → β} {b : β}
    (h : x.map f = .ok b) : ∃ a, x = .ok a ∧ f a = b := by
  cases x with
  | error e => cases h
  | ok a => exact ⟨a, rfl, Except.ok.inj h⟩

/-! ### Lookups -/

theorem findCluster_eq_ok_iff {id : ClusterId} {entry : ClusterEntry} :
    p.findCluster id = .ok entry ↔ p.clusters.get? id = some entry := by
  unfold findCluster
  split <;> simp_all

theorem findJob_eq_ok_iff {id : JobId} {record : JobRecord} :
    p.findJob id = .ok record ↔ p.jobs.get? id = some record := by
  unfold findJob
  split <;> simp_all

theorem findRun_eq_ok_iff {id : RunId} {entry : RunEntry} :
    p.findRun id = .ok entry ↔ p.runs.get? id = some entry := by
  unfold findRun
  split <;> simp_all

theorem findUpload_eq_ok_iff {handle : Int64} {upload : Upload} :
    p.findUpload handle = .ok upload ↔ p.uploads.get? handle = some upload := by
  unfold findUpload
  split <;> simp_all

/-! ### Clusters -/

theorem finish_frame (id : ClusterId) (entry : ClusterEntry) (target : ClusterState) :
    p.finish id entry target =
      { p with
        clusters := (p.finish id entry target).clusters
        libraries := (p.finish id entry target).libraries } := by
  unfold finish
  split <;> rfl

theorem observeCluster_frame (id : ClusterId) (entry : ClusterEntry) :
    p.observeCluster id entry =
      { p with
        clusters := (p.observeCluster id entry).clusters
        libraries := (p.observeCluster id entry).libraries } := by
  unfold observeCluster
  split
  · rfl
  · exact finish_frame id entry _
  · rfl

theorem settleCluster_frame (id : ClusterId) :
    p.settleCluster id =
      { p with
        clusters := (p.settleCluster id).clusters
        libraries := (p.settleCluster id).libraries } := by
  unfold settleCluster
  split
  · split
    · exact finish_frame id _ _
    · rfl
  · rfl

theorem failCluster_frame (id : ClusterId) :
    p.failCluster id = { p with clusters := (p.failCluster id).clusters } := by
  unfold failCluster
  split <;> rfl

theorem changeCluster_frame {id : ClusterId} {allowed : ClusterState → Bool}
    {state target : ClusterState} {u : Unit}
    (h : p.changeCluster id allowed state target = .ok (u, q)) :
    q = { p with clusters := q.clusters } := by
  obtain ⟨entry, -, h⟩ := bind_eq_ok h
  split at h
  · cases h
    rfl
  · cases h

/-- The platform with a new cluster that comes up. -/
def withNewCluster (p : Platform) (spec : ClusterSpec) : Platform :=
  p.withNextNumber.begin p.nextClusterId (newCluster p.nextClusterId spec) .pending .running

/-- What the creation of a cluster answers and leaves. -/
theorem createCluster_eq_ok {spec : ClusterSpec} {id : ClusterId}
    (h : p.createCluster spec = .ok (id, q)) :
    id = p.nextClusterId ∧ q = p.withNewCluster spec := by
  simp only [createCluster] at h
  split at h
  · cases h
  · split at h
    · cases h
    · cases h
      exact ⟨rfl, rfl⟩

/-- Calls about clusters change the clusters and their libraries. -/
theorem performClusters_frame {c : ClusterCall} {a : c.Answer}
    (h : p.performClusters c = .ok (a, q)) :
    q = { p with
        clusters := q.clusters, libraries := q.libraries, lastNumber := q.lastNumber } ∧
      p.lastNumber ≤ q.lastNumber := by
  cases c with
  | create spec =>
    obtain ⟨rfl, rfl⟩ := createCluster_eq_ok h
    exact ⟨rfl, Nat.le_succ _⟩
  | get id =>
    -- The cluster is looked up again after it has been observed, which changes nothing more.
    obtain ⟨entry, -, h⟩ := bind_eq_ok h
    obtain ⟨entry', -, h⟩ := bind_eq_ok h
    cases h
    rw [observeCluster_frame]
    exact ⟨rfl, Nat.le_refl _⟩
  | resize r =>
    obtain ⟨entry, -, h⟩ := bind_eq_ok h
    split at h
    · cases h
    · cases h
      exact ⟨rfl, Nat.le_refl _⟩
  | restart id =>
    have hChange : p.changeCluster id (· == .running) .restarting .running = .ok (a, q) := h
    rw [changeCluster_frame hChange]
    exact ⟨rfl, Nat.le_refl _⟩
  | terminate id =>
    have hChange : p.changeCluster id (!·.isTerminal) .terminating .terminated = .ok (a, q) := h
    rw [changeCluster_frame hChange]
    exact ⟨rfl, Nat.le_refl _⟩
  | permanentDelete id =>
    obtain ⟨entry, -, h⟩ := bind_eq_ok h
    cases h
    exact ⟨rfl, Nat.le_refl _⟩
  | list | sparkVersions | nodeTypes | zones =>
    cases h
    exact ⟨rfl, Nat.le_refl _⟩

/-! ### Jobs and libraries -/

/-- Calls about jobs change the jobs and runs. -/
theorem performJobs_frame {c : JobCall} {a : c.Answer} (h : p.performJobs c = .ok (a, q)) :
    q = { p with jobs := q.jobs, runs := q.runs, lastNumber := q.lastNumber } ∧
      p.lastNumber ≤ q.lastNumber := by
  cases c with
  | create settings =>
    cases h
    exact ⟨rfl, Nat.le_succ _⟩
  | get id =>
    obtain ⟨record, -, h⟩ := map_eq_ok h
    cases h
    exact ⟨rfl, Nat.le_refl _⟩
  | runNow request =>
    obtain ⟨job, -, h⟩ := bind_eq_ok h
    cases h
    exact ⟨rfl, Nat.le_succ _⟩
  | getRun id | getRunOutput id | delete id =>
    obtain ⟨found, -, h⟩ := bind_eq_ok h
    cases h
    exact ⟨rfl, Nat.le_refl _⟩

/-- Calls about libraries change the libraries. -/
theorem performLibraries_frame {c : LibraryCall} {a : c.Answer}
    (h : p.performLibraries c = .ok (a, q)) : q = { p with libraries := q.libraries } := by
  cases c with
  | install id libraries | uninstall id libraries | clusterStatus id =>
    obtain ⟨entry, -, h⟩ := bind_eq_ok h
    cases h
    rfl

/-! ### Notebooks and files -/

/-- An import that is accepted puts a notebook into a directory that is there, and replaces one only
if it may. -/
theorem importNotebook_eq_ok {n : NotebookImport} {u : Unit}
    (h : p.importNotebook n = .ok (u, q)) :
    (p.objects.contains n.path = true → n.overwrite = true) ∧
      p.dirs.contains (Path.parent n.path) = true ∧
      q = { p.withNextNumber with
        objects := p.objects.insert n.path (p.newNotebook n.path n.language n.content) } := by
  simp only [importNotebook] at h
  split at h
  · cases h
  · next hFree =>
    split at h
    · cases h
    · next hParent =>
      cases h
      exact ⟨by simpa using hFree, by simpa using hParent, rfl⟩

/-- Calls about the workspace change the objects and directories. -/
theorem performWorkspace_frame {c : WorkspaceCall} {a : c.Answer}
    (h : p.performWorkspace c = .ok (a, q)) :
    q = { p with objects := q.objects, dirs := q.dirs, lastNumber := q.lastNumber } ∧
      p.lastNumber ≤ q.lastNumber := by
  cases c with
  | getStatus path | list path | exportNotebook path format =>
    obtain ⟨found, -, h⟩ := map_eq_ok h
    cases h
    exact ⟨rfl, Nat.le_refl _⟩
  | mkdirs path =>
    cases h
    exact ⟨rfl, Nat.le_refl _⟩
  | delete path recursive =>
    simp only [performWorkspace, deleteObject] at h
    split at h
    · cases h
      exact ⟨rfl, Nat.le_refl _⟩
    · split at h
      · cases h
      · split at h
        · cases h
        · cases h
          exact ⟨rfl, Nat.le_refl _⟩
  | importNotebook n =>
    obtain ⟨-, -, rfl⟩ := importNotebook_eq_ok h
    exact ⟨rfl, Nat.le_succ _⟩

theorem writeFile_frame (path : String) (content : ByteArray) :
    p.writeFile path content =
      { p with
        files := (p.writeFile path content).files, dirs := (p.writeFile path content).dirs } := by
  unfold writeFile makeDirs
  rfl

/-- What opening an upload answers and leaves. -/
theorem openUpload_eq_ok {path : String} {overwrite : Bool} {handle : Int64}
    (h : p.openUpload path overwrite = .ok (handle, q)) :
    handle = p.nextHandle ∧
      q = { p.withNextNumber with uploads := p.uploads.insert p.nextHandle { path := path } } := by
  unfold openUpload at h
  split at h
  · cases h
  · cases h
    exact ⟨rfl, rfl⟩

theorem appendBlock_eq_ok {handle : Int64} {block : ByteArray} {u : Unit}
    (h : p.appendBlock handle block = .ok (u, q)) :
    ∃ upload, p.uploads.get? handle = some upload ∧
      q = { p with
        uploads :=
          p.uploads.insert handle { upload with content := upload.content ++ block } } := by
  obtain ⟨upload, hFind, h⟩ := bind_eq_ok h
  cases h
  exact ⟨upload, findUpload_eq_ok_iff.1 hFind, rfl⟩

theorem closeUpload_eq_ok {handle : Int64} {u : Unit}
    (h : p.closeUpload handle = .ok (u, q)) :
    ∃ upload, p.uploads.get? handle = some upload ∧
      q = { p.writeFile upload.path upload.content with uploads := p.uploads.erase handle } := by
  obtain ⟨upload, hFind, h⟩ := bind_eq_ok h
  cases h
  exact ⟨upload, findUpload_eq_ok_iff.1 hFind, rfl⟩

/-- Calls about the file store change the files, directories and uploads. -/
theorem performFiles_frame {c : FileCall} {a : c.Answer} (h : p.performFiles c = .ok (a, q)) :
    q = { p with
        files := q.files, dirs := q.dirs, uploads := q.uploads, lastNumber := q.lastNumber } ∧
      p.lastNumber ≤ q.lastNumber := by
  cases c with
  | create path overwrite =>
    obtain ⟨-, rfl⟩ := openUpload_eq_ok h
    exact ⟨rfl, Nat.le_succ _⟩
  | addBlock handle data =>
    obtain ⟨upload, -, rfl⟩ := appendBlock_eq_ok h
    exact ⟨rfl, Nat.le_refl _⟩
  | close handle =>
    obtain ⟨upload, -, rfl⟩ := closeUpload_eq_ok h
    unfold writeFile makeDirs
    exact ⟨rfl, Nat.le_refl _⟩
  | read path offset length =>
    obtain ⟨content, -, h⟩ := map_eq_ok h
    cases h
    exact ⟨rfl, Nat.le_refl _⟩
  | getStatus path | list path =>
    obtain ⟨found, -, h⟩ := map_eq_ok h
    cases h
    exact ⟨rfl, Nat.le_refl _⟩
  | delete path recursive =>
    simp only [performFiles, deleteFile] at h
    split at h
    · cases h
      exact ⟨rfl, Nat.le_refl _⟩
    · split at h
      · cases h
      · cases h
        exact ⟨rfl, Nat.le_refl _⟩
  | move source destination =>
    simp only [performFiles, moveFile] at h
    split at h
    · cases h
    · obtain ⟨content, -, h⟩ := bind_eq_ok h
      cases h
      unfold writeFile makeDirs
      exact ⟨rfl, Nat.le_refl _⟩
  | mkdirs path =>
    cases h
    exact ⟨rfl, Nat.le_refl _⟩

/-! ### All calls and events -/

/-- No failure is injected. -/
def Serving (p : Platform) : Prop := ∀ endpoint, p.failure? endpoint = none

theorem Serving.of_failures (hServing : p.Serving) (hSame : q.failures = p.failures) :
    q.Serving := by
  intro endpoint
  rw [failure?, hSame]
  exact hServing endpoint

/-- A call is performed after it has been counted, or it is only counted. -/
theorem serve_cases (c : Call) :
    (∃ a q, p.serve c = (.ok a, q) ∧ (p.count c.endpoint).perform c = .ok (a, q)) ∨
      ∃ e, p.serve c = (.error e, p.count c.endpoint) ∧
        (p.Serving → (p.count c.endpoint).perform c = .error e) := by
  simp only [serve]
  cases hFailure : p.failure? c.endpoint with
  | some e =>
    -- The failure is injected, so what the call would come to is not asked.
    refine .inr ⟨e, rfl, fun hServing => ?_⟩
    rw [hServing] at hFailure
    cases hFailure
  | none =>
    cases hPerform : (p.count c.endpoint).perform c with
    | ok answer => exact .inl ⟨answer.1, answer.2, rfl, rfl⟩
    | error e => exact .inr ⟨e, rfl, fun _ => rfl⟩

/-- A call that is answered has been performed. -/
theorem serve_eq_ok {c : Call} {a : c.Answer} (h : p.serve c = (.ok a, q)) :
    (p.count c.endpoint).perform c = .ok (a, q) := by
  obtain ⟨a', q', hServe, hPerform⟩ | ⟨e, hServe, -⟩ := p.serve_cases c
  · obtain ⟨hAnswer, rfl⟩ := Prod.mk.inj (h.symm.trans hServe)
    rw [Except.ok.inj hAnswer, hPerform]
  · exact nomatch h.symm.trans hServe

/-- A call that is refused is only counted. -/
theorem serve_eq_error {c : Call} {e : ApiError} (h : p.serve c = (.error e, q)) :
    q = p.count c.endpoint ∧ (p.Serving → (p.count c.endpoint).perform c = .error e) := by
  obtain ⟨a, q', hServe, -⟩ | ⟨e', hServe, hPerform⟩ := p.serve_cases c
  · exact nomatch h.symm.trans hServe
  · obtain ⟨hError, rfl⟩ := Prod.mk.inj (h.symm.trans hServe)
    exact ⟨rfl, fun hServing => by rw [Except.error.inj hError, hPerform hServing]⟩

/-- A call for whose endpoint a failure is injected is only counted. -/
theorem serve_of_injected {c : Call} {cause : ApiError} (h : p.failure? c.endpoint = some cause) :
    p.serve c = (.error cause, p.count c.endpoint) := by
  simp only [serve, h]

/-- Where no failure is injected for it, a call that can be performed is answered. -/
theorem serve_of_ok {c : Call} {a : c.Answer} (hServed : p.failure? c.endpoint = none)
    (h : (p.count c.endpoint).perform c = .ok (a, q)) : p.serve c = (.ok a, q) := by
  simp only [serve, hServed, h]

theorem serve_of_error {c : Call} {e : ApiError} (hServed : p.failure? c.endpoint = none)
    (h : (p.count c.endpoint).perform c = .error e) :
    p.serve c = (.error e, p.count c.endpoint) := by
  simp only [serve, hServed, h]

/-- What a call that fails keeps, and one that is performed keeps, serving keeps. -/
theorem serve_induction {motive : Platform → Prop} {c : Call}
    (hCount : motive (p.count c.endpoint))
    (hPerform : ∀ a q, (p.count c.endpoint).perform c = .ok (a, q) → motive q) :
    motive (p.serve c).2 := by
  obtain ⟨a, q, hServe, hPerformed⟩ | ⟨e, hServe, -⟩ := p.serve_cases c
  · rw [hServe]
    exact hPerform a q hPerformed
  · rw [hServe]
    exact hCount

/-- No call changes what is counted or offered, which failures are injected, or how many reads
changes take. -/
theorem perform_frame {c : Call} {a : c.Answer} (h : p.perform c = .ok (a, q)) :
    q = { p with
      lastNumber := q.lastNumber, clusters := q.clusters, jobs := q.jobs, runs := q.runs,
      libraries := q.libraries, objects := q.objects, files := q.files, dirs := q.dirs,
      uploads := q.uploads } := by
  cases c with
  | clusters call => rw [(performClusters_frame h).1]
  | jobs call => rw [(performJobs_frame h).1]
  | libraries call => rw [performLibraries_frame h]
  | workspace call => rw [(performWorkspace_frame h).1]
  | files call => rw [(performFiles_frame h).1]

/-- The other families of calls leave files and uploads alone. -/
theorem perform_frame_of_not_files {c : Call} {a : c.Answer} (h : p.perform c = .ok (a, q))
    (hOther : ∀ call, c ≠ .files call) : q.files = p.files ∧ q.uploads = p.uploads := by
  cases c with
  | clusters call =>
    rw [(performClusters_frame h).1]
    exact ⟨rfl, rfl⟩
  | jobs call =>
    rw [(performJobs_frame h).1]
    exact ⟨rfl, rfl⟩
  | libraries call =>
    rw [performLibraries_frame h]
    exact ⟨rfl, rfl⟩
  | workspace call =>
    rw [(performWorkspace_frame h).1]
    exact ⟨rfl, rfl⟩
  | files call => exact absurd rfl (hOther call)

/-- Calls change nothing about the failures that are injected. -/
theorem failures_serve (p : Platform) (c : Call) : (p.serve c).2.failures = p.failures := by
  refine serve_induction (motive := fun q => q.failures = p.failures) rfl fun a q hPerform => ?_
  rw [perform_frame hPerform]
  rfl

/-- A call does not change which calls are refused. -/
theorem failure?_of_serve {c : Call} {a : Except ApiError c.Answer} (hServe : p.serve c = (a, q))
    (endpoint : String) : q.failure? endpoint = p.failure? endpoint := by
  have hFailures := failures_serve p c
  rw [hServe] at hFailures
  rw [failure?, hFailures, failure?]

/-- The calls of an endpoint that has answered are not refused. -/
theorem failure?_of_answered {c : Call} {a : c.Answer} (hServe : p.serve c = (.ok a, q)) :
    q.failure? c.endpoint = none := by
  rw [failure?_of_serve hServe]
  cases hFailure : p.failure? c.endpoint with
  | none => rfl
  | some cause => exact nomatch (serve_of_injected hFailure).symm.trans hServe

/-- Whether it is performed or not, a call is counted once under its endpoint, and no other is. -/
theorem callCount_serve (p : Platform) (c : Call) (endpoint : String) :
    (p.serve c).2.callCount endpoint =
      p.callCount endpoint + if endpoint = c.endpoint then 1 else 0 := by
  -- What is counted is counted before the call is performed, and not touched by it.
  have hCalls : (p.serve c).2.calls = (p.count c.endpoint).calls := by
    refine serve_induction (motive := fun q => q.calls = (p.count c.endpoint).calls) rfl
      fun a q hPerform => ?_
    rw [perform_frame hPerform]
  rw [callCount, hCalls, count, SortedMap.get?_insert]
  split
  · next hEndpoint => rw [hEndpoint, Option.getD_some]
  · rfl

theorem serving_serve_iff {c : Call} : (p.serve c).2.Serving ↔ p.Serving := by
  unfold Serving failure?
  rw [p.failures_serve c]

theorem lastNumber_le_perform {c : Call} {a : c.Answer} (h : p.perform c = .ok (a, q)) :
    p.lastNumber ≤ q.lastNumber := by
  cases c with
  | clusters call => exact (performClusters_frame h).2
  | jobs call => exact (performJobs_frame h).2
  | libraries call => exact Nat.le_of_eq (congrArg lastNumber (performLibraries_frame h)).symm
  | workspace call => exact (performWorkspace_frame h).2
  | files call => exact (performFiles_frame h).2

/-- Numbers are only counted up. -/
theorem lastNumber_le_apply (e : Event) : p.lastNumber ≤ (e.apply p).lastNumber := by
  cases e with
  | call c =>
    exact serve_induction (Nat.le_refl _) fun _ _ h => lastNumber_le_perform h
  | addRunningCluster name workers => exact Nat.le_succ _
  | putJob settings => exact Nat.le_succ _
  | addNotebook path language content => exact Nat.le_succ _
  | settleCluster id =>
    -- These change only the parts that their frame law names.
    have hFrame := congrArg lastNumber (p.settleCluster_frame id)
    exact Nat.le_of_eq hFrame.symm
  | failCluster id =>
    have hFrame := congrArg lastNumber (p.failCluster_frame id)
    exact Nat.le_of_eq hFrame.symm
  | settleReads | injectFailure | clearFailure | offerVersions | offerNodeTypes | offerZones
  | putCluster | putRun | setRunOutput | finishRun | setLibraryStatus => exact Nat.le_refl _
  | addFile path content =>
    have hFrame := congrArg lastNumber (p.writeFile_frame path content)
    exact Nat.le_of_eq hFrame.symm

theorem lastNumber_le_after (history : List Event) :
    p.lastNumber ≤ (p.after history).lastNumber :=
  after_induction (fun _ e h => Nat.le_trans h (lastNumber_le_apply e)) (Nat.le_refl _) history

/-- Programs change nothing about the failures that are injected. -/
theorem failures_run {α : Type} (program : Program α) (s : Simulation Platform) :
    (program.run handler s).2.state.failures = s.state.failures := by
  induction program generalizing s with
  | done result => rfl
  | call c next ih => exact (ih _ _).trans (failures_serve s.state c)
  | pause span next ih => exact ih () _
  | readLocal path next ih => exact ih _ s

/-- After a program no failure is injected if none was before. -/
theorem serving_run_iff {α : Type} (program : Program α) (s : Simulation Platform) :
    (program.run handler s).2.state.Serving ↔ s.state.Serving := by
  unfold Serving failure?
  rw [failures_run]

end SparkFleet.Platform
