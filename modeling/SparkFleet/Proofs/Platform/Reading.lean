import SparkFleet.Cluster.Handle
import SparkFleet.FileStore.Transfer
import SparkFleet.Proofs.Platform.Consistent
import SparkFleet.Workspace.Notebook

/-!
# Looking things up on the platform

Looking up a cluster, a notebook or a file changes nothing but how far clusters and their libraries
have come and what is counted (`SameContent`).  `Resolves` says of an action that looks things up
that it succeeds where it is ready and fails where it is not, unless a failure is injected; its
rules put the readiness of an action together from that of its parts.
-/

namespace SparkFleet

namespace Platform

variable {p q r : Platform}

/-- What may be looked up stays the same. -/
structure SameContent (p q : Platform) : Prop where
  jobs : q.jobs = p.jobs
  runs : q.runs = p.runs
  objects : q.objects = p.objects
  files : q.files = p.files
  dirs : q.dirs = p.dirs
  failures : q.failures = p.failures
  clusters : ∀ id, q.clusters.contains id = p.clusters.contains id
  kept : p.clusters.All ClusterKept → q.clusters.All ClusterKept

theorem SameContent.refl (p : Platform) : SameContent p p :=
  ⟨rfl, rfl, rfl, rfl, rfl, rfl, fun _ => rfl, id⟩

theorem SameContent.trans (hFirst : SameContent p q) (hSecond : SameContent q r) :
    SameContent p r where
  jobs := hSecond.jobs.trans hFirst.jobs
  runs := hSecond.runs.trans hFirst.runs
  objects := hSecond.objects.trans hFirst.objects
  files := hSecond.files.trans hFirst.files
  dirs := hSecond.dirs.trans hFirst.dirs
  failures := hSecond.failures.trans hFirst.failures
  clusters id := (hSecond.clusters id).trans (hFirst.clusters id)
  kept hClusters := hSecond.kept (hFirst.kept hClusters)

theorem SameContent.serving (hSame : SameContent p q) (hServing : p.Serving) : q.Serving :=
  hServing.of_failures hSame.failures

theorem sameContent_count (p : Platform) (endpoint : String) : SameContent p (p.count endpoint) :=
  ⟨rfl, rfl, rfl, rfl, rfl, rfl, fun _ => rfl, id⟩

/-! ### Clusters -/

/-- A cluster that is there is still there when it has been written anew. -/
theorem contains_insert {m : SortedMap ClusterId ClusterEntry} {id : ClusterId}
    {entry new : ClusterEntry} (hGet : m.get? id = some entry) (id' : ClusterId) :
    (m.insert id new).contains id' = m.contains id' := by
  simp only [SortedMap.contains, SortedMap.get?_insert]
  split
  · next hId => rw [hId, hGet, Option.isSome_some, Option.isSome_some]
  · rfl

theorem contains_observeCluster {id : ClusterId} {entry : ClusterEntry}
    (hGet : p.clusters.get? id = some entry) (id' : ClusterId) :
    (p.observeCluster id entry).clusters.contains id' = p.clusters.contains id' := by
  -- Whether a change is waited for or ends, the cluster is only written anew.
  unfold observeCluster
  split
  · rfl
  · unfold finish
    split <;> exact contains_insert hGet id'
  · exact contains_insert hGet id'

theorem sameContent_observeCluster {id : ClusterId} {entry : ClusterEntry}
    (hGet : p.clusters.get? id = some entry) : SameContent p (p.observeCluster id entry) := by
  have hClusters := contains_observeCluster hGet
  have hKept (hAll : p.clusters.All ClusterKept) :
      (p.observeCluster id entry).clusters.All ClusterKept := clusters_observe hAll (hAll hGet)
  rw [observeCluster_frame] at hClusters hKept ⊢
  exact ⟨rfl, rfl, rfl, rfl, rfl, rfl, hClusters, hKept⟩

/-- A cluster is read exactly where it is there. -/
theorem readCluster_spec (id : ClusterId) :
    match p.readCluster id with
    | .ok (record, q) =>
      p.clusters.contains id ∧ (p.clusters.All ClusterKept → record.clusterId = id) ∧
        SameContent p q
    | .error _ => ¬p.clusters.contains id := by
  unfold readCluster
  cases hGet : p.clusters.get? id with
  | none =>
    have hFind : p.findCluster id =
        .error (notFound ("Cluster " ++ id.text ++ " does not exist")) := by
      rw [findCluster, hGet]
    rw [hFind]
    change ¬p.clusters.contains id
    simp [SortedMap.contains, hGet]
  | some entry =>
    have hContains : p.clusters.contains id := by simp [SortedMap.contains, hGet]
    -- Observing the cluster keeps it where it is, so that it is found again.
    have hSame := sameContent_observeCluster hGet
    obtain ⟨entry', hGet'⟩ : ∃ entry', (p.observeCluster id entry).clusters.get? id = some entry' :=
      Option.isSome_iff_exists.1 ((hSame.clusters id).trans hContains)
    have hFind := findCluster_eq_ok_iff.2 hGet
    have hFind' := findCluster_eq_ok_iff.2 hGet'
    simp only [hFind, ok_bind, hFind']
    exact ⟨hContains, fun hClusters => clusters_observe hClusters (hClusters hGet) hGet', hSame⟩

/-! ### Calls that only read -/

/-- A call that performs a reading is counted, and unless a failure is injected it answers what is
read. -/
theorem serve_read {c : Call} {read : Except ApiError c.Answer}
    (hPerform : (p.count c.endpoint).perform c = read.map (·, p.count c.endpoint)) :
    (p.serve c).2 = p.count c.endpoint ∧ (∀ a, (p.serve c).1 = .ok a → read = .ok a) ∧
      (p.Serving → (p.serve c).1 = read) := by
  obtain ⟨a, q, hServe, hPerformed⟩ | ⟨e, hServe, hError⟩ := p.serve_cases c
  · -- The call has been performed, and the reading is what it answers.
    rw [hPerform] at hPerformed
    obtain ⟨a', rfl, hEq⟩ := map_eq_ok hPerformed
    cases hEq
    rw [hServe]
    exact ⟨rfl, fun _ h => h, fun _ => rfl⟩
  · rw [hServe]
    refine ⟨rfl, fun _ h => (nomatch h), fun hServing => ?_⟩
    cases read with
    | ok a => exact nomatch hPerform.symm.trans (hError hServing)
    | error e' =>
      cases hPerform.symm.trans (hError hServing)
      rfl

/-- The record of the notebook at a path. -/
def notebook? (p : Platform) (path : String) : Option ObjectRecord :=
  ((p.objects.get? path).map (·.record)).filter (·.objectType = .notebook)

end Platform

open Platform (SameContent)

/-! ### Actions that look things up -/

/-- A call ends as the platform serves it. -/
theorem Platform.ends_ask {c : Call} {s : Simulation Platform}
    {good : c.Answer → Simulation Platform → Prop} {bad : Error → Simulation Platform → Prop}
    (hOk : ∀ a q, s.state.serve c = (.ok a, q) → good a { s with state := q })
    (hError : ∀ e q, s.state.serve c = (.error e, q) →
      bad (.transport e) { s with state := q }) :
    Action.Ends Platform.handler (.ask c) s good bad := by
  refine (Action.ends_ask c).2 ?_
  split
  · next a t hAnswer =>
    obtain ⟨hServe, rfl⟩ := Prod.mk.inj hAnswer
    exact hOk a _ (Prod.ext hServe rfl)
  · next e t hAnswer =>
    obtain ⟨hServe, rfl⟩ := Prod.mk.inj hAnswer
    exact hError e _ (Prod.ext hServe rfl)

/-- A call whose failure is looked at is followed by what is done with its answer. -/
theorem Platform.ends_tryAsk {α : Type} {c : Call} {f : Except ApiError c.Answer → Action α}
    {s : Simulation Platform} {good : α → Simulation Platform → Prop}
    {bad : Error → Simulation Platform → Prop}
    (hOk : ∀ a q, s.state.serve c = (.ok a, q) →
      Action.Ends Platform.handler (f (.ok a)) { s with state := q } good bad)
    (hError : ∀ e q, s.state.serve c = (.error e, q) →
      Action.Ends Platform.handler (f (.error e)) { s with state := q } good bad) :
    Action.Ends Platform.handler (.tryAsk c >>= f) s good bad := by
  refine (Action.ends_bind f).2 ((Action.ends_tryAsk c).2 ?_)
  change Action.Ends Platform.handler (f (s.state.serve c).1)
    { s with state := (s.state.serve c).2 } good bad
  rcases hServe : s.state.serve c with ⟨e | a, q⟩
  · exact hError e q hServe
  · exact hOk a q hServe

/-- Run against the platform, the action succeeds, with a result of which `result` holds, only where
it is ready, and where it is ready it fails only if a failure is injected.  In each case it leaves
what may be looked up. -/
def Resolves {α : Type} (act : Action α) (s : Simulation Platform) (ready : Prop)
    (result : α → Prop) : Prop :=
  Action.Ends Platform.handler act s
    (fun a t => ready ∧ result a ∧ SameContent s.state t.state)
    fun _ t => (s.state.Serving → ¬ready) ∧ SameContent s.state t.state

namespace Resolves

variable {α β : Type} {s : Simulation Platform} {ready ready' : Prop} {result : α → Prop}

theorem pure {a : α} (hReady : ready) (hResult : result a) :
    Resolves (Pure.pure a) s ready result :=
  ⟨hReady, hResult, .refl _⟩

theorem throw {e : Error} (hReady : ¬ready) :
    Resolves (MonadExcept.throw e : Action α) s ready result :=
  ⟨fun _ => hReady, .refl _⟩

theorem mono {result' : α → Prop} {act : Action α} (h : Resolves act s ready result)
    (hReady : ready ↔ ready') (hResult : ∀ a, result a → result' a) :
    Resolves act s ready' result' :=
  Action.Ends.mono h (fun _ _ ⟨hr, ha, hSame⟩ => ⟨hReady.1 hr, hResult _ ha, hSame⟩)
    fun _ _ ⟨hr, hSame⟩ => ⟨fun hServing h => hr hServing (hReady.2 h), hSame⟩

theorem congr {act : Action α} (hReady : ready ↔ ready') (h : Resolves act s ready result) :
    Resolves act s ready' result :=
  h.mono hReady fun _ ha => ha

/-- An action goes on where the first part leaves: it is ready if both parts are. -/
theorem bind {act : Action α} {f : α → Action β} {result' : β → Prop}
    (h : Resolves act s ready result)
    (hNext : ∀ a (t : Simulation Platform), result a → SameContent s.state t.state →
      Resolves (f a) t ready' result') :
    Resolves (act >>= f) s (ready ∧ ready') result' := by
  refine (Action.ends_bind f).2 (Action.Ends.mono h ?_ ?_)
  · rintro a t ⟨hr, ha, hSame⟩
    refine Action.Ends.mono (hNext a t ha hSame) ?_ ?_
    · rintro b u ⟨hr', hb, hSame'⟩
      exact ⟨⟨hr, hr'⟩, hb, hSame.trans hSame'⟩
    · -- The second part fails: it is not ready, or a failure is injected, which it was before too.
      rintro e u ⟨hr', hSame'⟩
      exact ⟨fun hServing hBoth => hr' (hSame.serving hServing) hBoth.2, hSame.trans hSame'⟩
  · rintro e t ⟨hr, hSame⟩
    exact ⟨fun hServing hBoth => hr hServing hBoth.1, hSame⟩

theorem within {f : Family} {act : Action α} (h : Resolves act s ready result) :
    Resolves (.within f act) s ready result :=
  (Action.ends_within f).2 h

/-- A result that needs no call is ready if it is one. -/
theorem ofExcept (x : Except Error α) :
    Resolves (.ofExcept x) s (∃ a, x = .ok a) fun a => x = .ok a := by
  cases x with
  | ok a => exact ⟨⟨a, rfl⟩, rfl, .refl _⟩
  | error e => exact ⟨fun _ h => (nomatch h), .refl _⟩

variable (c : Call) (read : Except ApiError c.Answer) (ready' : c.Answer → Prop)

/-- A call that performs a reading is ready if there is something to be read. -/
theorem ask (hPerform : (s.state.count c.endpoint).perform c =
      read.map (·, s.state.count c.endpoint)) :
    Resolves (Action.ask c) s (∃ a, read = .ok a) fun a => read = .ok a := by
  obtain ⟨hState, hOk, hServing⟩ := Platform.serve_read hPerform
  have hSame : SameContent s.state (s.state.serve c).2 := hState ▸ Platform.sameContent_count _ _
  refine Platform.ends_ask ?_ ?_
  · intro a q hServe
    rw [hServe] at hOk hSame
    exact ⟨⟨a, hOk a rfl⟩, hOk a rfl, hSame⟩
  · intro e q hServe
    rw [hServe] at hServing hSame
    exact ⟨fun hs ⟨a, ha⟩ => (nomatch (hServing hs).trans ha), hSame⟩

/-- What follows the answer to a call may depend on it. -/
theorem ask_bind (hPerform : (s.state.count c.endpoint).perform c =
      read.map (·, s.state.count c.endpoint))
    {f : c.Answer → Action β} {result' : β → Prop}
    (hNext : ∀ a (t : Simulation Platform), read = .ok a → SameContent s.state t.state →
      Resolves (f a) t (ready' a) result') :
    Resolves (Action.ask c >>= f) s (∃ a, read = .ok a ∧ ready' a) result' := by
  have hBind : Resolves (Action.ask c >>= f) s
      ((∃ a, read = .ok a) ∧ ∃ a, read = .ok a ∧ ready' a) result' := by
    refine (Resolves.ask c read hPerform).bind fun a t ha hSame => (hNext a t ha hSame).congr ?_
    -- The reading gives one answer, so being ready for it is being ready for any.
    refine ⟨fun hr => ⟨a, ha, hr⟩, fun ⟨a', ha', hr⟩ => ?_⟩
    obtain rfl : a = a' := Except.ok.inj (ha.symm.trans ha')
    exact hr
  exact hBind.congr (and_iff_right_of_imp fun ⟨a, ha, _⟩ => ⟨a, ha⟩)

/-- A call whose failure is looked at is ready as what follows its answer is; after a failure the
action fails. -/
theorem tryAsk (hPerform : (s.state.count c.endpoint).perform c =
      read.map (·, s.state.count c.endpoint))
    {f : Except ApiError c.Answer → Action β} {result' : β → Prop}
    (hOk : ∀ a (t : Simulation Platform), read = .ok a → SameContent s.state t.state →
      Resolves (f (.ok a)) t (ready' a) result')
    (hError : ∀ cause (t : Simulation Platform), Resolves (f (.error cause)) t False result') :
    Resolves (Action.tryAsk c >>= f) s (∃ a, read = .ok a ∧ ready' a) result' := by
  obtain ⟨hState, hAnswer, hServing⟩ := Platform.serve_read hPerform
  have hSame : SameContent s.state (s.state.serve c).2 := hState ▸ Platform.sameContent_count _ _
  refine Platform.ends_tryAsk ?_ ?_
  · intro a q hServe
    rw [hServe] at hAnswer hSame
    have hRead := hAnswer a rfl
    refine Action.Ends.mono (hOk a _ hRead hSame) ?_ ?_
    · rintro b u ⟨hr, hb, hSame'⟩
      exact ⟨⟨a, hRead, hr⟩, hb, hSame.trans hSame'⟩
    · rintro e u ⟨hr, hSame'⟩
      -- There is only one answer to be read, and for this one what follows is not ready.
      refine ⟨fun hs ⟨a', hRead', hr'⟩ => ?_, hSame.trans hSame'⟩
      obtain rfl : a = a' := Except.ok.inj (hRead.symm.trans hRead')
      exact hr (hSame.serving hs) hr'
  · intro cause q hServe
    rw [hServe] at hServing hSame
    refine Action.Ends.mono (hError cause _) ?_ ?_
    · rintro b u ⟨hFalse, -⟩
      exact hFalse.elim
    · rintro e u ⟨-, hSame'⟩
      refine ⟨fun hs ⟨a, ha, _⟩ => ?_, hSame.trans hSame'⟩
      exact nomatch (hServing hs).trans ha

/-- Without injected failures an action succeeds exactly where it is ready. -/
theorem succeeds_iff {act : Action α} (h : Resolves act s ready result)
    (hServing : s.state.Serving) :
    ((∃ a, (Action.exec Platform.handler act s).1 = .ok a) ↔ ready) ∧
      (∀ a, (Action.exec Platform.handler act s).1 = .ok a → result a) ∧
      SameContent s.state (Action.exec Platform.handler act s).2.state := by
  rcases hExec : Action.exec Platform.handler act s with ⟨e | a, t⟩
  · obtain ⟨hReady, hSame⟩ := Action.Ends.of_error h hExec
    exact ⟨⟨fun ⟨_, ha⟩ => (nomatch ha), fun hr => (hReady hServing hr).elim⟩,
      fun _ ha => (nomatch ha), hSame⟩
  · obtain ⟨hReady, hResult, hSame⟩ := Action.Ends.of_ok h hExec
    exact ⟨⟨fun _ => hReady, fun _ => ⟨a, rfl⟩⟩, fun b hb => Except.ok.inj hb ▸ hResult, hSame⟩

end Resolves

/-! ### Clusters, notebooks and scripts -/

open Platform (ClusterKept NotebookKept)

variable {s : Simulation Platform}

/-- A cluster is looked up where it is there. -/
theorem Cluster.get_resolves (id : ClusterId) (hClusters : s.state.clusters.All ClusterKept) :
    Resolves (Cluster.get id) s (s.state.clusters.contains id) fun c => c.id = id := by
  have hAsk : Resolves (.ask (.clusters (.get id))) s (s.state.clusters.contains id)
      fun r => r.clusterId = id := by
    have hSpec := Platform.readCluster_spec (p := s.state.count "clusters/get") id
    have hCount := Platform.sameContent_count s.state "clusters/get"
    refine Platform.ends_ask ?_ ?_
    · intro r q hServe
      have hRead : (s.state.count "clusters/get").readCluster id = .ok (r, q) :=
        Platform.serve_eq_ok hServe
      rw [hRead] at hSpec
      exact ⟨hSpec.1, hSpec.2.1 hClusters, hCount.trans hSpec.2.2⟩
    · intro e q hServe
      obtain ⟨rfl, hPerform⟩ := Platform.serve_eq_error hServe
      refine ⟨fun hs => ?_, hCount⟩
      have hRead : (s.state.count "clusters/get").readCluster id = .error e := hPerform hs
      rw [hRead] at hSpec
      exact hSpec
  have hHandle : Resolves (.ask (.clusters (.get id)) >>= fun r => return ⟨r⟩) s
      (s.state.clusters.contains id ∧ True) fun c : Cluster => c.id = id :=
    hAsk.bind fun r t hId _ => .pure trivial hId
  exact .within (.congr (and_iff_left trivial) hHandle)

/-- What is read at a path is a notebook where the platform has one there. -/
theorem Platform.objectStatus_notebook_iff {p : Platform} {path : String} {r : ObjectRecord} :
    p.objectStatus path = .ok r ∧ r.objectType = .notebook ↔ p.notebook? path = some r := by
  unfold objectStatus notebook?
  cases p.objects.get? path with
  | some object =>
    rw [Option.map_some, Option.filter_eq_some_iff, Except.ok.injEq, Option.some.injEq,
      decide_eq_true_iff]
  | none =>
    refine ⟨fun ⟨hRead, hNotebook⟩ => ?_, fun h => (nomatch h)⟩
    -- Without an object there is a directory at best, and that is no notebook.
    by_cases hDir : p.dirs.contains (Path.directory path)
    · simp only [hDir, if_true, Except.ok.injEq] at hRead
      rw [← hRead] at hNotebook
      exact nomatch hNotebook
    · simp [hDir] at hRead

/-- A notebook is looked up where one is at the path. -/
theorem Notebook.get_resolves (path : String) (hObjects : s.state.objects.All NotebookKept) :
    Resolves (Notebook.get path) s (s.state.notebook? path).isSome fun n =>
      ∃ r, s.state.notebook? path = some r ∧ n = ⟨path, r.language, r.objectId⟩ := by
  have hPath {r : ObjectRecord} (hGet : s.state.notebook? path = some r) : r.path = path := by
    obtain ⟨hObject, -⟩ := Option.filter_eq_some_iff.1 hGet
    obtain ⟨object, hStored, rfl⟩ := Option.map_eq_some_iff.1 hObject
    exact (hObjects hStored).2
  refine .within (.congr ?_ (.tryAsk (.workspace (.getStatus path)) (s.state.objectStatus path)
    (·.objectType = .notebook) rfl ?_ fun cause t => .throw id))
  · simp only [Platform.objectStatus_notebook_iff, Option.isSome_iff_exists]
  · intro r t hRead _
    refine (Resolves.ofExcept (ofRecord r)).mono ?_ fun n hn => ?_
    · -- What is read may be another kind of object, which is no notebook.
      unfold ofRecord
      split <;> simp_all
    · unfold ofRecord at hn
      split at hn
      · next hNotebook =>
        cases hn
        have hGet := Platform.objectStatus_notebook_iff.1 ⟨hRead, hNotebook⟩
        exact ⟨r, hGet, by rw [hPath hGet]⟩
      · exact nomatch hn

/-- What is read at a path of the file store is a file where the platform has one there. -/
theorem Platform.fileStatus_file_iff {p : Platform} {path : String} :
    (∃ r, p.fileStatus path = .ok r ∧ r.isDir = false) ↔ p.files.contains path := by
  unfold fileStatus SortedMap.contains
  cases p.files.get? path with
  | some content => simp
  | none =>
    cases (p.dirs.get? (Path.directory path)).isSome <;> simp

/-- A script is checked successfully if it is a file of the file store or at another address. -/
theorem FileStore.checkScript_resolves (uri : String) :
    Resolves (checkScript uri) s
      (∀ path, stripScheme? uri = some path → s.state.files.contains path) fun _ => True := by
  unfold checkScript
  cases stripScheme? uri with
  | none => exact .pure (fun _ h => (nomatch h)) trivial
  | some path =>
    refine .congr ?_ (.tryAsk (.files (.getStatus path)) (s.state.fileStatus path)
      (·.isDir = false) rfl ?_ fun cause t => .throw id)
    · simp [Platform.fileStatus_file_iff]
    · intro r t _ _
      dsimp only
      split
      · next hDir => exact .throw (by simp [hDir])
      · next hDir => exact .pure (by simpa using hDir) trivial

end SparkFleet
