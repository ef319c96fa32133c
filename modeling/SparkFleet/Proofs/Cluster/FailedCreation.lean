import SparkFleet.Cluster.Draft
import SparkFleet.Proofs.Platform.Reading
import SparkFleet.Proofs.Session

/-!
# Creations of clusters that fail

A creation makes the choices that its draft leaves open, for which it only reads what is on offer,
asks the platform for the cluster, and reads the record of the new cluster.  It does not remove the
cluster again.  So a creation that fails has changed nothing on the platform but what is counted,
unless the last of these calls is refused: then the new cluster is there and comes up
(`failed_cluster_creation`).  A new cluster can be read, so only a failure that is injected for the
reads of clusters refuses this call, and then it always does (`create_of_unread`).
-/

namespace SparkFleet

open Platform (OnlyCounted)

namespace Platform

variable {p q : Platform}

/-! ### Calls about a new cluster -/

theorem contains_withNewCluster (p : Platform) (spec : ClusterSpec) :
    (p.withNewCluster spec).clusters.contains p.nextClusterId = true := by
  have hGet : (p.withNewCluster spec).clusters.get? p.nextClusterId = some _ :=
    (SortedMap.get?_insert ..).trans (if_pos rfl)
  rw [SortedMap.contains, hGet]
  rfl

/-- What is counted does not matter to a new cluster. -/
theorem OnlyCounted.withNewCluster (hOnly : OnlyCounted p q) (spec : ClusterSpec) :
    OnlyCounted (p.withNewCluster spec) (q.withNewCluster spec) := by
  unfold OnlyCounted at hOnly ⊢
  rw [hOnly]
  rfl

theorem OnlyCounted.nextClusterId (hOnly : OnlyCounted p q) :
    q.nextClusterId = p.nextClusterId := by
  unfold OnlyCounted at hOnly
  rw [hOnly]
  rfl

theorem OnlyCounted.failure? (hOnly : OnlyCounted p q) (endpoint : String) :
    q.failure? endpoint = p.failure? endpoint := by
  unfold OnlyCounted at hOnly
  rw [hOnly]
  rfl

/-- Reading a cluster that is there fails only with a failure that is injected. -/
theorem serve_get_failed {id : ClusterId} {cause : ApiError}
    (hThere : p.clusters.contains id = true)
    (hServe : p.serve (.clusters (.get id)) = (.error cause, q)) :
    p.failure? "clusters/get" = some cause ∧ q = p.count "clusters/get" := by
  cases hFailure : p.failure? "clusters/get" with
  | some cause' =>
    have hRefused := serve_of_injected (c := .clusters (.get id)) hFailure
    obtain ⟨hCause, hState⟩ := Prod.mk.inj (hServe.symm.trans hRefused)
    rw [Except.error.inj hCause]
    exact ⟨rfl, hState⟩
  | none =>
    -- The cluster is there and no failure is injected, so the read is answered.
    have hRead := (p.count "clusters/get").readCluster_spec id
    cases hFound : (p.count "clusters/get").readCluster id with
    | ok found =>
      have hAnswered : p.serve (.clusters (.get id)) = (.ok found.1, found.2) :=
        serve_of_ok hFailure hFound
      exact nomatch hServe.symm.trans hAnswered
    | error e =>
      rw [hFound] at hRead
      exact absurd hThere hRead

end Platform

namespace ClusterDraft

/-! ### Choices -/

theorem resolveSparkVersion_readsOffer (spec : ClusterSpec) :
    (resolveSparkVersion spec).ReadsOffer := by
  unfold resolveSparkVersion
  split
  · exact Session.callsOnly_pure _
  · refine .bind Session.sparkVersions_readsOffer fun versions => ?_
    split
    · exact Session.callsOnly_pure _
    · exact Session.callsOnly_throw _

theorem resolveNodeType_readsOffer (spec : ClusterSpec) : (resolveNodeType spec).ReadsOffer := by
  unfold resolveNodeType
  split
  · exact Session.callsOnly_pure _
  · refine .bind Session.nodeTypes_readsOffer fun types => ?_
    split
    · exact Session.callsOnly_pure _
    · exact Session.callsOnly_throw _

theorem resolveZone_readsOffer (d : ClusterDraft) : d.resolveZone.ReadsOffer := by
  unfold resolveZone
  split
  · exact Session.callsOnly_pure _
  · exact .bind Session.zones_readsOffer fun _ => Session.callsOnly_pure _

theorem resolve_readsOffer (d : ClusterDraft) : d.resolve.ReadsOffer :=
  .bind (Session.callsOnly_act (Action.callsOnly_ofExcept _)) fun _ =>
    .bind (resolveSparkVersion_readsOffer _) fun _ =>
      .bind (resolveNodeType_readsOffer _) fun _ =>
        .bind d.resolveZone_readsOffer fun _ => Session.callsOnly_pure _

/-- What a creation does before it asks for the cluster. -/
def prepare (d : ClusterDraft) : Session ClusterSpec :=
  if d.spec.clusterName.getD "" = "" then throw (.missingField .cluster "cluster_name")
  else d.resolve

theorem prepare_readsOffer (d : ClusterDraft) : d.prepare.ReadsOffer := by
  unfold prepare
  split
  · exact Session.callsOnly_throw _
  · exact d.resolve_readsOffer

theorem create_eq (d : ClusterDraft) :
    d.create = .within .cluster (d.prepare >>= fun spec =>
      Session.act (.ask (.clusters (.create spec)) >>= Cluster.get)) := by
  unfold create prepare
  split <;> rfl

/-! ### What a failed creation leaves -/

/-- What a creation leaves that fails with an error. -/
inductive Leaves (p q : Platform) : Error → Prop where
  | nothing {e : Error} (hState : p.OnlyCounted q) : Leaves p q e
  /-- The new cluster is left, and its record could not be read. -/
  | cluster (spec : ClusterSpec) {cause : ApiError}
      (hUnread : p.failure? "clusters/get" = some cause)
      (hState : (p.withNewCluster spec).OnlyCounted q) :
      Leaves p q ((Error.transport cause).within .cluster)

variable {d : ClusterDraft} {s t : Simulation Platform} {catalog catalog' : Catalog} {e : Error}

/-- Whenever the reads of clusters are refused, a creation that the platform accepts fails, and the
new cluster is left. -/
theorem create_of_unread {spec : ClusterSpec} {cause : ApiError} {u : Simulation Platform}
    {id : ClusterId} {q : Platform} (hRefuses : s.state.failure? "clusters/get" = some cause)
    (hPrepare : Session.exec Platform.handler d.prepare catalog s = ((.ok spec, catalog'), u))
    (hCreate : u.state.serve (.clusters (.create spec)) = (.ok id, q)) :
    ∃ t, Session.exec Platform.handler d.create catalog s =
        ((.error ((Error.transport cause).within .cluster), catalog'), t) ∧
      (s.state.withNewCluster spec).OnlyCounted t.state := by
  -- Choosing has only counted calls, so the reads of clusters are still refused afterwards.
  have hPrepared : s.state.OnlyCounted u.state := by
    have hReads := Session.onlyCounted_exec d.prepare_readsOffer catalog s
    rwa [hPrepare] at hReads
  have hCounted := hPrepared.count "clusters/create"
  obtain ⟨-, rfl⟩ := Platform.createCluster_eq_ok (p := u.state.count "clusters/create")
    (Platform.serve_eq_ok hCreate)
  have hNew := hCounted.withNewCluster spec
  have hRead := Platform.serve_of_injected (c := .clusters (.get id))
    ((hNew.failure? "clusters/get").trans hRefuses)
  let left := ((u.state.count "clusters/create").withNewCluster spec).count "clusters/get"
  refine ⟨{ u with state := left }, ?_, hNew.count "clusters/get"⟩
  rw [create_eq, Session.exec_within, Session.exec_bind, hPrepare]
  simp only [Session.exec_act]
  rw [(Action.ask_bind_of_ok (Platform.answer_handler hCreate) _).1, Cluster.get,
    (exec_within_ask_error (Platform.answer_handler hRead) .cluster _).1, Action.failWithin,
    Error.within_within]
  rfl

/-- A new cluster that is not read is left. -/
theorem leaves_of_unread {p : Platform} {spec : ClusterSpec}
    (hState : (p.withNewCluster spec).OnlyCounted s.state)
    (hFailed : Action.exec Platform.handler (Cluster.get p.nextClusterId) s = (.error e, t)) :
    Leaves p t.state (e.within .cluster) := by
  rw [Cluster.get] at hFailed
  rcases hServe : s.state.serve (.clusters (.get p.nextClusterId)) with ⟨cause | record, q⟩
  · have hThere : s.state.clusters.contains p.nextClusterId = true := by
      rw [hState]
      exact p.contains_withNewCluster spec
    obtain ⟨hUnread, rfl⟩ := Platform.serve_get_failed hThere hServe
    rw [(exec_within_ask_error (Platform.answer_handler hServe) .cluster _).1] at hFailed
    obtain ⟨hError, rfl⟩ := Prod.mk.inj hFailed
    rw [← Except.error.inj hError, Error.within_within]
    exact .cluster spec ((hState.failure? _).symm.trans hUnread) (hState.count _)
  · rw [(exec_within_ask (Platform.answer_handler hServe) .cluster _).1] at hFailed
    exact nomatch (Prod.mk.inj hFailed).1

/-- A creation whose choices have been made leaves a cluster only if the platform accepts it. -/
theorem leaves_of_prepared {p : Platform} {spec : ClusterSpec} (hState : p.OnlyCounted s.state)
    (hFailed : Action.exec Platform.handler
      (.ask (.clusters (.create spec)) >>= Cluster.get) s = (.error e, t)) :
    Leaves p t.state (e.within .cluster) := by
  rcases hServe : s.state.serve (.clusters (.create spec)) with ⟨cause | id, q⟩
  · -- The platform has refused the cluster, which leaves nothing but the count of the call.
    rw [(Action.ask_bind_of_error (Platform.answer_handler hServe) _).1] at hFailed
    rw [← (Prod.mk.inj hFailed).2, (Platform.serve_eq_error hServe).1]
    exact .nothing (hState.count _)
  · rw [(Action.ask_bind_of_ok (Platform.answer_handler hServe) _).1] at hFailed
    have hCounted := hState.count "clusters/create"
    obtain ⟨rfl, rfl⟩ := Platform.createCluster_eq_ok (p := s.state.count "clusters/create")
      (Platform.serve_eq_ok hServe)
    rw [hCounted.nextClusterId] at hFailed
    exact leaves_of_unread (hCounted.withNewCluster spec) hFailed

/-- Where reads of clusters are not refused, the clusters are those of before. -/
theorem Leaves.clusters {p q : Platform} (hLeaves : Leaves p q e)
    (hServed : p.failure? "clusters/get" = none) : q.clusters = p.clusters := by
  cases hLeaves with
  | nothing hState => rw [hState]
  | cluster spec hUnread hState => exact nomatch hServed.symm.trans hUnread

/-- A creation of a cluster that fails changes nothing but what is counted, unless the reads of
clusters are refused: then it may leave the new cluster.  Where they are not refused, the clusters
are those of before. -/
theorem failed_cluster_creation
    (hFailed : Session.exec Platform.handler d.create catalog s = ((.error e, catalog'), t)) :
    Leaves s.state t.state e ∧ e.family = some .cluster ∧
      (s.state.failure? "clusters/get" = none → t.state.clusters = s.state.clusters) := by
  -- The family is put on at the end, so what is left is said of the error before it.
  suffices hLeaves : ∃ cause : Error, e = cause.within .cluster ∧
      Leaves s.state t.state (cause.within .cluster) by
    obtain ⟨cause, rfl, hLeaves⟩ := hLeaves
    exact ⟨hLeaves, cause.family_within .cluster, hLeaves.clusters⟩
  have hPrepared := Session.onlyCounted_exec d.prepare_readsOffer catalog s
  rw [create_eq, Session.exec_within, Session.exec_bind] at hFailed
  rcases hPrepare : Session.exec Platform.handler d.prepare catalog s with
    ⟨⟨cause | spec, known⟩, u⟩
  · rw [hPrepare] at hFailed hPrepared
    obtain ⟨hResult, rfl⟩ := Prod.mk.inj hFailed
    exact ⟨cause, (Except.error.inj (Prod.mk.inj hResult).1).symm, .nothing hPrepared⟩
  · rw [hPrepare] at hFailed hPrepared
    simp only [Session.exec_act] at hFailed
    rcases hExec : Action.exec Platform.handler
      (.ask (.clusters (.create spec)) >>= Cluster.get) u with ⟨cause | cluster, v⟩
    · rw [hExec] at hFailed
      obtain ⟨hResult, rfl⟩ := Prod.mk.inj hFailed
      exact ⟨cause, (Except.error.inj (Prod.mk.inj hResult).1).symm,
        leaves_of_prepared hPrepared hExec⟩
    · rw [hExec] at hFailed
      exact nomatch (Prod.mk.inj (Prod.mk.inj hFailed).1).1

/-- A platform on which the calls of an endpoint are refused. -/
def refusingCalls (endpoint : String) : Simulation Platform :=
  ⟨({} : Platform).after [.injectFailure endpoint 500], ⟨0⟩, .empty⟩

/-- A draft of a cluster with one worker and all other choices left open. -/
def smallDraft : ClusterDraft := ({ size := .fixed 1 } : ClusterDraft).withName "small"

/-- A cluster that the platform refuses is not there. -/
theorem failed_cluster_creation_refused :
    (∃ e catalog, (Session.exec Platform.handler smallDraft.create {}
        (refusingCalls "clusters/create")).1 = (.error e, catalog)) ∧
      (Session.exec Platform.handler smallDraft.create {}
        (refusingCalls "clusters/create")).2.state.clusters = .empty := by
  have hFailed : ∃ e catalog, (Session.exec Platform.handler smallDraft.create {}
      (refusingCalls "clusters/create")).1 = (.error e, catalog) := ⟨_, _, rfl⟩
  obtain ⟨e, catalog, hResult⟩ := hFailed
  exact ⟨⟨e, catalog, hResult⟩, (failed_cluster_creation (Prod.ext hResult rfl)).2.2 rfl⟩

/-- A cluster whose record is not read is there, though its creation fails. -/
theorem failed_cluster_creation_unread :
    (refusingCalls "clusters/get").state.Reachable ∧
      (refusingCalls "clusters/get").state.clusters.size = 0 ∧
      (∃ e, (Session.exec Platform.handler smallDraft.create {}
        (refusingCalls "clusters/get")).1.1 = .error e) ∧
      (Session.exec Platform.handler smallDraft.create {}
        (refusingCalls "clusters/get")).2.state.clusters.size = 1 :=
  ⟨⟨_, rfl⟩, rfl, ⟨_, rfl⟩, rfl⟩

end ClusterDraft

end SparkFleet
