import SparkFleet.Proofs.Cluster.Guard
import SparkFleet.Proofs.Platform.ClusterStep

/-!
# The lifecycle and the platform agree

A handle decides by the lifecycle whether an operation is sent, and the platform decides once more
whether it is accepted.  The two rules are written apart from each other, and the read of the handle
may itself bring a change of the cluster to its end; `serve_get` says what that read shows and what
it leaves, and `accepts_*` that the platform accepts what the lifecycle allows in that state.

The main statement `guard_agrees_with_platform` says that, with no one else acting in between, an
operation succeeds exactly if the cluster is there and the state that its read shows allows it.
-/

namespace SparkFleet

open SparkFleet.Action (exec)

/-- A cluster after one read of it. -/
def ClusterEntry.observed (entry : ClusterEntry) : ClusterEntry :=
  match entry.transition with
  | none => entry
  | some ⟨target, 0⟩ => ⟨entry.record.inState target, none⟩
  | some ⟨target, reads + 1⟩ => { entry with transition := some ⟨target, reads⟩ }

namespace Platform

variable {p : Platform} {id : ClusterId} {entry : ClusterEntry}

/-! ### The read of the handle -/

/-- The platform after one read of a cluster: the read is counted, and a change of the cluster that
is under way comes nearer to its end. -/
def afterGet (p : Platform) (id : ClusterId) : Platform :=
  match p.clusters.get? id with
  | some entry => (p.count "clusters/get").observeCluster id entry
  | none => p.count "clusters/get"

theorem get?_observeCluster (hGet : p.clusters.get? id = some entry) :
    (p.observeCluster id entry).clusters.get? id = some entry.observed := by
  obtain ⟨record, change⟩ := entry
  cases change with
  | none => exact hGet
  | some change =>
    obtain ⟨target, reads⟩ := change
    cases reads with
    | zero =>
      -- The change ends at this read, and libraries may be dropped with it, but no other cluster
      -- changes.
      change (p.finish id ⟨record, some ⟨target, 0⟩⟩ target).clusters.get? id =
        some ⟨record.inState target, none⟩
      rw [clusters_finish_eq, SortedMap.get?_insert, if_pos rfl]
    | succ reads => exact (SortedMap.get?_insert ..).trans (if_pos rfl)

/-- A read that is answered shows the cluster as the read leaves it. -/
theorem get_answered {record : ClusterRecord} {q : Platform}
    (hServe : p.serve (.clusters (.get id)) = (.ok record, q)) :
    ∃ entry, p.clusters.get? id = some entry ∧ record = entry.observed.record ∧
      q.clusters.get? id = some entry.observed := by
  obtain ⟨entry, hFind, h⟩ := bind_eq_ok (serve_eq_ok hServe)
  obtain ⟨shown, hShown, h⟩ := bind_eq_ok h
  cases h
  have hGet : p.clusters.get? id = some entry := findCluster_eq_ok_iff.1 hFind
  have hObserved := get?_observeCluster (p := p.count "clusters/get") hGet
  obtain rfl : entry.observed = shown :=
    Option.some.inj (hObserved.symm.trans (findCluster_eq_ok_iff.1 hShown))
  exact ⟨entry, hGet, rfl, hObserved⟩

/-- A read shows the cluster as the read leaves it, where calls are served. -/
theorem serve_get (hServing : p.Serving) (hGet : p.clusters.get? id = some entry) :
    p.serve (.clusters (.get id)) = (.ok entry.observed.record, p.afterGet id) ∧
      (p.afterGet id).clusters.get? id = some entry.observed := by
  have hFind : (p.count "clusters/get").findCluster id = .ok entry := findCluster_eq_ok_iff.2 hGet
  have hObserved : ((p.count "clusters/get").observeCluster id entry).clusters.get? id =
      some entry.observed := get?_observeCluster hGet
  have hAfter : p.afterGet id = (p.count "clusters/get").observeCluster id entry := by
    rw [afterGet, hGet]
  -- The record is looked up anew after the change has moved on, so the answer shows what is left.
  have hPerform : (p.count "clusters/get").perform (.clusters (.get id)) =
      .ok (entry.observed.record, p.afterGet id) := by
    simp only [perform, performClusters, readCluster, hFind, ok_bind,
      findCluster_eq_ok_iff.2 hObserved, hAfter]
    rfl
  exact ⟨serve_of_ok (hServing _) hPerform, hAfter ▸ hObserved⟩

/-- A cluster that is not there is not read. -/
theorem serve_get_error (hServing : p.Serving) (hGet : p.clusters.get? id = none) :
    ∃ e, p.serve (.clusters (.get id)) = (.error e, p.afterGet id) := by
  have hFind : (p.count "clusters/get").findCluster id =
      .error (notFound ("Cluster " ++ id.text ++ " does not exist")) := by
    simp only [findCluster, count, hGet]
  have hPerform : (p.count "clusters/get").perform (.clusters (.get id)) =
      .error (notFound ("Cluster " ++ id.text ++ " does not exist")) := by
    simp only [perform, performClusters, readCluster, hFind]
    rfl
  rw [afterGet, hGet]
  exact ⟨_, serve_of_error (hServing _) hPerform⟩

/-! ### What the platform accepts -/

theorem changeCluster_of_get? (hGet : p.clusters.get? id = some entry)
    (allowed : ClusterState → Bool) (hAllowed : allowed entry.record.state = true)
    (state target : ClusterState) :
    p.changeCluster id allowed state target = .ok ((), p.begin id entry.record state target) := by
  simp only [changeCluster, findCluster_eq_ok_iff.2 hGet, ok_bind]
  rw [if_pos hAllowed]
  rfl

theorem resizeCluster_of_get? (hGet : p.clusters.get? id = some entry)
    (hRunning : entry.record.state = .running) (workers : Option UInt32)
    (bounds : Option AutoScale) :
    p.resizeCluster ⟨id, workers, bounds⟩ =
      .ok ((), p.begin id { entry.record with numWorkers := workers, autoscale := bounds }
        .resizing .running) := by
  simp only [resizeCluster, findCluster_eq_ok_iff.2 hGet, ok_bind]
  rw [if_neg (not_not.2 hRunning)]
  rfl

/-- A cluster that the lifecycle allows to be restarted or resized is running, and one that it
allows to be terminated has not ended. -/
theorem isAllowed_spec (state : ClusterState) :
    (ClusterOperation.restart.isAllowed state = true → state = .running) ∧
      (ClusterOperation.resize.isAllowed state = true → state = .running) ∧
      (ClusterOperation.terminate.isAllowed state = true → state.isTerminal = false) := by
  cases state <;> decide

variable (hServing : p.Serving) (hGet : p.clusters.get? id = some entry)
include hServing hGet

theorem accepts_restart (hAllowed : ClusterOperation.restart.isAllowed entry.record.state) :
    ∃ q, p.serve (.clusters (.restart id)) = (.ok (), q) := by
  have hRunning := beq_iff_eq.2 ((isAllowed_spec _).1 hAllowed)
  have hChange := changeCluster_of_get? (p := p.count "clusters/restart") hGet (· == .running)
    hRunning .restarting .running
  exact ⟨_, serve_of_ok (hServing _) hChange⟩

theorem accepts_terminate (hAllowed : ClusterOperation.terminate.isAllowed entry.record.state) :
    ∃ q, p.serve (.clusters (.terminate id)) = (.ok (), q) := by
  have hEnded := (isAllowed_spec _).2.2 hAllowed
  have hChange := changeCluster_of_get? (p := p.count "clusters/delete") hGet (!·.isTerminal)
    (by rw [hEnded]; rfl) .terminating .terminated
  exact ⟨_, serve_of_ok (hServing _) hChange⟩

/-- A cluster is removed whatever its state. -/
theorem accepts_permanentDelete : ∃ q, p.serve (.clusters (.permanentDelete id)) = (.ok (), q) := by
  let counted := p.count "clusters/permanent-delete"
  have hFind : counted.findCluster id = .ok entry := findCluster_eq_ok_iff.2 hGet
  have hRemove : counted.removeCluster id =
      .ok ((), { counted with clusters := counted.clusters.erase id }) := by
    rw [removeCluster, hFind]
    rfl
  exact ⟨_, serve_of_ok (hServing _) hRemove⟩

/-- After a resize the cluster is still there. -/
theorem accepts_resize (workers : Option UInt32) (bounds : Option AutoScale)
    (hAllowed : ClusterOperation.resize.isAllowed entry.record.state) :
    ∃ q entry', p.serve (.clusters (.resize ⟨id, workers, bounds⟩)) = (.ok (), q) ∧
      q.clusters.get? id = some entry' := by
  have hRunning := (isAllowed_spec _).2.1 hAllowed
  have hResize := resizeCluster_of_get? (p := p.count "clusters/resize") hGet hRunning workers
    bounds
  exact ⟨_, _, serve_of_ok (hServing _) hResize, (SortedMap.get?_insert ..).trans (if_pos rfl)⟩

end Platform

/-! ### Operations on the platform -/

namespace Cluster

variable {α : Type} {c : Cluster} {operation : ClusterOperation} {s : Simulation Platform}
  {call : Call} {act : Action α}

/-- The handle and the platform agree on an operation. -/
structure AgreesWithPlatform (c : Cluster) (operation : ClusterOperation) (s : Simulation Platform)
    (call : Call) (act : Action α) : Prop where
  /-- The operation succeeds exactly if the cluster is there and its read shows a state that allows
  it. -/
  succeeds_iff : (∃ a, (exec Platform.handler act s).1 = .ok a) ↔
    s.state.clusters.contains c.id = true ∧
      ∃ record, (s.state.serve (.clusters (.get c.id))).1 = .ok record ∧
        operation.isAllowed record.state = true
  /-- The platform does not refuse what the handle lets through. -/
  accepted : ∀ record p, s.state.serve (.clusters (.get c.id)) = (.ok record, p) →
    operation.isAllowed record.state = true → ∃ answer q, p.serve call = (.ok answer, q)
  /-- An operation that fails leaves what its read leaves. -/
  rejected : ∀ e t, exec Platform.handler act s = (.error e, t) →
    t = { s with state := (s.state.serve (.clusters (.get c.id))).2 }

/-- An operation that is not sent agrees if its read does not allow it. -/
theorem AgreesWithPlatform.of_error {answer : Except ApiError ClusterRecord} {p : Platform}
    {e : Error} (hServe : s.state.serve (.clusters (.get c.id)) = (answer, p))
    (hForbidden : ∀ record, answer = .ok record → operation.isAllowed record.state = false)
    (hExec : exec Platform.handler act s = (.error e, { s with state := p })) :
    c.AgreesWithPlatform operation s call act where
  succeeds_iff := by
    rw [hExec, hServe]
    refine ⟨fun ⟨_, hOk⟩ => (nomatch hOk), fun ⟨_, record, hRead, hAllowed⟩ => ?_⟩
    exact nomatch hAllowed.symm.trans (hForbidden record hRead)
  accepted record q hServe' hAllowed := by
    obtain ⟨hAnswer, -⟩ := Prod.mk.inj (hServe.symm.trans hServe')
    exact nomatch hAllowed.symm.trans (hForbidden record hAnswer)
  rejected _ _ hExec' := by
    rw [hServe]
    exact (Prod.mk.inj (hExec'.symm.trans hExec)).2

/-- An operation that succeeds agrees if the cluster is there, its read allows it and its call is
accepted. -/
theorem AgreesWithPlatform.of_ok {record : ClusterRecord} {p q : Platform} {answer : call.Answer}
    {a : α} (hContains : s.state.clusters.contains c.id = true)
    (hServe : s.state.serve (.clusters (.get c.id)) = (.ok record, p))
    (hAllowed : operation.isAllowed record.state = true) (hCall : p.serve call = (.ok answer, q))
    (hExec : (exec Platform.handler act s).1 = .ok a) :
    c.AgreesWithPlatform operation s call act where
  succeeds_iff := ⟨fun _ => ⟨hContains, record, congrArg Prod.fst hServe, hAllowed⟩,
    fun _ => ⟨a, hExec⟩⟩
  accepted _ _ hServe' _ := by
    cases hServe.symm.trans hServe'
    exact ⟨answer, q, hCall⟩
  rejected _ _ hExec' := nomatch hExec.symm.trans (congrArg Prod.fst hExec')

/-- An operation that is sent if it is allowed agrees, if the platform then accepts it and nothing
that follows fails. -/
theorem agreesWithPlatform_of_sent {after : List Call}
    {result : call.Answer → Simulation Platform → Except Error α × Simulation Platform}
    (hServing : s.state.Serving)
    (hSent : c.SentIfAllowed Platform.handler operation s call act after result)
    (hAccepts : ∀ (p : Platform) entry, p.Serving → p.clusters.get? c.id = some entry →
      operation.isAllowed entry.record.state = true → ∃ answer q, p.serve call = (.ok answer, q) ∧
        ∃ a, (result answer { s with state := q }).1 = .ok a) :
    c.AgreesWithPlatform operation s call act := by
  cases hGet : s.state.clusters.get? c.id with
  | none =>
    -- The platform does not know the cluster, and the read fails before the operation is sent.
    obtain ⟨e, hServe⟩ := Platform.serve_get_error hServing hGet
    have hExec := (hSent.unread _ _ (Platform.answer_handler hServe)).2
    exact .of_error hServe (fun record hAnswer => (nomatch hAnswer)) hExec
  | some entry =>
    obtain ⟨hServe, hAfter⟩ := Platform.serve_get hServing hGet
    have hRead := Platform.answer_handler hServe
    cases hAllowed : operation.isAllowed entry.observed.record.state with
    | false =>
      refine .of_error hServe ?_ (hSent.forbidden _ _ hRead hAllowed).2
      rintro _ ⟨⟩
      exact hAllowed
    | true =>
      -- Nothing comes between the read and the call, so the call finds the state that was read.
      have hServed : (s.state.serve (.clusters (.get c.id))).2.Serving :=
        Platform.serving_serve_iff.2 hServing
      rw [hServe] at hServed
      obtain ⟨answer, q, hCall, a, hResult⟩ := hAccepts _ _ hServed hAfter hAllowed
      have hExec := (hSent.accepted _ _ _ _ hRead hAllowed (Platform.answer_handler hCall)).2
      have hContains : s.state.clusters.contains c.id = true := by
        rw [SortedMap.contains, hGet, Option.isSome_some]
      exact .of_ok hContains hServe hAllowed hCall (hExec ▸ hResult)

end Cluster

open Cluster in
/-- On a platform that serves all calls, and with nothing else happening in between, an operation of
a handle, with a size whose bounds are in order, succeeds exactly if the cluster is there and the
state that its read shows allows it.  What it lets through the platform accepts, and what fails
leaves only what the read leaves: a call counted, and a change of the cluster nearer to its end. -/
theorem guard_agrees_with_platform {s : Simulation Platform} (hServing : s.state.Serving)
    (c : Cluster) {size : ClusterSize} (hValid : size.validate = .ok ()) :
    c.AgreesWithPlatform .restart s (.clusters (.restart c.id)) c.restart ∧
      c.AgreesWithPlatform .resize s (c.resizeCall size) (c.resize size) ∧
      c.AgreesWithPlatform .terminate s (.clusters (.terminate c.id)) c.terminate ∧
      c.AgreesWithPlatform .permanentDelete s (.clusters (.permanentDelete c.id))
        c.permanentDelete := by
  refine ⟨?_, ?_, ?_, ?_⟩
  · refine agreesWithPlatform_of_sent hServing
      (sentIfAllowed_ask (.clusters (.restart c.id)) nofun) fun p entry hServing hGet h => ?_
    obtain ⟨q, hCall⟩ := Platform.accepts_restart hServing hGet h
    exact ⟨(), q, hCall, (), rfl⟩
  · refine agreesWithPlatform_of_sent hServing (sentIfAllowed_resize hValid)
      fun p entry hServing hGet h => ?_
    obtain ⟨q, entry', hCall, hGet'⟩ := Platform.accepts_resize hServing hGet
      size.toParts.1 size.toParts.2 h
    have hServed : (p.serve (c.resizeCall size)).2.Serving := Platform.serving_serve_iff.2 hServing
    rw [resizeCall, hCall] at hServed
    -- A resize reads once more, and the cluster is still there to be read.
    have hRead := Platform.answer_handler (s := { s with state := q })
      (Platform.serve_get hServed hGet').1
    refine ⟨(), q, hCall, ⟨entry'.observed.record⟩, ?_⟩
    exact congrArg (fun answer => ofAnswer answer.1) hRead
  · refine agreesWithPlatform_of_sent hServing
      (sentIfAllowed_ask (.clusters (.terminate c.id)) nofun) fun p entry hServing hGet h => ?_
    obtain ⟨q, hCall⟩ := Platform.accepts_terminate hServing hGet h
    exact ⟨(), q, hCall, (), rfl⟩
  · refine agreesWithPlatform_of_sent hServing
      (sentIfAllowed_ask (.clusters (.permanentDelete c.id)) nofun)
      fun p entry hServing hGet _ => ?_
    obtain ⟨q, hCall⟩ := Platform.accepts_permanentDelete hServing hGet
    exact ⟨(), q, hCall, (), rfl⟩

/-! ### A cluster that comes up at the read -/

/-- A platform where one cluster has been created, which runs from its first read on. -/
def comingUp : Simulation Platform where
  state := ({} : Platform).after [.settleReads 0, .call (.clusters (.create {
    sparkVersion := some firstSparkVersion
    nodeTypeId := some firstNodeType
    numWorkers := some 2 }))]

/-- A handle on the cluster, from before it was read. -/
def pendingHandle : Cluster := ⟨.new ({} : Platform).nextClusterId⟩

/-- It runs at the read of each operation, though it has not been running before. -/
theorem guard_agrees_with_platform_comingUp :
    (comingUp.state.Serving ∧ (ClusterSize.fixed 5).validate = .ok ()) ∧
      (comingUp.state.clusterRecord? pendingHandle.id).map (·.state) = some .pending ∧
      (∃ a, (exec Platform.handler pendingHandle.restart comingUp).1 = .ok a) ∧
      (∃ c, (exec Platform.handler (pendingHandle.resize (.fixed 5)) comingUp).1 = .ok c) ∧
      ∀ e t, exec Platform.handler pendingHandle.permanentDelete comingUp = (.error e, t) →
        t = { comingUp with
          state := (comingUp.state.serve (.clusters (.get pendingHandle.id))).2 } := by
  have hServing : comingUp.state.Serving := fun _ => rfl
  have hValid : (ClusterSize.fixed 5).validate = .ok () := rfl
  obtain ⟨hRestart, hResize, -, hDelete⟩ :=
    guard_agrees_with_platform hServing pendingHandle hValid
  have hThere : comingUp.state.clusters.contains pendingHandle.id = true := by decide
  obtain ⟨record, hRead, hState⟩ : ∃ record,
      (comingUp.state.serve (.clusters (.get pendingHandle.id))).1 = .ok record ∧
        record.state = .running := ⟨_, rfl, rfl⟩
  refine ⟨⟨hServing, hValid⟩, rfl, ?_, ?_, hDelete.rejected⟩
  · exact hRestart.succeeds_iff.2 ⟨hThere, record, hRead, hState ▸ rfl⟩
  · exact hResize.succeeds_iff.2 ⟨hThere, record, hRead, hState ▸ rfl⟩

end SparkFleet
