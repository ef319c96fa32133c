import SparkFleet.Proofs.Platform.ClusterIds

/-!
# What one event does to a cluster

`ClusterStep` lists everything that an event can do to the cluster of an identifier, with the entry
before and after it, and `clusterStep_apply` says that each event does one of these.  What holds of
clusters in every state is derived from it by cases, without looking at the calls again.
-/

namespace SparkFleet.Platform

variable {p q : Platform}

/-- What an event that leads from one platform to another can do to the cluster of an identifier:
the entry before and after it. -/
inductive ClusterStep (p q : Platform) (id : ClusterId) :
    Event → Option ClusterEntry → Option ClusterEntry → Prop where
  /-- The cluster is left as it is. -/
  | same (e : Event) (before : Option ClusterEntry) : ClusterStep p q id e before before
  /-- A read brings a change nearer to its end. -/
  | wait (record : ClusterRecord) (target : ClusterState) (reads : Nat) :
      ClusterStep p q id (.call (.clusters (.get id))) (some ⟨record, some ⟨target, reads + 1⟩⟩)
        (some ⟨record, some ⟨target, reads⟩⟩)
  /-- A change comes to its end at a read. -/
  | finish (record : ClusterRecord) (target : ClusterState) :
      ClusterStep p q id (.call (.clusters (.get id))) (some ⟨record, some ⟨target, 0⟩⟩)
        (some ⟨record.inState target, none⟩)
  /-- A change is brought to its end from outside. -/
  | settle (record : ClusterRecord) (change : Transition) :
      ClusterStep p q id (.settleCluster id) (some ⟨record, some change⟩)
        (some ⟨record.inState change.target, none⟩)
  | create (spec : ClusterSpec) (before : Option ClusterEntry) (hId : id = p.nextClusterId)
      (hLast : q.lastNumber = p.nextNumber) :
      ClusterStep p q id (.call (.clusters (.create spec))) before
        (some ⟨{ newCluster id spec with state := .pending }, some ⟨.running, p.settleReads⟩⟩)
  | resize (r : ResizeRequest) (hId : r.clusterId = id) (record : ClusterRecord)
      (change : Option Transition) (hState : record.state = .running) :
      ClusterStep p q id (.call (.clusters (.resize r))) (some ⟨record, change⟩)
        (some ⟨{ record with
          numWorkers := r.numWorkers, autoscale := r.autoscale, state := .resizing },
          some ⟨.running, p.settleReads⟩⟩)
  | restart (record : ClusterRecord) (change : Option Transition)
      (hState : record.state = .running) :
      ClusterStep p q id (.call (.clusters (.restart id))) (some ⟨record, change⟩)
        (some ⟨{ record with state := .restarting }, some ⟨.running, p.settleReads⟩⟩)
  | terminate (record : ClusterRecord) (change : Option Transition)
      (hState : record.state.isTerminal = false) :
      ClusterStep p q id (.call (.clusters (.terminate id))) (some ⟨record, change⟩)
        (some ⟨{ record with state := .terminating }, some ⟨.terminated, p.settleReads⟩⟩)
  | permanentDelete (entry : ClusterEntry) :
      ClusterStep p q id (.call (.clusters (.permanentDelete id))) (some entry) none
  | fail (record : ClusterRecord) (change : Option Transition) :
      ClusterStep p q id (.failCluster id) (some ⟨record, change⟩)
        (some ⟨record.inState .error, none⟩)
  | putCluster (record : ClusterRecord) (before : Option ClusterEntry)
      (hId : record.clusterId = id) :
      ClusterStep p q id (.putCluster record) before (some ⟨record, none⟩)
  | addRunningCluster (name : String) (workers : UInt32) (before : Option ClusterEntry)
      (hId : id = p.nextClusterId) (hLast : q.lastNumber = p.nextNumber) :
      ClusterStep p q id (.addRunningCluster name workers) before
        (some ⟨ClusterRecord.inState
          { ClusterRecord.new id with
            clusterName := some name
            sparkVersion := some firstSparkVersion
            nodeTypeId := some firstNodeType
            numWorkers := some workers } .running, none⟩)

/-! ### Writing one entry -/

/-- Where one entry is written, what is done to the cluster of that identifier is what is done. -/
theorem ClusterStep.of_insert {e : Event} {id other : ClusterId} {entry : ClusterEntry}
    (h : id = other → ClusterStep p q id e (p.clusters.get? id) (some entry)) :
    ClusterStep p q id e (p.clusters.get? id) ((p.clusters.insert other entry).get? id) := by
  rw [SortedMap.get?_insert]
  split
  · next hId => exact h hId
  · exact .same e _

theorem clusters_finish_eq (id : ClusterId) (entry : ClusterEntry) (target : ClusterState) :
    (p.finish id entry target).clusters =
      p.clusters.insert id ⟨entry.record.inState target, none⟩ := by
  unfold finish
  split <;> rfl

/-! ### Calls -/

theorem clusterStep_observe {id other : ClusterId} {entry : ClusterEntry}
    (hEntry : p.clusters.get? other = some entry) :
    ClusterStep p q id (.call (.clusters (.get other))) (p.clusters.get? id)
      ((p.observeCluster other entry).clusters.get? id) := by
  unfold observeCluster
  split
  · exact .same _ _
  · -- No read is left to wait for, so the change ends here.
    next target hChange =>
    rw [clusters_finish_eq]
    refine .of_insert ?_
    rintro rfl
    obtain ⟨record, change⟩ := entry
    subst hChange
    rw [hEntry]
    exact .finish record target
  · next target reads hChange =>
    refine .of_insert ?_
    rintro rfl
    obtain ⟨record, change⟩ := entry
    subst hChange
    rw [hEntry]
    exact .wait record target reads

/-- What a change of state of one cluster leaves. -/
theorem changeCluster_eq_ok {id : ClusterId} {allowed : ClusterState → Bool}
    {state target : ClusterState} {u : Unit}
    (h : p.changeCluster id allowed state target = .ok (u, q)) :
    ∃ entry, p.clusters.get? id = some entry ∧ allowed entry.record.state = true ∧
      q = p.begin id entry.record state target := by
  obtain ⟨entry, hFind, h⟩ := bind_eq_ok h
  split at h
  · next hAllowed =>
    cases h
    exact ⟨entry, findCluster_eq_ok_iff.1 hFind, hAllowed, rfl⟩
  · cases h

/-- What a resize leaves. -/
theorem resizeCluster_eq_ok {r : ResizeRequest} {u : Unit} (h : p.resizeCluster r = .ok (u, q)) :
    ∃ entry, p.clusters.get? r.clusterId = some entry ∧ entry.record.state = .running ∧
      q = p.begin r.clusterId
        { entry.record with numWorkers := r.numWorkers, autoscale := r.autoscale }
        .resizing .running := by
  obtain ⟨entry, hFind, h⟩ := bind_eq_ok h
  split at h
  · cases h
  · next hState =>
    cases h
    exact ⟨entry, findCluster_eq_ok_iff.1 hFind, not_not.1 hState, rfl⟩

theorem clusterStep_perform {c : ClusterCall} {a : c.Answer} (h : p.performClusters c = .ok (a, q))
    (id : ClusterId) :
    ClusterStep p q id (.call (.clusters c)) (p.clusters.get? id) (q.clusters.get? id) := by
  cases c with
  | create spec =>
    obtain ⟨rfl, rfl⟩ := createCluster_eq_ok h
    refine .of_insert ?_
    rintro rfl
    exact .create spec _ rfl rfl
  | get other =>
    obtain ⟨entry, hFind, h⟩ := bind_eq_ok h
    obtain ⟨entry', -, h⟩ := bind_eq_ok h
    cases h
    exact clusterStep_observe (findCluster_eq_ok_iff.1 hFind)
  | resize r =>
    obtain ⟨⟨record, change⟩, hEntry, hState, rfl⟩ := resizeCluster_eq_ok h
    refine .of_insert ?_
    rintro rfl
    rw [hEntry]
    exact .resize r rfl record change hState
  | restart other =>
    have hChange : p.changeCluster other (· == .running) .restarting .running = .ok (a, q) := h
    obtain ⟨⟨record, change⟩, hEntry, hState, rfl⟩ := changeCluster_eq_ok hChange
    refine .of_insert ?_
    rintro rfl
    rw [hEntry]
    exact .restart record change (beq_iff_eq.1 hState)
  | terminate other =>
    have hChange : p.changeCluster other (!·.isTerminal) .terminating .terminated = .ok (a, q) := h
    obtain ⟨⟨record, change⟩, hEntry, hState, rfl⟩ := changeCluster_eq_ok hChange
    refine .of_insert ?_
    rintro rfl
    rw [hEntry]
    exact .terminate record change (Bool.not_eq_eq_eq_not.1 hState)
  | permanentDelete other =>
    obtain ⟨entry, hFind, h⟩ := bind_eq_ok h
    cases h
    rw [SortedMap.get?_erase]
    split
    · next hId =>
      subst hId
      rw [findCluster_eq_ok_iff.1 hFind]
      exact .permanentDelete entry
    · exact .same _ _
  | list | sparkVersions | nodeTypes | zones =>
    cases h
    exact .same _ _

/-- The other families of calls leave the clusters alone. -/
theorem clusters_perform_other {c : Call} {a : c.Answer} (h : p.perform c = .ok (a, q))
    (hOther : ∀ call, c ≠ .clusters call) : q.clusters = p.clusters := by
  cases c with
  | clusters call => exact absurd rfl (hOther call)
  | jobs call => rw [(performJobs_frame h).1]
  | libraries call => rw [performLibraries_frame h]
  | workspace call => rw [(performWorkspace_frame h).1]
  | files call => rw [(performFiles_frame h).1]

/-! ### Every event -/

/-- Counting calls does not change what an event can do. -/
theorem ClusterStep.of_count {id : ClusterId} {endpoint : String} {e : Event}
    {before after : Option ClusterEntry} (h : ClusterStep (p.count endpoint) q id e before after) :
    ClusterStep p q id e before after := by
  -- A step looks at the counter and the number of reads alone, which counting leaves.
  cases h with
  | same => exact .same _ _
  | wait record target reads => exact .wait record target reads
  | finish record target => exact .finish record target
  | settle record change => exact .settle record change
  | create spec before hId hLast => exact .create spec before hId hLast
  | resize r hId record change hState => exact .resize r hId record change hState
  | restart record change hState => exact .restart record change hState
  | terminate record change hState => exact .terminate record change hState
  | permanentDelete entry => exact .permanentDelete entry
  | fail record change => exact .fail record change
  | putCluster record before hId => exact .putCluster record before hId
  | addRunningCluster name workers before hId hLast =>
    exact .addRunningCluster name workers before hId hLast

theorem clusterStep_call (c : Call) (id : ClusterId) :
    ClusterStep p (p.serve c).2 id (.call c) (p.clusters.get? id)
      ((p.serve c).2.clusters.get? id) := by
  refine serve_induction (motive := fun q =>
    ClusterStep p q id (.call c) (p.clusters.get? id) (q.clusters.get? id)) (.same _ _)
    fun a q h => ?_
  cases c with
  | clusters call => exact .of_count (clusterStep_perform h id)
  | jobs _ | libraries _ | workspace _ | files _ =>
    rw [clusters_perform_other h fun _ => nofun]
    exact .same _ _

theorem clusterStep_settle (id other : ClusterId) :
    ClusterStep p q id (.settleCluster other) (p.clusters.get? id)
      ((p.settleCluster other).clusters.get? id) := by
  unfold settleCluster
  split
  · next entry hEntry =>
    split
    · next change hChange =>
      rw [clusters_finish_eq]
      refine .of_insert ?_
      rintro rfl
      obtain ⟨record, _⟩ := entry
      subst hChange
      rw [hEntry]
      exact .settle record change
    · exact .same _ _
  · exact .same _ _

theorem clusterStep_fail (id other : ClusterId) :
    ClusterStep p q id (.failCluster other) (p.clusters.get? id)
      ((p.failCluster other).clusters.get? id) := by
  unfold failCluster
  split
  · next entry hEntry =>
    refine .of_insert ?_
    rintro rfl
    rw [hEntry]
    exact .fail entry.record entry.transition
  · exact .same _ _

/-- Each event does to the cluster of an identifier one of the things that are listed. -/
theorem clusterStep_apply (e : Event) (id : ClusterId) :
    ClusterStep p (e.apply p) id e (p.clusters.get? id) ((e.apply p).clusters.get? id) := by
  cases e with
  | call c => exact clusterStep_call c id
  | settleCluster other => exact clusterStep_settle id other
  | failCluster other => exact clusterStep_fail id other
  | putCluster record =>
    refine .of_insert ?_
    rintro rfl
    exact .putCluster record _ rfl
  | addRunningCluster name workers =>
    refine .of_insert ?_
    rintro rfl
    exact .addRunningCluster name workers _ rfl rfl
  | settleReads | injectFailure | clearFailure | offerVersions | offerNodeTypes | offerZones
  | putJob | putRun | setRunOutput | finishRun | setLibraryStatus | addNotebook =>
    exact .same _ _
  | addFile path content =>
    simp only [Event.apply, addFile]
    rw [writeFile_frame]
    exact .same _ _

/-! ### Identifiers -/

/-- An event keeps identifiers unclaimed, unless a cluster is put in place under one of them. -/
theorem Unclaimed.apply (hUnclaimed : p.Unclaimed) (e : Event)
    (hPut : ∀ record, e = .putCluster record → ¬p.IsAhead record.clusterId) :
    (e.apply p).Unclaimed := by
  intro id entry hGet hAhead
  have hBefore : p.IsAhead id := hAhead.of_le (lastNumber_le_apply e)
  have hStep := p.clusterStep_apply e id
  rw [hGet, hUnclaimed.get?_eq_none hBefore] at hStep
  -- Only a cluster that is new can be there now, and a number that has been given is not ahead.
  cases hStep with
  | create spec _ hId hLast =>
    subst hId
    exact not_isAhead_nextClusterId (Nat.le_of_eq hLast.symm) hAhead
  | addRunningCluster name workers _ hId hLast =>
    subst hId
    exact not_isAhead_nextClusterId (Nat.le_of_eq hLast.symm) hAhead
  | putCluster record _ hId =>
    subst hId
    exact hPut record rfl hBefore

theorem Unclaimed.after (hUnclaimed : p.Unclaimed) {history : List Event}
    (hPut : ∀ record, .putCluster record ∉ history) : (p.after history).Unclaimed := by
  induction history generalizing p with
  | nil => exact hUnclaimed
  | cons e history ih =>
    refine ih (hUnclaimed.apply e ?_) fun record hMem => hPut record (List.mem_cons_of_mem _ hMem)
    rintro record rfl
    exact absurd List.mem_cons_self (hPut record)

end SparkFleet.Platform
