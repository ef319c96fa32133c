import SparkFleet.Proofs.Cluster.StateChange

/-!
# Changes of a cluster that compete

The platform looks at the state again when a call comes, whatever the caller has read.  Hence of all
resizes and restarts that come while a cluster is running one is accepted, and it ends the time in
which the cluster is running (`acceptedChanges_le_one`); those that come while it is not running are
refused (`serve_change_refused`).  The size that is kept is that of the last resize that was
accepted (`clusterSizing?_after`), and a cluster that has ended is not up again (`Ended.apply`).

All of this is said of histories of the platform, so it does not matter who makes the calls.
-/

namespace SparkFleet

/-- Whether a call resizes or restarts a cluster. -/
def Call.changesRunning (id : ClusterId) : Call → Bool
  | .clusters (.resize r) => r.clusterId = id
  | .clusters (.restart other) => other = id
  | _ => false

namespace Platform

variable {p q : Platform} {id : ClusterId} {e : Event} {old new : Option ClusterEntry}

/-! ### Acceptance -/

/-- Whether an event is a resize or restart of a cluster that the platform accepts. -/
def Event.acceptsChange (id : ClusterId) (p : Platform) : Event → Bool
  | .call c => c.changesRunning id && (p.serve c).1.isOk
  | _ => false

/-- How many resizes and restarts of a cluster are accepted in a history. -/
def acceptedChanges (id : ClusterId) : Platform → List Event → Nat
  | _, [] => 0
  | p, e :: rest => (e.acceptsChange id p).toNat + acceptedChanges id (e.apply p) rest

/-- The cluster is running whenever one of the events happens. -/
def RunningThroughout (id : ClusterId) : Platform → List Event → Prop
  | _, [] => True
  | p, e :: rest => p.clusterState? id = some .running ∧ RunningThroughout id (e.apply p) rest

/-- A resize that is performed was of a running cluster, which is then resizing. -/
theorem resize_accepted {r : ResizeRequest} {u : Unit} (h : p.resizeCluster r = .ok (u, q)) :
    p.clusterState? r.clusterId = some .running ∧ q.clusterState? r.clusterId = some .resizing := by
  obtain ⟨entry, hGet, hState, rfl⟩ := resizeCluster_eq_ok h
  constructor
  · rw [clusterState?, hGet, Option.map_some, hState]
  · rw [clusterState?, begin, setCluster, SortedMap.get?_insert, if_pos rfl]
    rfl

/-- A restart that is performed was of a running cluster, which is then restarting. -/
theorem restart_accepted {u : Unit}
    (h : p.changeCluster id (· == .running) .restarting .running = .ok (u, q)) :
    p.clusterState? id = some .running ∧ q.clusterState? id = some .restarting := by
  obtain ⟨entry, hGet, hState, rfl⟩ := changeCluster_eq_ok h
  constructor
  · rw [clusterState?, hGet, Option.map_some, beq_iff_eq.1 hState]
  · rw [clusterState?, begin, setCluster, SortedMap.get?_insert, if_pos rfl]
    rfl

theorem isOk_serve {c : Call} (h : (p.serve c).1.isOk = true) :
    ∃ a, (p.count c.endpoint).perform c = .ok (a, (p.serve c).2) := by
  obtain ⟨a, q, hServe, hPerform⟩ | ⟨e, hServe, -⟩ := p.serve_cases c
  · rw [hServe]
    exact ⟨a, hPerform⟩
  · rw [hServe] at h
    cases h

/-- A resize or restart is accepted where the cluster is running, and then it is not any more. -/
theorem Event.acceptsChange_spec (hAccepts : e.acceptsChange id p = true) :
    p.clusterState? id = some .running ∧
      ((e.apply p).clusterState? id = some .resizing ∨
        (e.apply p).clusterState? id = some .restarting) := by
  cases e with
  | call c =>
    -- Both calls look at the state when they are performed, which is what makes them compete.
    obtain ⟨hChange, hOk⟩ := Bool.and_eq_true_iff.1 hAccepts
    obtain ⟨a, hPerform⟩ := isOk_serve hOk
    cases c with
    | clusters call =>
      cases call with
      | resize r =>
        obtain rfl := of_decide_eq_true hChange
        obtain ⟨hBefore, hAfter⟩ := resize_accepted hPerform
        exact ⟨hBefore, .inl hAfter⟩
      | restart other =>
        obtain rfl := of_decide_eq_true hChange
        obtain ⟨hBefore, hAfter⟩ := restart_accepted hPerform
        exact ⟨hBefore, .inr hAfter⟩
      | _ => cases hChange
    | _ => cases hChange
  | _ => cases hAccepts

/-- While a cluster is running, one resize or restart of it is accepted at most. -/
theorem acceptedChanges_le_one {history : List Event}
    (hRunning : RunningThroughout id p history) : acceptedChanges id p history ≤ 1 := by
  induction history generalizing p with
  | nil => exact Nat.zero_le 1
  | cons e rest ih =>
    rw [acceptedChanges]
    cases hAccepts : e.acceptsChange id p with
    | false => exact Nat.le_trans (Nat.le_of_eq (Nat.zero_add _)) (ih hRunning.2)
    | true =>
      -- The cluster is not running any more, so that nothing comes after this in the history.
      obtain ⟨-, hAfter⟩ := Event.acceptsChange_spec hAccepts
      cases rest with
      | nil => exact Nat.le_refl 1
      | cons e' rest =>
        have hStill := hRunning.2.1
        rcases hAfter with hAfter | hAfter <;> exact nomatch hAfter.symm.trans hStill

/-! ### Refusal -/

/-- A resize or restart of a cluster that is not running is refused, and only counted: with the
failure that is injected for it, if there is one, and else because of the state. -/
theorem serve_change_refused {c : Call} (hChange : c.changesRunning id = true)
    {state : ClusterState} (hState : p.clusterState? id = some state) (hNot : state ≠ .running) :
    p.serve c =
      (.error ((p.failure? c.endpoint).getD (unexpectedState id state)), p.count c.endpoint) := by
  obtain ⟨entry, hGet, rfl⟩ := Option.map_eq_some_iff.1 hState
  have hFind : (p.count c.endpoint).findCluster id = .ok entry := findCluster_eq_ok_iff.2 hGet
  have hPerform : (p.count c.endpoint).perform c =
      .error (unexpectedState id entry.record.state) := by
    cases c with
    | clusters call =>
      cases call with
      | resize r =>
        obtain rfl := of_decide_eq_true hChange
        simp only [perform, performClusters, resizeCluster, hFind, ok_bind]
        rw [if_pos hNot]
        rfl
      | restart other =>
        obtain rfl := of_decide_eq_true hChange
        simp only [perform, performClusters, changeCluster, hFind, ok_bind]
        rw [if_neg (mt beq_iff_eq.1 hNot)]
        rfl
      | _ => cases hChange
    | _ => cases hChange
  simp only [serve, hPerform]
  cases p.failure? c.endpoint <;> rfl

/-! ### The size -/

/-- The size that a cluster has, or that a request asks for, as its two fields. -/
abbrev Sizing := Option UInt32 × Option AutoScale

/-- The size of a cluster, if it exists. -/
def clusterSizing? (p : Platform) (id : ClusterId) : Option Sizing :=
  (p.clusters.get? id).map fun entry => (entry.record.numWorkers, entry.record.autoscale)

/-- The size that an event asks for, if it is a resize of the cluster that the platform accepts. -/
def Event.acceptedSizing? (id : ClusterId) (p : Platform) : Event → Option Sizing
  | .call (.clusters (.resize r)) =>
    if r.clusterId = id ∧ (p.serve (.clusters (.resize r))).1.isOk then
      some (r.numWorkers, r.autoscale)
    else
      none
  | _ => none

/-- The size that the last accepted resize in a history asks for, or the one before it. -/
def lastSizing (id : ClusterId) : Platform → Sizing → List Event → Sizing
  | _, size, [] => size
  | p, size, e :: rest =>
    lastSizing id (e.apply p) ((e.acceptedSizing? id p).getD size) rest

theorem sizing_inState (r : ClusterRecord) (state : ClusterState) :
    ((r.inState state).numWorkers, (r.inState state).autoscale) = (r.numWorkers, r.autoscale) := by
  cases state <;> rfl

/-- Nothing but a resize changes the size of a cluster, unless the cluster is another one. -/
theorem ClusterStep.sizing {entry : ClusterEntry}
    (hStep : ClusterStep p q id e (some entry) new) (hNotAhead : ¬p.IsAhead id)
    (hPut : ∀ record, e ≠ .putCluster record)
    (hResize : ∀ r, e ≠ .call (.clusters (.resize r))) :
    ∀ entry', new = some entry' →
      (entry'.record.numWorkers, entry'.record.autoscale) =
        (entry.record.numWorkers, entry.record.autoscale) := by
  rintro entry' rfl
  cases hStep with
  | same | wait | restart | terminate => rfl
  | finish | settle | fail =>
    -- Nodes are written when a change ends, but not the size.
    exact sizing_inState _ _
  | create _ _ hId | addRunningCluster _ _ _ hId =>
    subst hId
    exact absurd p.isAhead_nextClusterId hNotAhead
  | resize r => exact absurd rfl (hResize r)
  | putCluster record => exact absurd rfl (hPut record)

/-- A resize leaves the size that it asks for, if it is accepted, and else that which was there. -/
theorem clusterSizing?_resize (r : ResizeRequest) (id : ClusterId) :
    (p.serve (.clusters (.resize r))).2.clusterSizing? id =
      (p.clusterSizing? id).map
        ((Event.call (.clusters (.resize r))).acceptedSizing? id p).getD := by
  rw [Event.acceptedSizing?]
  cases hOk : (p.serve (.clusters (.resize r))).1.isOk with
  | false =>
    have hCount : (p.serve (.clusters (.resize r))).2 = p.count "clusters/resize" := by
      obtain ⟨a, q, hServe, -⟩ | ⟨e, hServe, -⟩ := p.serve_cases (.clusters (.resize r))
      · rw [hServe] at hOk
        cases hOk
      · rw [hServe]
        rfl
    rw [hCount, if_neg (by simp)]
    exact (Option.map_id' ..).symm
  | true =>
    obtain ⟨a, hPerform⟩ := isOk_serve hOk
    obtain ⟨entry, hGet, -, hAfter⟩ := resizeCluster_eq_ok hPerform
    have hGet : p.clusters.get? r.clusterId = some entry := hGet
    rw [hAfter, clusterSizing?, begin, setCluster, SortedMap.get?_insert]
    -- The size is written to the cluster of the request, whichever one is asked about.
    by_cases hId : id = r.clusterId
    · subst hId
      rw [if_pos rfl, if_pos ⟨rfl, rfl⟩, clusterSizing?, hGet]
      rfl
    · rw [if_neg hId, if_neg fun h => hId h.1.symm]
      exact (Option.map_id' ..).symm

/-- An event leaves a cluster with the size that it asks for, if it is an accepted resize, and else
with that which was there; or the cluster is removed. -/
theorem clusterSizing?_apply (hNotAhead : ¬p.IsAhead id) (hPut : ∀ record, e ≠ .putCluster record)
    {size : Sizing} (hSize : p.clusterSizing? id = some size) :
    (e.apply p).clusterSizing? id = none ∨
      (e.apply p).clusterSizing? id = some ((e.acceptedSizing? id p).getD size) := by
  by_cases hResize : ∃ r, e = .call (.clusters (.resize r))
  · obtain ⟨r, rfl⟩ := hResize
    refine .inr ((clusterSizing?_resize r id).trans ?_)
    rw [hSize, Option.map_some]
  · have hNone : e.acceptedSizing? id p = none := by
      unfold Event.acceptedSizing?
      split
      · exact absurd ⟨_, rfl⟩ hResize
      · rfl
    obtain ⟨entry, hGet, rfl⟩ := Option.map_eq_some_iff.1 hSize
    have hStep := p.clusterStep_apply e id
    rw [hGet] at hStep
    have hKept := hStep.sizing hNotAhead hPut fun r h => hResize ⟨r, h⟩
    rw [hNone, clusterSizing?]
    cases hNew : (e.apply p).clusters.get? id with
    | none => exact .inl rfl
    | some entry' => exact .inr (congrArg some (hKept entry' hNew))

/-- After any history a cluster has been removed, or its size is that of the last resize that was
accepted. -/
theorem clusterSizing?_after (hNotAhead : ¬p.IsAhead id) {history : List Event}
    (hPut : ∀ record, .putCluster record ∉ history) {size : Sizing}
    (hSize : p.clusterSizing? id = none ∨ p.clusterSizing? id = some size) :
    (p.after history).clusterSizing? id = none ∨
      (p.after history).clusterSizing? id = some (lastSizing id p size history) := by
  induction history generalizing p size with
  | nil => exact hSize
  | cons e rest ih =>
    have hPutFirst (record : ClusterRecord) : e ≠ .putCluster record := by
      rintro rfl
      exact hPut record List.mem_cons_self
    refine ih (fun hAhead => hNotAhead (hAhead.of_le (lastNumber_le_apply e)))
      (fun record hMem => hPut record (List.mem_cons_of_mem _ hMem)) ?_
    rcases hSize with hGone | hSize
    · have hStep := p.clusterStep_apply e id
      rw [Option.map_eq_none_iff.1 hGone] at hStep
      exact .inl (Option.map_eq_none_iff.2 (hStep.absent hNotAhead hPutFirst))
    · exact clusterSizing?_apply hNotAhead hPutFirst hSize

/-! ### Clusters that have ended -/

/-- A cluster has ended or has been removed, and its identifier is not given again. -/
structure Ended (p : Platform) (id : ClusterId) : Prop where
  state : ∀ state, p.clusterState? id = some state → state.isTerminal = true
  notAhead : ¬p.IsAhead id

/-- Whatever an event does to a cluster that has ended, it is not up again. -/
theorem ClusterStep.ended (hStep : ClusterStep p q id e old new)
    (hOld : ∀ entry, old = some entry → entry.record.state.isTerminal = true ∧ entry.OnCourse)
    (hNotAhead : ¬p.IsAhead id) (hPut : ∀ record, e ≠ .putCluster record) :
    ∀ entry, new = some entry → entry.record.state.isTerminal = true := by
  rintro entry rfl
  cases hStep with
  | same => exact (hOld _ rfl).1
  | wait | finish | settle =>
    exact nomatch (hOld _ rfl).2.eq_none (hOld _ rfl).1
  | create _ _ hId | addRunningCluster _ _ _ hId =>
    subst hId
    exact absurd p.isAhead_nextClusterId hNotAhead
  | resize _ _ _ _ hState | restart _ _ hState =>
    -- Both are accepted of a running cluster only.
    have hEnded := (hOld _ rfl).1
    rw [hState] at hEnded
    cases hEnded
  | terminate _ _ hUp => exact nomatch hUp.symm.trans (hOld _ rfl).1
  | fail => rfl
  | putCluster record => exact absurd rfl (hPut record)

theorem Ended.apply (hEnded : p.Ended id) (hReach : p.Reachable)
    (hPut : ∀ record, e ≠ .putCluster record) : (e.apply p).Ended id where
  state state hState := by
    obtain ⟨entry, hGet, rfl⟩ := Option.map_eq_some_iff.1 hState
    refine (p.clusterStep_apply e id).ended (fun entry' hOld => ?_) hEnded.notAhead hPut entry hGet
    exact ⟨hEnded.state _ (congrArg (Option.map _) hOld), hReach.onCourse hOld⟩
  notAhead hAhead := hEnded.notAhead (hAhead.of_le (lastNumber_le_apply e))

end Platform

end SparkFleet
