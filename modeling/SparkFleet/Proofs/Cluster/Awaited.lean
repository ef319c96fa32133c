import Mathlib.Logic.Relation
import SparkFleet.Proofs.Cluster.GuardAgrees
import SparkFleet.Proofs.Cluster.StateChange
import SparkFleet.Wait

/-!
# Waiting for the state of a cluster

A wait gives up at the first read that shows a state from which the awaited one is out of reach by
the table of the lifecycle, and goes on otherwise.  The table says what may follow, and the platform
is what does: on one that runs its course, states change along the table only
(`RunsCourse.stateStep`), and every step of the table can be taken (`RunsCourse.leadsTo_next`).

The main statement `gives_up_rightly` follows: after the wait has given up, the cluster is not in
the awaited state again, whatever happens; and while the wait goes on, the cluster can still be
brought there.
-/

namespace SparkFleet

open SparkFleet.Action (exec)

namespace ClusterState

variable {a b c : ClusterState}

/-! ### What is within reach -/

/-- What can be reached is closed under the table. -/
theorem canReach_of_mayBecome (hReach : a.canReach b = true) (hMay : b.mayBecome c = true) :
    a.canReach c = true := by
  revert hReach hMay
  cases a <;> cases b <;> cases c <;> decide

theorem canReach_next (hMay : a.mayBecome b = true) : a.canReach b = true := by
  revert hMay
  cases a <;> cases b <;> decide

theorem transGen_of_reachesWithin {steps : Nat} (h : reachesWithin steps a b = true) :
    Relation.TransGen (fun a b => mayBecome a b = true) a b := by
  induction steps generalizing a with
  | zero => cases h
  | succ steps ih =>
    obtain ⟨next, hNext, hFound⟩ := List.any_eq_true.1 h
    have hMay := (mem_successors_iff a next).1 hNext
    obtain hHere | hLater := Bool.or_eq_true _ _ ▸ hFound
    · exact .single (beq_iff_eq.1 hHere ▸ hMay)
    · exact .head hMay (ih hLater)

/-- A state is within reach exactly if a chain of the table leads to it. -/
theorem canReach_iff :
    a.canReach b = true ↔ Relation.TransGen (fun a b => mayBecome a b = true) a b := by
  refine ⟨transGen_of_reachesWithin, fun h => ?_⟩
  induction h with
  | single hMay => exact canReach_next hMay
  | tail _ hMay ih => exact canReach_of_mayBecome ih hMay

/-- The state that a cluster shows next, if it is changing. -/
def settled? : ClusterState → Option ClusterState
  | .pending | .restarting | .resizing => some .running
  | .terminating => some .terminated
  | _ => none

theorem settled?_of_settled? (h : a.settled? = some b) : b.settled? = none := by
  cases a <;> cases h <;> rfl

/-- How a cluster gets from one state to the next: a change comes to its end, it fails, it is
terminated, or it is restarted or resized. -/
theorem mayBecome_cases (h : a.mayBecome b = true) :
    a.settled? = some b ∨ (b = .error ∧ a.isTerminal = false) ∨
      (b = .terminating ∧ a.isTerminal = false) ∨
      (a = .running ∧ (b = .restarting ∨ b = .resizing)) := by
  revert h
  cases a <;> cases b <;> decide

end ClusterState

/-- A change is under way exactly if the state shows one, and it leads where the state says. -/
def ClusterEntry.Determined (entry : ClusterEntry) : Prop :=
  entry.transition.map (·.target) = entry.record.state.settled?

/-- A change that has come to its end leads to no other. -/
theorem ClusterEntry.Determined.finished {record : ClusterRecord} {change : Transition}
    (hBefore : Determined ⟨record, some change⟩) :
    Determined ⟨record.inState change.target, none⟩ := by
  have hSettled : some change.target = record.state.settled? := hBefore
  rw [Determined, ClusterRecord.state_inState, ClusterState.settled?_of_settled? hSettled.symm]
  rfl

namespace Platform

variable {p q : Platform} {id : ClusterId} {e : Event} {old new : Option ClusterEntry}
  {s t : ClusterState}

/-! ### Platforms that run their course -/

/-- An event is genuine where it puts no cluster in place as it is and lets none fail that has
ended. -/
def Event.Genuine (p : Platform) : Event → Prop
  | .putCluster _ => False
  | .failCluster id => ∀ state, p.clusterState? id = some state → state.isTerminal = false
  | _ => True

/-- Whatever a genuine event does to a cluster, its change leads where its state says. -/
theorem ClusterStep.determined (hStep : ClusterStep p q id e old new) (hGenuine : e.Genuine p)
    (hOld : ∀ entry, old = some entry → entry.Determined) :
    ∀ entry, new = some entry → entry.Determined := by
  rintro entry rfl
  cases hStep with
  | same => exact hOld _ rfl
  | wait record target reads =>
    have hBefore : some target = record.state.settled? := hOld _ rfl
    exact hBefore
  | finish record target => exact (hOld ⟨record, some ⟨target, 0⟩⟩ rfl).finished
  | settle record change => exact (hOld ⟨record, some change⟩ rfl).finished
  | create | resize | restart | terminate => rfl
  | fail | addRunningCluster =>
    -- Both leave a cluster in a state that shows no change, and with none under way.
    rw [ClusterEntry.Determined, ClusterRecord.state_inState]
    rfl
  | putCluster => exact hGenuine.elim

/-- The platform runs its course: it follows the lifecycle, and every change leads where the state
of its cluster says. -/
structure RunsCourse (p : Platform) : Prop where
  follows : p.FollowsLifecycle
  determined : p.clusters.All fun _ entry => entry.Determined

theorem runsCourse_empty : ({} : Platform).RunsCourse := ⟨⟨⟨[], rfl⟩, .empty, .empty⟩, .empty⟩

theorem RunsCourse.apply (hRuns : p.RunsCourse) (hGenuine : e.Genuine p) :
    (e.apply p).RunsCourse where
  follows := by
    refine hRuns.follows.apply e ?_
    rintro record rfl
    exact hGenuine.elim
  determined _ entry hGet :=
    (p.clusterStep_apply e _).determined hGenuine (fun _ hOld => hRuns.determined hOld) entry hGet

theorem RunsCourse.after (hRuns : p.RunsCourse) {history : List Event}
    (hGenuine : Throughout Event.Genuine p history) : (p.after history).RunsCourse :=
  hGenuine.induction (fun _ _ hGenuine hRuns => hRuns.apply hGenuine) hRuns

/-! ### What does not come back -/

/-- A cluster whose identifier has been given is in the state after a genuine event because it was
so before, or was in a state from which the table leads there. -/
theorem RunsCourse.stateStep (hRuns : p.RunsCourse) (hGenuine : e.Genuine p)
    (hNotAhead : ¬p.IsAhead id) (hAfter : (e.apply p).clusterState? id = some t) :
    ∃ s, p.clusterState? id = some s ∧ (s = t ∨ s.mayBecome t = true) := by
  by_cases hOrdinary : e.Ordinary p
  · have hStep := hRuns.follows.stateStep hOrdinary id
    rw [hAfter] at hStep
    generalize hBefore : p.clusterState? id = before at hStep
    cases hStep with
    | same => exact ⟨t, rfl, .inl rfl⟩
    | change _ hMay => exact ⟨_, rfl, .inr hMay⟩
    | created spec =>
      have hStep := p.clusterStep_apply (.call (.clusters (.create spec))) id
      rw [Option.map_eq_none_iff.1 hBefore] at hStep
      have hAbsent := hStep.absent hNotAhead fun _ => nofun
      rw [clusterState?, hAbsent] at hAfter
      cases hAfter
  · cases e with
    | addRunningCluster name workers =>
      have hOther : id ≠ p.nextClusterId := by
        rintro rfl
        exact hNotAhead p.isAhead_nextClusterId
      refine ⟨t, ?_, .inl rfl⟩
      rw [← hAfter, clusterState?, clusterState?]
      exact congrArg _ ((SortedMap.get?_insert ..).trans (if_neg hOther)).symm
    | putCluster => exact hGenuine.elim
    | failCluster => exact absurd hGenuine hOrdinary
    | _ => exact absurd trivial hOrdinary

/-- A state that is out of reach does not show again, whatever happens. -/
theorem RunsCourse.stays_out_of_reach (hRuns : p.RunsCourse) (hState : p.clusterState? id = some s)
    (hOther : s ≠ t) (hOut : s.canReach t = false) {history : List Event}
    (hGenuine : Throughout Event.Genuine p history) :
    (p.after history).clusterState? id ≠ some t := by
  -- What is kept is more than the statement: all that shows is the first state or within its reach.
  have hKept := hGenuine.induction
    (motive := fun q => q.RunsCourse ∧ ¬q.IsAhead id ∧
      ∀ now, q.clusterState? id = some now → now = s ∨ s.canReach now = true) ?_ ?_
  · intro hThere
    obtain rfl | hReach := hKept.2.2 t hThere
    · exact hOther rfl
    · rw [hReach] at hOut
      cases hOut
  · -- An event changes the state along the table only, and reach is closed under the table.
    rintro q e hGenuine ⟨hRuns, hNotAhead, hReach⟩
    refine ⟨hRuns.apply hGenuine, fun hAhead => hNotAhead (hAhead.of_le (lastNumber_le_apply e)),
      fun now hNow => ?_⟩
    obtain ⟨before, hBefore, rfl | hMay⟩ := hRuns.stateStep hGenuine hNotAhead hNow
    · exact hReach _ hBefore
    · obtain rfl | hReached := hReach before hBefore
      · exact .inr (ClusterState.canReach_next hMay)
      · exact .inr (ClusterState.canReach_of_mayBecome hReached hMay)
  · obtain ⟨entry, hGet, -⟩ := Option.map_eq_some_iff.1 hState
    refine ⟨hRuns, hRuns.follows.unclaimed hGet, fun now hNow => .inl ?_⟩
    exact Option.some.inj (hNow.symm.trans hState)

/-! ### What can still be brought about -/

/-- An event is a way to go on: a call, the end of a change, the failure of a cluster that has not
ended, or, for an endpoint whose calls are refused, that they are served again. -/
def Event.Continues (p : Platform) : Event → Prop
  | .call _ | .settleCluster _ => True
  | .failCluster id => ∀ state, p.clusterState? id = some state → state.isTerminal = false
  | .clearFailure endpoint => p.failure? endpoint ≠ none
  | _ => False

theorem Event.Continues.genuine (hContinues : e.Continues p) : e.Genuine p := by
  cases e with
  | failCluster => exact hContinues
  | putCluster => exact hContinues.elim
  | _ => trivial

/-- Going on makes no endpoint refuse its calls. -/
theorem Event.Continues.serving (hContinues : e.Continues p) (hServing : p.Serving) :
    (e.apply p).Serving := by
  cases e with
  | call c => exact serving_serve_iff.2 hServing
  | settleCluster id =>
    rw [Event.apply, settleCluster_frame]
    exact hServing
  | failCluster id =>
    rw [Event.apply, failCluster_frame]
    exact hServing
  | clearFailure endpoint =>
    -- Nothing is refused, so there is nothing to clear, and the event would not be a way to go on.
    exact absurd (hServing endpoint) hContinues
  | _ => exact hContinues.elim

/-- Where no call is refused, no endpoint has to be served again. -/
theorem clearFailure_not_mem (hServing : p.Serving) {later : List Event}
    (hContinues : Throughout Event.Continues p later) (endpoint : String) :
    .clearFailure endpoint ∉ later := by
  induction later generalizing p with
  | nil => exact List.not_mem_nil
  | cons e later ih =>
    intro hMem
    obtain rfl | hLater := List.mem_cons.1 hMem
    · exact hContinues.1 (hServing endpoint)
    · exact ih (hContinues.1.serving hServing) hContinues.2 hLater

/-- The cluster can be brought to a state. -/
def LeadsTo (p : Platform) (id : ClusterId) (state : ClusterState) : Prop :=
  ∃ later, Throughout Event.Continues p later ∧ (p.after later).clusterState? id = some state

/-- A call that is accepted where calls are served brings the cluster where it leads. -/
theorem leadsTo_of_accepted (call : ClusterCall)
    (hAccepts : ∀ q : Platform, q.clusters = p.clusters →
      ∃ a r, q.performClusters call = .ok (a, r) ∧ r.clusterState? id = some t) :
    p.LeadsTo id t := by
  let c : Call := .clusters call
  -- The calls of the endpoint are served, if necessary after its failures have been cleared.
  have hServed (q : Platform) (hClusters : q.clusters = p.clusters)
      (hServes : q.failure? c.endpoint = none) :
      ((Event.call c).apply q).clusterState? id = some t := by
    obtain ⟨a, r, hPerform, hState⟩ := hAccepts (q.count c.endpoint) hClusters
    have hServe : q.serve c = (.ok a, r) := serve_of_ok hServes hPerform
    rw [Event.apply, hServe]
    exact hState
  cases hFailure : p.failure? c.endpoint with
  | none => exact ⟨[.call c], ⟨trivial, trivial⟩, hServed p rfl hFailure⟩
  | some cause =>
    have hCleared : (p.clearFailure c.endpoint).failure? c.endpoint = none := by
      rw [failure?, clearFailure, SortedMap.get?_erase, if_pos rfl]
      rfl
    refine ⟨[.clearFailure c.endpoint, .call c], ⟨?_, trivial, trivial⟩,
      hServed (p.clearFailure c.endpoint) rfl hCleared⟩
    rw [Event.Continues, hFailure]
    exact Option.some_ne_none cause

/-- A change that is under way can be brought to its end. -/
theorem RunsCourse.leadsTo_settled (hRuns : p.RunsCourse) (hState : p.clusterState? id = some s)
    (hSettled : s.settled? = some t) : p.LeadsTo id t := by
  obtain ⟨entry, hGet, rfl⟩ := Option.map_eq_some_iff.1 hState
  obtain ⟨change, hChange, rfl⟩ := Option.map_eq_some_iff.1 ((hRuns.determined hGet).trans hSettled)
  refine ⟨[.settleCluster id], ⟨trivial, trivial⟩, ?_⟩
  simp only [after_cons, after_nil, Event.apply, settleCluster, hGet, hChange, clusterState?,
    clusters_finish_eq, SortedMap.get?_insert, if_true, Option.map_some,
    ClusterRecord.state_inState]

/-- A cluster that has not ended can fail. -/
theorem leadsTo_error (hState : p.clusterState? id = some s) (hUp : s.isTerminal = false) :
    p.LeadsTo id .error := by
  obtain ⟨entry, hGet, rfl⟩ := Option.map_eq_some_iff.1 hState
  refine ⟨[.failCluster id], ⟨fun state hThere => ?_, trivial⟩, ?_⟩
  · rw [← Option.some.inj (hState.symm.trans hThere)]
    exact hUp
  · simp only [after_cons, after_nil, Event.apply, failCluster, hGet, clusterState?, setCluster,
      SortedMap.get?_insert, if_true, Option.map_some, ClusterRecord.state_inState]

theorem clusterState?_begin (p : Platform) (id : ClusterId) (record : ClusterRecord)
    (state target : ClusterState) :
    (p.begin id record state target).clusterState? id = some state := by
  rw [clusterState?, begin, setCluster, SortedMap.get?_insert, if_pos rfl]
  rfl

/-- Every step of the table can be taken. -/
theorem RunsCourse.leadsTo_next (hRuns : p.RunsCourse) (hState : p.clusterState? id = some s)
    (hMay : s.mayBecome t = true) : p.LeadsTo id t := by
  obtain ⟨entry, hGet, hEntry⟩ := Option.map_eq_some_iff.1 hState
  obtain hSettled | ⟨rfl, hUp⟩ | ⟨rfl, hUp⟩ | ⟨rfl, rfl | rfl⟩ := ClusterState.mayBecome_cases hMay
  · -- In what follows each step of the table has an event of its own that takes it.
    exact hRuns.leadsTo_settled hState hSettled
  · exact leadsTo_error hState hUp
  · have hAllowed : (!entry.record.state.isTerminal) = true := by
      rw [hEntry, hUp]
      rfl
    refine leadsTo_of_accepted (.terminate id) fun q hClusters => ?_
    exact ⟨(), _, changeCluster_of_get? (hClusters ▸ hGet) (!·.isTerminal) hAllowed .terminating
      .terminated, clusterState?_begin ..⟩
  · have hAllowed : (entry.record.state == .running) = true := beq_iff_eq.2 hEntry
    refine leadsTo_of_accepted (.restart id) fun q hClusters => ?_
    exact ⟨(), _, changeCluster_of_get? (hClusters ▸ hGet) (· == .running) hAllowed .restarting
      .running, clusterState?_begin ..⟩
  · -- A resize may ask for the size that the cluster has.
    refine leadsTo_of_accepted
      (.resize ⟨id, entry.record.numWorkers, entry.record.autoscale⟩) fun q hClusters => ?_
    exact ⟨(), _, resizeCluster_of_get? (hClusters ▸ hGet) hEntry entry.record.numWorkers
      entry.record.autoscale, clusterState?_begin ..⟩

/-- A state that is within reach can be brought about. -/
theorem RunsCourse.leadsTo_of_canReach (hRuns : p.RunsCourse)
    (hState : p.clusterState? id = some s) (hReach : s.canReach t = true) : p.LeadsTo id t := by
  have hChain := ClusterState.canReach_iff.1 hReach
  induction hChain using Relation.TransGen.head_induction_on generalizing p with
  | single hMay => exact hRuns.leadsTo_next hState hMay
  | head hMay hRest ih =>
    obtain ⟨first, hFirst, hThere⟩ := hRuns.leadsTo_next hState hMay
    -- The next step of the chain is taken from where the first has led, which still runs its
    -- course.
    have hThen := hRuns.after (hFirst.mono fun _ _ => Event.Continues.genuine)
    obtain ⟨later, hLater, hEnd⟩ := ih hThen hThere (ClusterState.canReach_iff.2 hRest)
    refine ⟨first ++ later, hFirst.append hLater, ?_⟩
    rw [after_append]
    exact hEnd

end Platform

/-! ### Polls -/

section Poll

variable {c : Cluster} {target : ClusterState} {s t : Simulation Platform}

/-- Where a poll gives up, another state shows from which the awaited one is out of reach. -/
theorem clusterReached_eq_error {id : ClusterId} {now : Cluster} {e : Error}
    (hReached : Wait.clusterReached id target now = .error e) :
    now.snapshotState ≠ target ∧ now.snapshotState.canReach target = false := by
  unfold Wait.clusterReached at hReached
  split at hReached
  · cases hReached
  · next hOther =>
    split at hReached
    · next hOut => exact ⟨hOther, hOut.2⟩
    · cases hReached

/-- Where a poll goes on, the awaited state is within reach, unless an unknown one shows. -/
theorem clusterReached_eq_none {id : ClusterId} {now : Cluster}
    (hKnown : now.snapshotState ≠ .unknown)
    (hReached : Wait.clusterReached id target now = .ok none) :
    now.snapshotState.canReach target = true := by
  unfold Wait.clusterReached at hReached
  split at hReached
  · cases hReached
  · split at hReached
    · cases hReached
    · next hIn => exact Bool.of_not_eq_false fun hOut => hIn ⟨hKnown, hOut⟩

/-- A poll makes one read, and the state that the read leaves decides what the poll ends with. -/
theorem clusterPoll_spec {result : Except Error (Option Cluster)}
    (hPoll : exec Platform.handler (Wait.clusterPoll c target) s = (result, t)) :
    t.state = (Platform.Event.call (.clusters (.get c.id))).apply s.state ∧
      ((∃ cause, result = .error ((Error.transport cause).within .cluster)) ∨
        ∃ now : Cluster, t.state.clusterState? c.id = some now.snapshotState ∧
          result = Wait.clusterReached c.id target now) := by
  rw [Wait.clusterPoll, Action.exec_bind, Cluster.refresh, Action.exec_bind, Cluster.read,
    Action.exec_within, Action.exec_ask] at hPoll
  rw [Platform.Event.apply]
  rcases hServe : s.state.serve (.clusters (.get c.id)) with ⟨cause | record, q⟩
  · rw [Platform.answer_handler hServe] at hPoll
    obtain ⟨hResult, rfl⟩ := Prod.mk.inj hPoll
    exact ⟨rfl, .inl ⟨cause, hResult.symm⟩⟩
  · rw [Platform.answer_handler hServe] at hPoll
    obtain ⟨hResult, rfl⟩ := Prod.mk.inj hPoll
    exact ⟨rfl, .inr ⟨⟨record⟩, Platform.clusterState?_read hServe, hResult.symm⟩⟩

end Poll

open Platform (Event Throughout)

/-- Clusters are created and added running, and fail only if they have not ended.  If one poll of a
wait gives up, the cluster is not in the awaited state again, whatever genuine event happens.  If it
goes on, the cluster can be brought to that state by calls and by changes that end or fail; only
endpoints whose calls are refused may have to be served first. -/
theorem gives_up_rightly {history : List Event} (hGenuine : Throughout Event.Genuine {} history)
    {s t : Simulation Platform} (hStart : s.state = ({} : Platform).after history) (c : Cluster)
    (target : ClusterState) :
    (∀ state, exec Platform.handler (Wait.clusterPoll c target) s =
        (.error (Wait.outOfReach c.id state target), t) →
      ∀ later, Throughout Event.Genuine t.state later →
        (t.state.after later).clusterState? c.id ≠ some target) ∧
      (exec Platform.handler (Wait.clusterPoll c target) s = (.ok none, t) →
        ∃ later, Throughout Event.Continues t.state later ∧
          (t.state.Serving → ∀ endpoint, .clearFailure endpoint ∉ later) ∧
          (t.state.after later).clusterState? c.id = some target) := by
  have hRuns : s.state.RunsCourse := by
    rw [hStart]
    exact Platform.runsCourse_empty.after hGenuine
  have hThen {result : Except Error (Option Cluster)}
      (hPoll : exec Platform.handler (Wait.clusterPoll c target) s = (result, t)) :
      t.state.RunsCourse := by
    rw [(clusterPoll_spec hPoll).1]
    exact hRuns.apply trivial
  constructor
  · intro state hPoll later hLater
    obtain ⟨-, ⟨cause, hFailed⟩ | ⟨now, hState, hReached⟩⟩ := clusterPoll_spec hPoll
    · exact nomatch Except.error.inj hFailed
    · obtain ⟨hOther, hOut⟩ := clusterReached_eq_error hReached.symm
      exact (hThen hPoll).stays_out_of_reach hState hOther hOut hLater
  · intro hPoll
    obtain ⟨-, ⟨cause, hFailed⟩ | ⟨now, hState, hReached⟩⟩ := clusterPoll_spec hPoll
    · exact nomatch hFailed
    · -- The platform shows no unknown state, so the poll has gone on because the state is within
      -- reach.
      obtain ⟨entry, hGet, hEntry⟩ := Option.map_eq_some_iff.1 hState
      have hKnown : now.snapshotState ≠ .unknown := hEntry ▸ (hThen hPoll).follows.known hGet
      obtain ⟨later, hLater, hEnd⟩ :=
        (hThen hPoll).leadsTo_of_canReach hState (clusterReached_eq_none hKnown hReached.symm)
      exact ⟨later, hLater, fun hServing => Platform.clearFailure_not_mem hServing hLater, hEnd⟩

/-- A running cluster is terminated. -/
def leaving : List Event :=
  [.addRunningCluster "leaving" 1, .call (.clusters (.terminate pendingHandle.id))]

/-- A wait for the cluster to run gives up, and one for its end goes on. -/
theorem gives_up_rightly_leaving :
    let s : Simulation Platform := ⟨({} : Platform).after leaving, ⟨0⟩, .empty⟩
    let polled (target : ClusterState) :=
      exec Platform.handler (Wait.clusterPoll pendingHandle target) s
    Throughout Event.Genuine {} leaving ∧
      (polled .running).1 = .error (Wait.outOfReach pendingHandle.id .terminating .running) ∧
      (∀ later, Throughout Event.Genuine (polled .running).2.state later →
        ((polled .running).2.state.after later).clusterState? pendingHandle.id ≠ some .running) ∧
      (polled .terminated).1 = .ok none ∧
      ∃ later, ((polled .terminated).2.state.after later).clusterState? pendingHandle.id =
        some .terminated := by
  intro s polled
  have hGenuine : Throughout Event.Genuine {} leaving := ⟨trivial, trivial, trivial⟩
  have hGivesUp : (polled .running).1 =
      .error (Wait.outOfReach pendingHandle.id .terminating .running) := rfl
  have hGoesOn : (polled .terminated).1 = .ok none := rfl
  refine ⟨hGenuine, hGivesUp, ?_, hGoesOn, ?_⟩
  · exact (gives_up_rightly hGenuine rfl pendingHandle .running).1 .terminating
      (Prod.ext hGivesUp rfl)
  · obtain ⟨later, -, -, hEnd⟩ := (gives_up_rightly hGenuine rfl pendingHandle .terminated).2
      (Prod.ext hGoesOn rfl)
    exact ⟨later, hEnd⟩

end SparkFleet
