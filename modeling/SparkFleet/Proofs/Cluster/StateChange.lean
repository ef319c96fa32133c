import SparkFleet.Proofs.Platform.ClusterStep

/-!
# The platform follows the lifecycle of clusters

The table of the lifecycle says which state of a cluster may follow which.  On the platform a state
changes in three places: by a call, by a read that ends a change under way, and from outside; and
the state that a change leads to is kept apart from the state that is shown.

The invariant is `ClusterEntry.OnCourse`: a change under way leads to a successor of the state that
is shown.  It holds on every platform that can be reached (`Reachable.onCourse`).  The main
statement `states_follow_lifecycle` follows: from known states, each event leaves the state of a
cluster, or changes it along the table, or adds a pending cluster, or removes one for good; and a
cluster that has ended stays as it is until it is removed.
-/

namespace SparkFleet

@[simp] theorem ClusterRecord.state_inState (r : ClusterRecord) (state : ClusterState) :
    (r.inState state).state = state := by
  cases state <;> rfl

namespace ClusterState

/-- Every cluster that has not ended may fail. -/
theorem mayBecome_error_iff {s : ClusterState} :
    s.mayBecome .error = true ↔ s.isTerminal = false := by
  cases s <;> decide

/-- A cluster that is up may be terminated. -/
theorem mayBecome_terminating {s : ClusterState} (hUp : s.isTerminal = false)
    (hKnown : s ≠ .unknown) : s = .terminating ∨ s.mayBecome .terminating = true := by
  cases s <;> simp_all [isTerminal, mayBecome]

/-- Nothing follows a state in which a cluster has ended. -/
theorem mayBecome_of_terminal {s : ClusterState} (hEnded : s.isTerminal = true) (t : ClusterState) :
    s.mayBecome t = false := by
  cases s <;> simp_all [isTerminal, mayBecome]

/-- A known state follows. -/
theorem ne_unknown_of_mayBecome {s t : ClusterState} (h : s.mayBecome t = true) : t ≠ .unknown := by
  rintro rfl
  cases s <;> simp_all [mayBecome]

end ClusterState

/-- A change under way leads to a successor of the state that is shown. -/
def ClusterEntry.OnCourse (entry : ClusterEntry) : Prop :=
  ∀ change, entry.transition = some change →
    entry.record.state.mayBecome change.target = true

theorem ClusterEntry.OnCourse.of_none {entry : ClusterEntry} (h : entry.transition = none) :
    entry.OnCourse := fun _ hChange => nomatch h.symm.trans hChange

theorem ClusterEntry.OnCourse.of_some {record : ClusterRecord} {target : ClusterState}
    (hMay : record.state.mayBecome target = true) (reads : Nat) :
    ClusterEntry.OnCourse ⟨record, some ⟨target, reads⟩⟩ := by
  rintro _ ⟨⟩
  exact hMay

/-- No change is under way where a cluster has ended. -/
theorem ClusterEntry.OnCourse.eq_none {entry : ClusterEntry} (hCourse : entry.OnCourse)
    (hEnded : entry.record.state.isTerminal = true) : entry.transition = none := by
  cases hChange : entry.transition with
  | none => rfl
  | some change =>
    have hMay := hCourse change hChange
    rw [ClusterState.mayBecome_of_terminal hEnded] at hMay
    cases hMay

namespace Platform

variable {p q : Platform} {id : ClusterId} {e : Event} {old new : Option ClusterEntry}

/-! ### The invariant -/

/-- Whatever an event does to a cluster, a change under way stays on course. -/
theorem ClusterStep.onCourse (hStep : ClusterStep p q id e old new)
    (hOld : ∀ entry, old = some entry → entry.OnCourse) :
    ∀ entry, new = some entry → entry.OnCourse := by
  rintro entry rfl
  cases hStep with
  | same => exact hOld _ rfl
  | wait record target reads =>
    have hMay : record.state.mayBecome target = true := hOld _ rfl _ rfl
    exact .of_some hMay reads
  | finish | settle | fail | putCluster | addRunningCluster =>
    -- Either no change is under way any more, or one begins that the table allows.
    exact .of_none rfl
  | create | resize | restart | terminate => exact .of_some rfl _

/-- A cluster that does not exist is not there after an event, unless it is put in place or its
identifier is given. -/
theorem ClusterStep.absent (hStep : ClusterStep p q id e none new) (hNotAhead : ¬p.IsAhead id)
    (hPut : ∀ record, e ≠ .putCluster record) : new = none := by
  cases hStep with
  | same => rfl
  | create _ _ hId | addRunningCluster _ _ _ hId =>
    -- The identifier that is given is the next one, and this one is behind it.
    subst hId
    exact absurd p.isAhead_nextClusterId hNotAhead
  | putCluster record => exact absurd rfl (hPut record)

/-- On a platform that can be reached, every change under way is on course. -/
theorem Reachable.onCourse (hReach : p.Reachable) :
    p.clusters.All fun _ entry => entry.OnCourse := by
  refine hReach.induction
    (motive := fun p => p.clusters.All fun _ entry => entry.OnCourse) .empty ?_
  intro p e hAll id entry hGet
  exact (p.clusterStep_apply e id).onCourse (fun _ hOld => hAll hOld) entry hGet

/-! ### States -/

/-- The state of a cluster, if it exists. -/
def clusterState? (p : Platform) (id : ClusterId) : Option ClusterState :=
  (p.clusters.get? id).map (·.record.state)

/-- The answer to a read shows the state that the cluster then has. -/
theorem clusterState?_read {record : ClusterRecord}
    (h : p.serve (.clusters (.get id)) = (.ok record, q)) :
    q.clusterState? id = some record.state := by
  obtain ⟨entry, -, hRead⟩ := bind_eq_ok (serve_eq_ok h)
  obtain ⟨entry', hFind, hRead⟩ := bind_eq_ok hRead
  cases hRead
  exact congrArg (Option.map _) (findCluster_eq_ok_iff.1 hFind)

/-- The state of every cluster is known. -/
def StatesKnown (p : Platform) : Prop := p.clusters.All fun _ entry => entry.record.state ≠ .unknown

/-- An event is ordinary where it is a call, or something that is done from outside but puts no
cluster in place and lets none fail that has ended. -/
def Event.Ordinary (p : Platform) : Event → Prop
  | .putCluster _ | .addRunningCluster _ _ => False
  | .failCluster id => ∀ state, p.clusterState? id = some state → state.isTerminal = false
  | _ => True

/-- No ordinary event puts a cluster in place. -/
theorem Event.Ordinary.noPut {P : ClusterRecord → Prop} (hOrdinary : e.Ordinary p)
    (record : ClusterRecord) (hPut : e = .putCluster record) : P record := by
  subst hPut
  exact hOrdinary.elim

/-- Whatever an event does to a cluster, its state stays known, unless the cluster is put in place
in an unknown one. -/
theorem ClusterStep.known (hStep : ClusterStep p q id e old new)
    (hOld : ∀ entry, old = some entry → entry.record.state ≠ .unknown)
    (hCourse : ∀ entry, old = some entry → entry.OnCourse)
    (hPut : ∀ record, e = .putCluster record → record.state ≠ .unknown) :
    ∀ entry, new = some entry → entry.record.state ≠ .unknown := by
  rintro entry rfl
  cases hStep with
  | same => exact hOld _ rfl
  | wait record target reads => exact hOld ⟨record, some ⟨target, reads + 1⟩⟩ rfl
  | finish record target | settle record change =>
    -- The target follows the state by the table, and no unknown state does.
    rw [ClusterRecord.state_inState]
    exact ClusterState.ne_unknown_of_mayBecome (hCourse _ rfl _ rfl)
  | create | resize | restart | terminate => nofun
  | fail | addRunningCluster =>
    rw [ClusterRecord.state_inState]
    nofun
  | putCluster record => exact hPut record rfl

/-- What an ordinary event can do to the state of a cluster. -/
inductive StateStep (id : ClusterId) :
    Event → Option ClusterState → Option ClusterState → Prop where
  | same (e : Event) (state : Option ClusterState) : StateStep id e state state
  /-- The state changes along the table of the lifecycle. -/
  | change (e : Event) {s t : ClusterState} (hMay : s.mayBecome t = true) :
      StateStep id e (some s) (some t)
  | created (spec : ClusterSpec) :
      StateStep id (.call (.clusters (.create spec))) none (some .pending)
  | removed (s : ClusterState) :
      StateStep id (.call (.clusters (.permanentDelete id))) (some s) none

/-- An ordinary event changes the state of a cluster along the table, where the state is known and
the change under way is on course. -/
theorem ClusterStep.stateStep (hStep : ClusterStep p q id e old new)
    (hOld : p.clusters.get? id = old) (hOrdinary : e.Ordinary p)
    (hCourse : ∀ entry, old = some entry → entry.OnCourse)
    (hKnown : ∀ entry, old = some entry → entry.record.state ≠ .unknown)
    (hUnclaimed : p.Unclaimed) :
    StateStep id e (old.map (·.record.state)) (new.map (·.record.state)) := by
  cases hStep with
  | same | wait => exact .same _ _
  | finish record target | settle record change =>
    -- Here the invariant is needed: the target was chosen earlier, but it still follows the state.
    have hMay := hCourse _ rfl _ rfl
    simp only [Option.map_some, ClusterRecord.state_inState]
    exact .change _ hMay
  | create spec _ hId =>
    subst hId
    rw [← hOld, hUnclaimed.get?_nextClusterId]
    exact .created spec
  | resize r hId record change hState | restart record change hState =>
    simp only [Option.map_some, hState]
    exact .change _ rfl
  | terminate record change hUp =>
    -- Terminating a cluster that is terminating already leaves its state as it is.
    obtain hSame | hMay := ClusterState.mayBecome_terminating hUp (hKnown _ rfl)
    · simp only [Option.map_some, hSame]
      exact .same _ _
    · exact .change _ hMay
  | permanentDelete entry => exact .removed _
  | fail record change =>
    have hState : p.clusterState? id = some record.state := congrArg (Option.map _) hOld
    simp only [Option.map_some, ClusterRecord.state_inState]
    exact .change _ (ClusterState.mayBecome_error_iff.2 (hOrdinary _ hState))
  | putCluster | addRunningCluster => exact hOrdinary.elim

/-! ### Runs -/

/-- An identifier is fresh where no cluster has it and the platform is not still to give it. -/
def Fresh (p : Platform) (id : ClusterId) : Prop := p.clusters.get? id = none ∧ ¬p.IsAhead id

/-- An empty platform to which clusters have been added: running ones, and others as they are, in
any known state and under fresh identifiers. -/
inductive Stocked : Platform → Prop where
  | empty : Stocked {}
  | addRunningCluster {p : Platform} (h : p.Stocked) (name : String) (workers : UInt32) :
      Stocked (p.addRunningCluster name workers).2
  | putCluster {p : Platform} (h : p.Stocked) (record : ClusterRecord)
      (hFresh : p.Fresh record.clusterId) (hKnown : record.state ≠ .unknown) :
      Stocked (p.putCluster record)

/-- Each event of a history is ordinary where it happens. -/
def Ordinary : Platform → List Event → Prop
  | _, [] => True
  | p, e :: rest => e.Ordinary p ∧ (e.apply p).Ordinary rest

theorem ordinary_append {first rest : List Event} :
    p.Ordinary (first ++ rest) ↔ p.Ordinary first ∧ (p.after first).Ordinary rest := by
  induction first generalizing p with
  | nil => exact ⟨fun h => ⟨trivial, h⟩, And.right⟩
  | cons e first ih => exact (and_congr_right fun _ => ih).trans and_assoc.symm

/-- The platform follows the lifecycle from here on: its history is a possible one, the states of
its clusters are known, and no cluster has an identifier that is still to be given. -/
structure FollowsLifecycle (p : Platform) : Prop where
  reachable : p.Reachable
  known : p.StatesKnown
  unclaimed : p.Unclaimed

theorem FollowsLifecycle.stateStep (hFollows : p.FollowsLifecycle) (hOrdinary : e.Ordinary p)
    (id : ClusterId) : StateStep id e (p.clusterState? id) ((e.apply p).clusterState? id) :=
  (p.clusterStep_apply e id).stateStep rfl hOrdinary (fun _ h => hFollows.reachable.onCourse h)
    (fun _ h => hFollows.known h) hFollows.unclaimed

/-- Every event keeps this, unless a cluster is put in place in an unknown state or under an
identifier that is still to be given. -/
theorem FollowsLifecycle.apply (hFollows : p.FollowsLifecycle) (e : Event)
    (hPut : ∀ record, e = .putCluster record →
      record.state ≠ .unknown ∧ ¬p.IsAhead record.clusterId) : (e.apply p).FollowsLifecycle where
  reachable := hFollows.reachable.after [e]
  known _ entry hGet :=
    (p.clusterStep_apply e _).known (fun _ h => hFollows.known h)
      (fun _ h => hFollows.reachable.onCourse h) (fun record h => (hPut record h).1) entry hGet
  unclaimed := hFollows.unclaimed.apply e fun record h => (hPut record h).2

theorem FollowsLifecycle.after (hFollows : p.FollowsLifecycle) {history : List Event}
    (hOrdinary : p.Ordinary history) : (p.after history).FollowsLifecycle := by
  induction history generalizing p with
  | nil => exact hFollows
  | cons e history ih => exact ih (hFollows.apply e hOrdinary.1.noPut) hOrdinary.2

theorem Stocked.followsLifecycle (hStocked : p.Stocked) : p.FollowsLifecycle := by
  induction hStocked with
  | empty => exact ⟨⟨[], rfl⟩, .empty, .empty⟩
  | addRunningCluster _ name workers ih =>
    exact ih.apply (.addRunningCluster name workers) fun _ h => nomatch h
  | putCluster _ record hFresh hKnown ih =>
    refine ih.apply (.putCluster record) ?_
    rintro _ ⟨⟩
    exact ⟨hKnown, hFresh.2⟩

/-- A cluster that has ended, or has been removed, is not there in another state later. -/
theorem FollowsLifecycle.ended (hFollows : p.FollowsLifecycle) {history : List Event}
    (hOrdinary : p.Ordinary history) {state : ClusterState} (hEnded : state.isTerminal = true)
    (hNotAhead : ¬p.IsAhead id)
    (hState : p.clusterState? id = some state ∨ p.clusterState? id = none) :
    (p.after history).clusterState? id = some state ∨
      (p.after history).clusterState? id = none := by
  induction history generalizing p with
  | nil => exact hState
  | cons e history ih =>
    refine ih (hFollows.apply e hOrdinary.1.noPut) hOrdinary.2
      (fun hAhead => hNotAhead (hAhead.of_le (lastNumber_le_apply e))) ?_
    rcases hState with hState | hGone
    · have hStep := hFollows.stateStep hOrdinary.1 id
      rw [hState] at hStep
      generalize (e.apply p).clusterState? id = after at hStep ⊢
      cases hStep with
      | same => exact .inl rfl
      | change _ hMay =>
        rw [ClusterState.mayBecome_of_terminal hEnded] at hMay
        cases hMay
      | removed => exact .inr rfl
    · -- It is gone, and no ordinary event gives its identifier again.
      refine .inr (Option.map_eq_none_iff.2 ?_)
      have hStep := p.clusterStep_apply e id
      rw [Option.map_eq_none_iff.1 hGone] at hStep
      refine hStep.absent hNotAhead ?_
      rintro record rfl
      exact hOrdinary.1

/-- On a platform to which clusters have been added, each ordinary event leaves the state of every
cluster, or changes it along the table of the lifecycle, or adds a pending cluster, or removes one
for good.  A cluster that has ended stays in its state until it is removed, and does not come
back. -/
theorem states_follow_lifecycle (hStocked : p.Stocked) {history : List Event}
    (hOrdinary : p.Ordinary history) :
    (∀ first e later, history = first ++ e :: later → ∀ id,
        StateStep id e ((p.after first).clusterState? id)
          ((p.after (first ++ [e])).clusterState? id)) ∧
      ∀ first later, history = first ++ later → ∀ id state,
        (p.after first).clusterState? id = some state → state.isTerminal = true →
          (p.after history).clusterState? id = some state ∨
            (p.after history).clusterState? id = none := by
  have hStart := hStocked.followsLifecycle
  constructor
  · rintro first e later rfl id
    obtain ⟨hFirst, hEvent, -⟩ := ordinary_append.1 hOrdinary
    rw [after_append]
    exact (hStart.after hFirst).stateStep hEvent id
  · rintro first later rfl id state hState hEnded
    obtain ⟨hFirst, hLater⟩ := ordinary_append.1 hOrdinary
    have hThen := hStart.after hFirst
    obtain ⟨entry, hGet, -⟩ := Option.map_eq_some_iff.1 hState
    rw [after_append]
    exact hThen.ended hLater hEnded (hThen.unclaimed hGet) (.inl hState)

/-! ### A cluster that is terminated while it is resized -/

/-- The identifier of the first cluster that the platform names. -/
def firstCluster : ClusterId := ({} : Platform).nextClusterId

/-- A cluster that was restarted when it was put in place. -/
def spareCluster : ClusterRecord :=
  { ClusterRecord.new ⟨"spare", by decide⟩ with state := .restarting }

/-- A platform with a running cluster and one that restarts. -/
def twoClusters : Platform :=
  (({} : Platform).addRunningCluster "etl" 2).2.putCluster spareCluster

/-- The running cluster is resized and terminated twice, and the other one fails. -/
def untimelyEnd : List Event :=
  [.call (.clusters (.resize ⟨firstCluster, some 5, none⟩)),
    .call (.clusters (.terminate firstCluster)), .call (.clusters (.terminate firstCluster)),
    .failCluster spareCluster.clusterId, .settleCluster firstCluster,
    .call (.clusters (.restart firstCluster))]

theorem stocked_twoClusters : twoClusters.Stocked := by
  refine .putCluster (.addRunningCluster .empty "etl" 2) spareCluster ⟨rfl, ?_⟩ (by decide)
  rintro ⟨n, -, hText⟩
  have hHead := congrArg (fun text => text.toList.head?) hText
  simp [spareCluster, ClusterRecord.new, clusterIdStart] at hHead

theorem states_follow_lifecycle_untimelyEnd :
    (twoClusters.Stocked ∧ twoClusters.Ordinary untimelyEnd) ∧
      StateStep firstCluster (.call (.clusters (.terminate firstCluster))) (some .resizing)
        (some .terminating) ∧
      ((twoClusters.after untimelyEnd).clusterState? firstCluster = some .terminated ∨
        (twoClusters.after untimelyEnd).clusterState? firstCluster = none) := by
  have hOrdinary : twoClusters.Ordinary untimelyEnd := by
    refine ⟨trivial, trivial, trivial, ?_, trivial, trivial, trivial⟩
    rintro state ⟨⟩
    rfl
  have hFollows := states_follow_lifecycle stocked_twoClusters hOrdinary
  refine ⟨⟨stocked_twoClusters, hOrdinary⟩, ?_, ?_⟩
  · exact hFollows.1 (untimelyEnd.take 1) _ (untimelyEnd.drop 2) rfl firstCluster
  · exact hFollows.2 (untimelyEnd.take 5) (untimelyEnd.drop 5) rfl firstCluster _ rfl rfl

end Platform

end SparkFleet
