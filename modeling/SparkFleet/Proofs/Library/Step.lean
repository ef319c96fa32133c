import SparkFleet.Proofs.Platform.Frame

/-!
# What one event does to the libraries of a cluster

The libraries of a cluster change where they are installed, marked for removal or read, where the
status of one is forced, and where the cluster comes up: it then drops those that are marked.
`Event.onLibraries` says what each event makes of the list, and the main statement
`librariesOf_apply` that it does just that.  What holds of the libraries in every state is derived
from this equation, without looking at the calls again.
-/

namespace SparkFleet

namespace LibraryProgress

/-! ### One library -/

/-- Giving a status to libraries leaves their wire forms. -/
theorem library_marked (specs : List LibrarySpec) (status : InstallStatus) (l : LibraryProgress) :
    (marked specs status l).entry.library = l.entry.library := by
  unfold marked
  split <;> rfl

/-- A read of the statuses leaves the wire forms. -/
theorem library_observed (l : LibraryProgress) : l.observed.entry.library = l.entry.library := by
  unfold observed
  split
  · rfl
  · split <;> rfl

/-- Installing a library anew leaves its wire form. -/
theorem library_renewed (l : LibraryProgress) : l.renewed.entry.library = l.entry.library := by
  unfold renewed
  split <;> rfl

/-- A read of the statuses leaves a library that is marked for removal as it is. -/
theorem observed_of_marked {l : LibraryProgress} (hMarked : l.entry.status = .uninstallOnRestart) :
    l.observed = l := by
  unfold observed
  rw [hMarked]
  rfl

end LibraryProgress

namespace Platform

variable {p q : Platform} {id other : ClusterId}

/-- The change of a cluster that is under way. -/
def changeOf (p : Platform) (id : ClusterId) : Option Transition :=
  (p.clusters.get? id).bind (·.transition)

/-- Whether the event brings the cluster up: a change that makes it run comes to its end. -/
def Event.bringsUp (id : ClusterId) (p : Platform) : Event → Bool
  | .settleCluster other => other = id ∧ (p.changeOf id).any fun change => change.target = .running
  | .call (.clusters (.get other)) =>
    other = id ∧ (p.serve (.clusters (.get other))).1.isOk ∧ p.changeOf id = some ⟨.running, 0⟩
  | _ => false

/-- Whether a cluster is running. -/
def isRunning (p : Platform) (id : ClusterId) : Bool :=
  (p.clusters.get? id).any fun entry => entry.record.state = .running

/-- What an event makes of the libraries of a cluster.  Calls count only if they are accepted. -/
def Event.onLibraries (id : ClusterId) (p : Platform) :
    Event → List LibraryProgress → List LibraryProgress
  | .call (.libraries (.install other specs)), libraries =>
    if other = id ∧ (p.serve (.libraries (.install other specs))).1.isOk then
      specs.foldl (fun libraries spec => LibraryProgress.installed p.settleReads spec libraries)
        libraries
    else
      libraries
  | .call (.libraries (.uninstall other specs)), libraries =>
    if other = id ∧ (p.serve (.libraries (.uninstall other specs))).1.isOk then
      libraries.map (LibraryProgress.marked specs .uninstallOnRestart)
    else
      libraries
  | .call (.libraries (.clusterStatus other)), libraries =>
    if other = id ∧ (p.serve (.libraries (.clusterStatus other))).1.isOk ∧ p.isRunning id then
      libraries.map LibraryProgress.observed
    else
      libraries
  | .setLibraryStatus other spec status, libraries =>
    if other = id then libraries.map (LibraryProgress.marked [spec] status) else libraries
  | e, libraries =>
    if e.bringsUp id p then
      libraries.filter fun l => l.entry.status ≠ .uninstallOnRestart
    else
      libraries

/-! ### Writing the libraries of one cluster -/

theorem librariesOf_of_eq (hLibraries : q.libraries = p.libraries) :
    q.librariesOf id = p.librariesOf id := by
  rw [librariesOf, librariesOf, hLibraries]

/-- The libraries of a cluster after those of one have been replaced. -/
theorem librariesOf_insert_libraries (p : Platform) (id other : ClusterId)
    (libraries : List LibraryProgress) :
    ({ p with libraries := p.libraries.insert other libraries } : Platform).librariesOf id =
      if id = other then libraries else p.librariesOf id := by
  rw [librariesOf, librariesOf, SortedMap.get?_insert]
  split <;> rfl

/-- The libraries of a cluster after those of one have been changed; where there are none, the
change does nothing. -/
theorem librariesOf_modify_libraries (p : Platform) (id other : ClusterId)
    {change : List LibraryProgress → List LibraryProgress} (hNil : change [] = []) :
    ({ p with libraries := p.libraries.modify other change } : Platform).librariesOf id =
      if id = other then change (p.librariesOf id) else p.librariesOf id := by
  rw [librariesOf, librariesOf, SortedMap.get?_modify]
  split
  · cases p.libraries.get? id with
    | none => exact hNil.symm
    | some libraries => rfl
  · rfl

/-! ### Clusters that come up -/

/-- A change of a cluster comes to its end: if the cluster then runs, libraries are dropped. -/
theorem librariesOf_finish (entry : ClusterEntry) (target : ClusterState) :
    (p.finish other entry target).librariesOf id =
      if other = id ∧ target = .running then
        (p.librariesOf id).filter fun l => l.entry.status ≠ .uninstallOnRestart
      else
        p.librariesOf id := by
  unfold finish
  split
  · next hRunning =>
    refine (librariesOf_modify_libraries (p.setCluster _ _) id other rfl).trans ?_
    simp only [hRunning, and_true, eq_comm (a := id)]
    rfl
  · next hNot =>
    rw [if_neg fun h => hNot h.2]
    rfl

/-- A change that is brought to its end from outside. -/
theorem librariesOf_settle (p : Platform) (id other : ClusterId) :
    (p.settleCluster other).librariesOf id =
      (Event.settleCluster other).onLibraries id p (p.librariesOf id) := by
  -- Said of any list, so that the two sides are compared before it is known what is on the cluster.
  have hMakes (libraries : List LibraryProgress) :
      (Event.settleCluster other).onLibraries id p libraries =
        if other = id ∧ (p.changeOf other).any (fun change => change.target = .running) then
          libraries.filter fun l => l.entry.status ≠ .uninstallOnRestart
        else
          libraries := by
    by_cases hOther : other = id
    · subst hOther
      simp [Event.onLibraries, Event.bringsUp]
    · simp [Event.onLibraries, Event.bringsUp, hOther]
  rw [hMakes, settleCluster, changeOf]
  cases hEntry : p.clusters.get? other with
  | none => simp
  | some entry =>
    cases hChange : entry.transition with
    | none => simp [hChange]
    | some change =>
      simp only [hChange, Option.bind_some, Option.any_some, decide_eq_true_eq]
      exact librariesOf_finish entry change.target

/-- A read of a cluster that is answered: a change may come to its end. -/
theorem librariesOf_get {record : ClusterRecord}
    (hServe : p.serve (.clusters (.get other)) = (.ok record, q)) :
    q.librariesOf id =
      (Event.call (.clusters (.get other))).onLibraries id p (p.librariesOf id) := by
  have hMakes (libraries : List LibraryProgress) :
      (Event.call (.clusters (.get other))).onLibraries id p libraries =
        if other = id ∧ p.changeOf other = some ⟨.running, 0⟩ then
          libraries.filter fun l => l.entry.status ≠ .uninstallOnRestart
        else
          libraries := by
    have hAnswered : (p.serve (.clusters (.get other))).1.isOk = true := by
      rw [hServe]
      rfl
    by_cases hOther : other = id
    · subst hOther
      simp [Event.onLibraries, Event.bringsUp, hAnswered]
    · simp [Event.onLibraries, Event.bringsUp, hOther]
  obtain ⟨entry, hFind, h⟩ := bind_eq_ok (serve_eq_ok hServe)
  obtain ⟨entry', -, h⟩ := bind_eq_ok h
  cases h
  have hEntry : p.clusters.get? other = some entry := findCluster_eq_ok_iff.1 hFind
  rw [hMakes, observeCluster, changeOf, hEntry, Option.bind_some]
  split
  · next hNone =>
    rw [hNone, if_neg fun h => nomatch h.2]
    rfl
  · -- The last read that was waited for ends the change, and only running drops libraries.
    next target hEnd =>
    refine (librariesOf_finish entry target).trans ?_
    simp only [hEnd, Option.some.injEq, Transition.mk.injEq, and_true]
    rfl
  · next target reads hWaits =>
    rw [hWaits, if_neg fun h => nomatch h.2]
    rfl

/-- Apart from reads, calls about clusters leave libraries as they are. -/
theorem libraries_performClusters {c : ClusterCall} {a : c.Answer}
    (hOther : ∀ other, c ≠ .get other) (h : p.performClusters c = .ok (a, q)) :
    q.libraries = p.libraries := by
  cases c with
  | create spec =>
    obtain ⟨-, rfl⟩ := createCluster_eq_ok h
    rfl
  | get other => exact absurd rfl (hOther other)
  | resize r =>
    obtain ⟨entry, -, h⟩ := bind_eq_ok h
    split at h
    · cases h
    · cases h
      rfl
  | restart other =>
    have hChange : p.changeCluster other (· == .running) .restarting .running = .ok (a, q) := h
    rw [changeCluster_frame hChange]
  | terminate other =>
    have hChange : p.changeCluster other (!·.isTerminal) .terminating .terminated = .ok (a, q) := h
    rw [changeCluster_frame hChange]
  | permanentDelete other =>
    obtain ⟨entry, -, h⟩ := bind_eq_ok h
    cases h
    rfl
  | list | sparkVersions | nodeTypes | zones =>
    cases h
    rfl

/-! ### Calls about libraries -/

theorem librariesOf_performLibraries {c : LibraryCall} {a : c.Answer}
    (hServe : p.serve (.libraries c) = (.ok a, q)) :
    q.librariesOf id = (Event.call (.libraries c)).onLibraries id p (p.librariesOf id) := by
  have hPerform := serve_eq_ok hServe
  have hAccepted : (p.serve (.libraries c)).1.isOk = true := by
    rw [hServe]
    rfl
  cases c with
  | install other specs =>
    obtain ⟨entry, -, h⟩ := bind_eq_ok hPerform
    cases h
    rw [librariesOf_insert_libraries]
    by_cases hOther : other = id
    · subst hOther
      simp only [Event.onLibraries, hAccepted, and_self, if_true]
      rfl
    · simp only [Event.onLibraries, hOther, Ne.symm hOther, false_and, if_false]
      rfl
  | uninstall other specs =>
    obtain ⟨entry, -, h⟩ := bind_eq_ok hPerform
    cases h
    refine (librariesOf_modify_libraries (p.count _) id other rfl).trans ?_
    simp only [Event.onLibraries, hAccepted, and_true, eq_comm (a := id)]
    rfl
  | clusterStatus other =>
    -- The read writes the list it shows, moved on where the cluster runs and as it was otherwise.
    obtain ⟨entry, hFind, h⟩ := bind_eq_ok hPerform
    have hEntry : p.clusters.get? other = some entry := findCluster_eq_ok_iff.1 hFind
    cases h
    rw [librariesOf_insert_libraries]
    by_cases hOther : other = id
    · subst hOther
      simp only [Event.onLibraries, hAccepted, true_and, if_true, isRunning, hEntry,
        Option.any_some, decide_eq_true_eq]
      rfl
    · simp only [Event.onLibraries, hOther, Ne.symm hOther, false_and, if_false]
      rfl

/-! ### Every event -/

/-- A call that is refused leaves libraries as they are. -/
theorem onLibraries_refused {c : Call} (hRefused : (p.serve c).1.isOk = false)
    (libraries : List LibraryProgress) : (Event.call c).onLibraries id p libraries = libraries := by
  cases c with
  | libraries call => cases call <;> simp [Event.onLibraries, hRefused]
  | clusters call => cases call <;> simp [Event.onLibraries, Event.bringsUp, hRefused]
  | jobs | workspace | files => rfl

theorem librariesOf_call (c : Call) (id : ClusterId) :
    (p.serve c).2.librariesOf id = (Event.call c).onLibraries id p (p.librariesOf id) := by
  obtain ⟨a, q, hServe, hPerform⟩ | ⟨cause, hServe, -⟩ := p.serve_cases c
  · rw [hServe]
    cases c with
    | libraries call => exact librariesOf_performLibraries hServe
    | clusters call =>
      by_cases hRead : ∃ other, call = .get other
      · -- Of the calls about clusters only a read can bring one up.
        obtain ⟨other, rfl⟩ := hRead
        exact librariesOf_get hServe
      · have hOther : ∀ other, call ≠ .get other := fun other hGet => hRead ⟨other, hGet⟩
        have hSame : q.librariesOf id = p.librariesOf id :=
          librariesOf_of_eq (libraries_performClusters (p := p.count _) hOther hPerform)
        rw [hSame]
        cases call with
        | get other => exact absurd rfl (hOther other)
        | _ => rfl
    | jobs call =>
      rw [(performJobs_frame (p := p.count _) hPerform).1]
      rfl
    | workspace call =>
      rw [(performWorkspace_frame (p := p.count _) hPerform).1]
      rfl
    | files call =>
      rw [(performFiles_frame (p := p.count _) hPerform).1]
      rfl
  · have hRefused : (p.serve c).1.isOk = false := by
      rw [hServe]
      rfl
    rw [onLibraries_refused hRefused, hServe]
    rfl

/-- Each event makes of the libraries of a cluster what is said of it. -/
theorem librariesOf_apply (e : Event) (id : ClusterId) :
    (e.apply p).librariesOf id = e.onLibraries id p (p.librariesOf id) := by
  cases e with
  | call c => exact librariesOf_call c id
  | settleCluster other => exact librariesOf_settle p id other
  | failCluster other =>
    simp only [Event.apply]
    rw [failCluster_frame]
    rfl
  | addFile path content =>
    simp only [Event.apply, addFile]
    rw [writeFile_frame]
    rfl
  | setLibraryStatus other spec status =>
    refine (librariesOf_modify_libraries p id other rfl).trans ?_
    simp only [Event.onLibraries, eq_comm (a := id)]
  | settleReads | injectFailure | clearFailure | offerVersions | offerNodeTypes | offerZones
  | putCluster | addRunningCluster | putJob | putRun | setRunOutput | finishRun | addNotebook =>
    rfl

end Platform

end SparkFleet
