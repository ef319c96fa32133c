import SparkFleet.Proofs.Cluster.StateChange

/-!
# Calls on different clusters

A call on a cluster looks at the entry of that cluster and at its libraries, its `Cell`, and changes
nothing else: `perform_local` says that it does to a platform what it does to one that has this cell
and nothing more.

The main statement is `separate_calls_commute`: two calls on different clusters may be made in
either order.  Each is answered in the same way, and they leave the same platform.
-/

namespace SparkFleet

/-- The cluster that a call is on. -/
def Call.cluster? : Call → Option ClusterId
  | .clusters (.get id) | .clusters (.restart id) | .clusters (.terminate id)
  | .clusters (.permanentDelete id) => some id
  | .clusters (.resize r) => some r.clusterId
  | .libraries (.install id _) | .libraries (.uninstall id _) | .libraries (.clusterStatus id) =>
    some id
  | _ => none

namespace Platform

/-! ### What is known of one cluster -/

/-- What is known of one cluster. -/
structure Cell where
  cluster : Option ClusterEntry
  libraries : Option (List LibraryProgress)

/-- What the platform knows of a cluster. -/
def cell (p : Platform) (id : ClusterId) : Cell := ⟨p.clusters.get? id, p.libraries.get? id⟩

/-- The platform that knows this of a cluster. -/
def withCell (p : Platform) (id : ClusterId) (x : Cell) : Platform :=
  { p with
    clusters := p.clusters.assign id x.cluster
    libraries := p.libraries.assign id x.libraries }

variable {p q : Platform} {id other : ClusterId}

theorem cell_withCell (p : Platform) (id other : ClusterId) (x : Cell) :
    (p.withCell id x).cell other = if other = id then x else p.cell other := by
  simp only [cell, withCell, SortedMap.get?_assign]
  split <;> rfl

@[simp] theorem withCell_cell (p : Platform) (id : ClusterId) : p.withCell id (p.cell id) = p := by
  simp only [withCell, cell, SortedMap.assign_get?]

theorem withCell_comm (hNe : id ≠ other) (p : Platform) (x y : Cell) :
    (p.withCell id x).withCell other y = (p.withCell other y).withCell id x := by
  simp only [withCell, SortedMap.assign_comm hNe]

/-- It does not matter which of two calls is counted first. -/
theorem count_comm (p : Platform) (first second : String) :
    (p.count first).count second = (p.count second).count first := by
  by_cases hSame : first = second
  · rw [hSame]
  · -- Each endpoint has a count of its own, which the other call leaves as it is.
    have hSecond : (p.count first).callCount second = p.callCount second := by
      simp [callCount, count, Ne.symm hSame]
    have hFirst : (p.count second).callCount first = p.callCount first := by
      simp [callCount, count, hSame]
    have hCalls : ((p.count first).count second).calls = ((p.count second).count first).calls := by
      change ((p.calls.insert first _).insert second ((p.count first).callCount second + 1)) =
        ((p.calls.insert second _).insert first ((p.count second).callCount first + 1))
      rw [hSecond, hFirst]
      exact SortedMap.assign_comm hSame p.calls (some _) (some _)
    exact congrArg (fun calls => ({ p with calls := calls } : Platform)) hCalls

/-! ### Changes of one cell -/

/-- A platform that knows of one cluster what this one does, and nothing else. -/
def only (p : Platform) (id : ClusterId) : Platform :=
  ({ settleReads := p.settleReads } : Platform).withCell id (p.cell id)

@[simp] theorem cell_only (p : Platform) (id : ClusterId) : (p.only id).cell id = p.cell id := by
  rw [only, cell_withCell, if_pos rfl]

/-- What is done is done to one cell, and depends on nothing but that cell. -/
def LocalTo (id : ClusterId) (change : Platform → Platform) : Prop :=
  ∀ p, change p = p.withCell id ((change (p.only id)).cell id)

theorem LocalTo.of_eq {change : Platform → Platform} (onCell : Nat → Cell → Cell)
    (hChange : ∀ p, change p = p.withCell id (onCell p.settleReads (p.cell id))) :
    LocalTo id change := by
  -- A change that is a function of the cell does the same on the platform with this cell alone.
  intro p
  rw [hChange, hChange (p.only id), cell_withCell, if_pos rfl, cell_only]
  rfl

theorem setCluster_eq (p : Platform) (id : ClusterId) (entry : ClusterEntry) :
    p.setCluster id entry = p.withCell id { p.cell id with cluster := some entry } := by
  simp only [withCell, cell, SortedMap.assign_get?]
  rfl

theorem localTo_setCluster (entry : ClusterEntry) : LocalTo id (·.setCluster id entry) :=
  .of_eq (fun _ x => { x with cluster := some entry }) fun p => p.setCluster_eq id entry

theorem localTo_begin (record : ClusterRecord) (state target : ClusterState) :
    LocalTo id (·.begin id record state target) :=
  .of_eq (fun reads x =>
    { x with cluster := some ⟨{ record with state := state }, some ⟨target, reads⟩⟩ })
    fun p => p.setCluster_eq id _

theorem localTo_erase : LocalTo id fun p => { p with clusters := p.clusters.erase id } := by
  refine .of_eq (fun _ x => { x with cluster := none }) fun p => ?_
  simp only [withCell, cell, SortedMap.assign_get?]
  rfl

/-- The libraries of a cluster are changed, in a way that depends on what is known of it. -/
theorem localTo_libraries
    {change : Platform → SortedMap ClusterId (List LibraryProgress)}
    (onCell : Nat → Cell → Option (List LibraryProgress))
    (hChange : ∀ p, change p = p.libraries.assign id (onCell p.settleReads (p.cell id))) :
    LocalTo id fun p => { p with libraries := change p } := by
  refine .of_eq (fun reads x => { x with libraries := onCell reads x }) fun p => ?_
  simp only [withCell, cell, SortedMap.assign_get?, hChange]

/-- Libraries that are marked for removal go where the cluster comes up. -/
theorem localTo_finish (entry : ClusterEntry) (target : ClusterState) :
    LocalTo id (·.finish id entry target) := by
  let kept (x : Cell) : Option (List LibraryProgress) :=
    if target = .running then
      x.libraries.map (·.filter fun l => l.entry.status ≠ .uninstallOnRestart)
    else x.libraries
  refine .of_eq (fun _ x => ⟨some ⟨entry.record.inState target, none⟩, kept x⟩) fun p => ?_
  unfold finish
  split
  · next hUp =>
    simp only [kept, if_pos hUp, dropRemoved, SortedMap.modify_eq_assign]
    rfl
  · next hOther =>
    simp only [kept, if_neg hOther, setCluster_eq]

theorem localTo_observe (entry : ClusterEntry) : LocalTo id (·.observeCluster id entry) := by
  obtain ⟨record, change⟩ := entry
  match change with
  | none => exact .of_eq (fun _ x => x) fun p => (p.withCell_cell id).symm
  | some ⟨target, 0⟩ => exact localTo_finish _ target
  | some ⟨target, reads + 1⟩ => exact localTo_setCluster _

/-! ### What a call does to its cluster -/

theorem findCluster_congr (hCell : p.cell id = q.cell id) :
    p.findCluster id = q.findCluster id := by
  have hGet : p.clusters.get? id = q.clusters.get? id := congrArg Cell.cluster hCell
  rw [findCluster, findCluster, hGet]

/-- A local change that is answered leaves the same cell on both platforms. -/
theorem LocalTo.answered {α : Type} {change : Platform → Platform} (hLocal : LocalTo id change)
    (p : Platform) (a : α) :
    (.ok (a, change p) : Except ApiError (α × Platform)) =
      Except.map (fun r => (r.1, p.withCell id (r.2.cell id))) (.ok (a, change (p.only id))) :=
  congrArg (fun q => Except.ok (a, q)) (hLocal p)

/-- A call on a cluster that is not there fails for this reason. -/
theorem perform_of_missing {c : Call} (hOn : c.cluster? = some id) {e : ApiError}
    (hFind : p.findCluster id = .error e) : p.perform c = .error e := by
  -- Every call on a cluster looks for it first, so all of them fail here in one way.
  cases c with
  | clusters call =>
    cases call with
    | get other =>
      cases hOn
      simp only [perform, performClusters, readCluster, hFind]
      rfl
    | resize r =>
      cases hOn
      simp only [perform, performClusters, resizeCluster, hFind]
      rfl
    | restart other | terminate other =>
      cases hOn
      simp only [perform, performClusters, changeCluster, hFind]
      rfl
    | permanentDelete other =>
      cases hOn
      simp only [perform, performClusters, removeCluster, hFind]
      rfl
    | _ => cases hOn
  | libraries call =>
    cases call with
    | install other libraries =>
      cases hOn
      simp only [perform, performLibraries, installLibraries, hFind]
      rfl
    | uninstall other libraries =>
      cases hOn
      simp only [perform, performLibraries, uninstallLibraries, hFind]
      rfl
    | clusterStatus other =>
      cases hOn
      simp only [perform, performLibraries, readLibraries, hFind]
      rfl
  | _ => cases hOn

/-- A call on a cluster does what it does to a platform that knows of this cluster alone. -/
theorem perform_local {c : Call} (hOn : c.cluster? = some id) (p : Platform) :
    p.perform c = ((p.only id).perform c).map fun r => (r.1, p.withCell id (r.2.cell id)) := by
  have hFind := findCluster_congr (cell_only p id)
  have hLibraries : (p.only id).librariesOf id = p.librariesOf id :=
    congrArg (fun x => x.libraries.getD []) (cell_only p id)
  -- The cluster is found on both platforms or on neither, because only its cell is looked at.
  cases hEntry : p.findCluster id with
  | error e =>
    rw [perform_of_missing hOn hEntry, perform_of_missing hOn (hFind.trans hEntry)]
    rfl
  | ok entry =>
    rw [hEntry] at hFind
    cases c with
    | clusters call =>
      cases call with
      | get other =>
        cases hOn
        simp only [perform, performClusters, readCluster, hFind, hEntry, ok_bind]
        -- The record is looked for again after the read, in the cell that the read leaves.
        have hRead : p.observeCluster id entry =
            p.withCell id (((p.only id).observeCluster id entry).cell id) := localTo_observe entry p
        have hAgain : ((p.only id).observeCluster id entry).findCluster id =
            (p.observeCluster id entry).findCluster id :=
          findCluster_congr (by rw [hRead, cell_withCell, if_pos rfl])
        rw [hAgain]
        cases (p.observeCluster id entry).findCluster id with
        | error e => rfl
        | ok now => exact (localTo_observe entry).answered p now.record
      | resize r =>
        cases hOn
        simp only [perform, performClusters, resizeCluster, hFind, hEntry, ok_bind]
        split
        · rfl
        · exact (localTo_begin _ _ _).answered p ()
      | restart other | terminate other =>
        cases hOn
        simp only [perform, performClusters, changeCluster, hFind, hEntry, ok_bind]
        split
        · exact (localTo_begin _ _ _).answered p ()
        · rfl
      | permanentDelete other =>
        cases hOn
        simp only [perform, performClusters, removeCluster, hFind, hEntry, ok_bind]
        exact localTo_erase.answered p ()
      | _ => cases hOn
    | libraries call =>
      cases call with
      | install other libraries =>
        cases hOn
        simp only [perform, performLibraries, installLibraries, hFind, hEntry, ok_bind]
        exact (localTo_libraries (fun reads x => some (libraries.foldl (fun entries library =>
          LibraryProgress.installed reads library entries) (x.libraries.getD []))) fun _ => rfl
          ).answered p ()
      | uninstall other libraries =>
        cases hOn
        simp only [perform, performLibraries, uninstallLibraries, hFind, hEntry, ok_bind]
        exact (localTo_libraries (fun _ x => x.libraries.map _) fun p =>
          p.libraries.modify_eq_assign id _).answered p ()
      | clusterStatus other =>
        cases hOn
        simp only [perform, performLibraries, readLibraries, hFind, hEntry, ok_bind, hLibraries]
        exact (localTo_libraries (fun _ _ => some _) fun _ => rfl).answered p _
    | _ => cases hOn

/-- A call on a cluster is answered in the same way by every platform that knows the same of this
cluster, and changes the same cell in the same way. -/
theorem serve_of_same {c : Call} (hOn : c.cluster? = some id) (hCell : q.cell id = p.cell id)
    (hReads : q.settleReads = p.settleReads) (hFailures : q.failures = p.failures) :
    q.serve c = ((p.serve c).1, (q.count c.endpoint).withCell id ((p.serve c).2.cell id)) := by
  have hUnchanged : (q.count c.endpoint).withCell id ((p.count c.endpoint).cell id) =
      q.count c.endpoint := (congrArg _ hCell.symm).trans ((q.count c.endpoint).withCell_cell id)
  have hFailure : q.failure? c.endpoint = p.failure? c.endpoint := by
    rw [failure?, failure?, hFailures]
  cases hInjected : p.failure? c.endpoint with
  | some e =>
    rw [serve_of_injected hInjected, serve_of_injected (hFailure.trans hInjected), hUnchanged]
  | none =>
    -- Both platforms shrink to the same one, on which the call is performed in either case.
    have hOnly : (q.count c.endpoint).only id = (p.count c.endpoint).only id := by
      simp only [only, show (q.count c.endpoint).settleReads = (p.count c.endpoint).settleReads
        from hReads, show (q.count c.endpoint).cell id = (p.count c.endpoint).cell id from hCell]
    have hServed := hFailure.trans hInjected
    have hHere := perform_local hOn (p.count c.endpoint)
    have hThere := perform_local hOn (q.count c.endpoint)
    rw [hOnly] at hThere
    cases hPerform : ((p.count c.endpoint).only id).perform c with
    | error e =>
      rw [hPerform] at hHere hThere
      rw [serve_of_error hInjected hHere, serve_of_error hServed hThere, hUnchanged]
    | ok r =>
      rw [hPerform] at hHere hThere
      rw [serve_of_ok hInjected hHere, serve_of_ok hServed hThere, cell_withCell, if_pos rfl]

/-- A call on a cluster changes what is known of this cluster and what is counted. -/
theorem serve_local {c : Call} (hOn : c.cluster? = some id) (p : Platform) :
    (p.serve c).2 = (p.count c.endpoint).withCell id ((p.serve c).2.cell id) :=
  congrArg Prod.snd (serve_of_same hOn rfl rfl rfl)

theorem count_serve {c : Call} (hOn : c.cluster? = some id) (p : Platform) (endpoint : String) :
    (p.serve c).2.count endpoint =
      ((p.count c.endpoint).count endpoint).withCell id ((p.serve c).2.cell id) :=
  congrArg (·.count endpoint) (serve_local hOn p)

/-- After a call on another cluster, a call is answered as it would have been before. -/
theorem serve_serve {c d : Call} (hNe : id ≠ other) (hOn : c.cluster? = some id)
    (hOther : d.cluster? = some other) (p : Platform) :
    (p.serve d).2.serve c =
      ((p.serve c).1, ((p.serve d).2.count c.endpoint).withCell id ((p.serve c).2.cell id)) := by
  refine serve_of_same hOn ?_ ?_ (failures_serve p d)
  · rw [serve_local hOther, cell_withCell, if_neg hNe]
    rfl
  · rw [serve_local hOther]
    rfl

/-- Two calls on different clusters may be made in either order: each is answered in the same way,
and they leave the same platform, whatever happens to the clusters and whether the calls are
refused or not. -/
theorem separate_calls_commute {a b : ClusterId} (hNe : a ≠ b) {c d : Call}
    (hOn : c.cluster? = some a) (hOther : d.cluster? = some b) (p : Platform) :
    ((p.serve d).2.serve c).1 = (p.serve c).1 ∧ ((p.serve c).2.serve d).1 = (p.serve d).1 ∧
      ((p.serve d).2.serve c).2 = ((p.serve c).2.serve d).2 := by
  rw [serve_serve hNe hOn hOther, serve_serve hNe.symm hOther hOn]
  refine ⟨rfl, rfl, ?_⟩
  -- Both orders come to the same two cells, written to the same counts.
  rw [count_serve hOther, count_serve hOn, p.count_comm, withCell_comm hNe.symm]

/-- The library that is marked for removal below. -/
def sparklyr : LibrarySpec := { cran := some ⟨"sparklyr", none⟩ }

/-- A cluster that comes up at the next read, and then loses a library, beside one that runs. -/
def oneComingUp : Platform := ({} : Platform).after [
  .settleReads 0,
  .addRunningCluster "main" 2,
  .addRunningCluster "spare" 1,
  .call (.libraries (.install firstCluster [sparklyr])),
  .call (.libraries (.uninstall firstCluster [sparklyr])),
  .call (.clusters (.restart firstCluster))]

/-- The identifier of the cluster that runs. -/
def runningCluster : ClusterId := ({} : Platform).withNextNumber.nextClusterId

/-- Reading the first cluster brings it up and removes the library, and terminating the second has
nothing to do with it. -/
theorem separate_calls_commute_oneComingUp :
    firstCluster ≠ runningCluster ∧
      oneComingUp.librariesOf firstCluster = [⟨⟨sparklyr, .uninstallOnRestart, [], false⟩, 0⟩] ∧
      (oneComingUp.serve (.clusters (.get firstCluster))).2.librariesOf firstCluster = [] ∧
      ((oneComingUp.serve (.clusters (.terminate runningCluster))).2.serve
          (.clusters (.get firstCluster))).2 =
        ((oneComingUp.serve (.clusters (.get firstCluster))).2.serve
          (.clusters (.terminate runningCluster))).2 := by
  have hNe : firstCluster ≠ runningCluster := by decide
  have hCommute := separate_calls_commute hNe (c := .clusters (.get firstCluster))
    (d := .clusters (.terminate runningCluster)) rfl rfl oneComingUp
  exact ⟨hNe, by decide, by decide, hCommute.2.2⟩

end Platform

end SparkFleet
