import SparkFleet.Proofs.Cluster.GuardAgrees
import SparkFleet.Proofs.Cluster.StateChange
import SparkFleet.Proofs.Library.Lookup

/-!
# When libraries are removed

A library that is removed is only marked, and goes when its cluster comes up: when it has been
pending, restarting or resizing and then runs (`bringsUp_iff`).  The main statement
`removed_when_up` says that until then nothing takes the entry away or changes it, apart from
installing the library again and forcing its status, and that all marked entries go, and no others,
when the cluster comes up.
-/

namespace SparkFleet

namespace Platform

variable {p : Platform} {id : ClusterId} {e : Event}

/-! ### Clusters that come up -/

/-- Whether the event puts a cluster in place. -/
def Event.puts : Event → Bool
  | .putCluster _ | .addRunningCluster _ _ => true
  | _ => false

/-- The cluster comes up at the event: it has been pending, restarting or resizing and then runs,
without having been put in place. -/
def Event.ComesUp (id : ClusterId) (p : Platform) (e : Event) : Prop :=
  e.puts = false ∧
    p.clusterState? id ∈ [some .pending, some .restarting, some .resizing] ∧
    (e.apply p).clusterState? id = some .running

instance (id : ClusterId) (p : Platform) (e : Event) : Decidable (e.ComesUp id p) :=
  inferInstanceAs (Decidable (_ ∧ _ ∧ _))

/-- A state that running follows is one from which a cluster comes up. -/
theorem mem_of_mayBecome_running {state : ClusterState} (hMay : state.mayBecome .running = true) :
    some state ∈ [some ClusterState.pending, some .restarting, some .resizing] := by
  cases state <;> simp_all [ClusterState.mayBecome]

/-- The event that ends a change to running brings the cluster up. -/
theorem comesUp_of_bringsUp (hReach : p.Reachable) (hUp : e.bringsUp id p = true) :
    e.ComesUp id p := by
  unfold Event.bringsUp at hUp
  split at hUp
  · next other =>
    obtain ⟨rfl, hAny⟩ := of_decide_eq_true hUp
    obtain ⟨change, hChange, hTarget⟩ := (Option.any_eq_true _ _).1 hAny
    obtain ⟨entry, hGet, hTransition⟩ := Option.bind_eq_some_iff.1 hChange
    -- Settling completes the change at once, so its target is the state after the event.
    have hRunning : change.target = .running := of_decide_eq_true hTarget
    have hMay := hReach.onCourse hGet change hTransition
    refine ⟨rfl, ?_, ?_⟩
    · rw [clusterState?, hGet]
      exact mem_of_mayBecome_running (hRunning ▸ hMay)
    · simp only [Event.apply, settleCluster, hGet, hTransition, clusterState?, clusters_finish_eq,
        SortedMap.get?_insert, if_true, Option.map_some, ClusterRecord.state_inState, hRunning]
  · next other =>
    obtain ⟨rfl, hOk, hChange⟩ := of_decide_eq_true hUp
    rcases hServe : p.serve (.clusters (.get other)) with ⟨cause | shown, q⟩
    · rw [hServe] at hOk
      cases hOk
    obtain ⟨⟨record, change⟩, hGet, -, hAfter⟩ := get_answered hServe
    -- A read completes a change only when no reads of it are left.
    obtain rfl : change = some ⟨.running, 0⟩ := by simpa [changeOf, hGet] using hChange
    have hMay := hReach.onCourse hGet _ rfl
    refine ⟨rfl, ?_, ?_⟩
    · rw [clusterState?, hGet]
      exact mem_of_mayBecome_running hMay
    · rw [Event.apply, hServe, clusterState?, hAfter]
      exact congrArg some (ClusterRecord.state_inState record .running)
  · cases hUp

/-- A cluster comes up exactly at the events that end a change to running. -/
theorem bringsUp_iff (hReach : p.Reachable) : e.bringsUp id p = true ↔ e.ComesUp id p := by
  refine ⟨comesUp_of_bringsUp hReach, fun ⟨hPuts, hBefore, hAfter⟩ => ?_⟩
  have hChanged : (e.apply p).clusterState? id ≠ p.clusterState? id := by
    intro hSame
    rw [← hSame, hAfter] at hBefore
    simp at hBefore
  have hStep := p.clusterStep_apply e id
  unfold clusterState? at hAfter hChanged
  generalize hOld : p.clusters.get? id = old at hStep hChanged
  generalize hNew : (e.apply p).clusters.get? id = new at hStep hAfter hChanged
  -- A cluster that is not put in place comes to run only by the end of a change.
  cases hStep with
  | same | wait => exact absurd rfl hChanged
  | finish record target =>
    have hTarget : target = .running := by simpa using hAfter
    have hOk : (p.serve (.clusters (.get id))).1.isOk = true := by
      obtain ⟨record, q, hServe, -⟩ | ⟨cause, hServe, -⟩ := p.serve_cases (.clusters (.get id))
      · rw [hServe]
        rfl
      · -- A read that is refused would leave the change under way.
        rw [Event.apply, hServe] at hNew
        cases congrArg (Option.bind · ClusterEntry.transition) (hOld.symm.trans hNew)
    simp [Event.bringsUp, hOk, changeOf, hOld, hTarget]
  | settle record change =>
    have hTarget : change.target = .running := by simpa using hAfter
    simp [Event.bringsUp, changeOf, hOld, hTarget]
  | create | resize | restart | terminate | permanentDelete => simp at hAfter
  | fail => simp at hAfter
  | putCluster | addRunningCluster => cases hPuts

/-! ### Entries that are marked -/

/-- The event installs the library on the cluster again, or forces its status there. -/
def Event.Renews (id : ClusterId) (spec : LibrarySpec) (p : Platform) (e : Event) : Prop :=
  .installed spec ∈ e.libraryMarks id p ∨ ∃ status, e = .setLibraryStatus id spec status

section Progress

variable {l : LibraryProgress} {libraries : List LibraryProgress}

/-- The installation of another library leaves a library as it is. -/
theorem mem_installed {reads : Nat} {spec : LibrarySpec} (hMem : l ∈ libraries)
    (hOther : l.entry.library ≠ spec) : l ∈ LibraryProgress.installed reads spec libraries := by
  induction libraries with
  | nil => cases hMem
  | cons first rest ih =>
    rw [LibraryProgress.installed]
    split
    · next hSame =>
      -- The entry that is replaced is that of the library being installed, so not this one.
      obtain rfl | hRest := List.mem_cons.1 hMem
      · exact absurd hSame hOther
      · exact List.mem_cons_of_mem _ hRest
    · obtain rfl | hRest := List.mem_cons.1 hMem
      · exact List.mem_cons_self
      · exact List.mem_cons_of_mem _ (ih hRest)

theorem mem_foldl_installed {reads : Nat} {specs : List LibrarySpec} (hMem : l ∈ libraries)
    (hOthers : l.entry.library ∉ specs) :
    l ∈ specs.foldl (fun libraries spec => LibraryProgress.installed reads spec libraries)
      libraries := by
  induction specs generalizing libraries with
  | nil => exact hMem
  | cons spec specs ih =>
    obtain ⟨hOther, hOthers⟩ := not_or.1 (List.mem_cons.not.1 hOthers)
    exact ih (mem_installed hMem hOther) hOthers

/-- Marking libraries again leaves the entry of one that is marked as it is. -/
theorem entry_marked (hMarked : l.entry.status = .uninstallOnRestart) (specs : List LibrarySpec) :
    (LibraryProgress.marked specs .uninstallOnRestart l).entry = l.entry := by
  unfold LibraryProgress.marked
  split
  · simp only [LibraryProgress.withStatus, ← hMarked]
  · rfl

end Progress

/-- An event leaves an entry that is marked as it is, unless it brings the cluster up, installs the
library again or forces its status. -/
theorem marked_stays {entry : LibraryEntry} (hEntry : entry ∈ p.libraryEntries id)
    (hMarked : entry.status = .uninstallOnRestart) (hUp : e.bringsUp id p = false)
    (hRenews : ¬e.Renews id entry.library p) : entry ∈ (e.apply p).libraryEntries id := by
  obtain ⟨l, hMem, rfl⟩ := List.mem_map.1 hEntry
  rw [libraryEntries, librariesOf_apply]
  refine List.mem_map.2 ?_
  obtain ⟨hInstalls, hForces⟩ := not_or.1 hRenews
  -- The libraries of a cluster change by the calls on libraries, by a status that is forced, and
  -- where the cluster comes up, which `hUp` excludes.
  cases e with
  | call c =>
    cases c with
    | libraries call =>
      cases call with
      | install other specs =>
        simp only [Event.onLibraries]
        simp only [Event.libraryMarks] at hInstalls
        split
        · next hAccepted =>
          -- An installation that is accepted renews exactly what it names, and this library is not
          -- renewed.
          rw [if_pos hAccepted] at hInstalls
          refine ⟨l, mem_foldl_installed hMem fun hSpec => hInstalls ?_, rfl⟩
          exact List.mem_map_of_mem hSpec
        · exact ⟨l, hMem, rfl⟩
      | uninstall other specs =>
        simp only [Event.onLibraries]
        split
        · -- The library may be marked a second time.
          exact ⟨_, List.mem_map_of_mem hMem, entry_marked hMarked specs⟩
        · exact ⟨l, hMem, rfl⟩
      | clusterStatus other =>
        simp only [Event.onLibraries]
        split
        · -- A look at the statuses moves installations on, and this library is not being installed.
          have hSame := LibraryProgress.observed_of_marked hMarked
          exact ⟨_, List.mem_map_of_mem hMem, congrArg _ hSame⟩
        · exact ⟨l, hMem, rfl⟩
    | clusters call =>
      simp only [Event.onLibraries, hUp]
      exact ⟨l, hMem, rfl⟩
    | jobs | workspace | files => exact ⟨l, hMem, rfl⟩
  | setLibraryStatus other spec status =>
    simp only [Event.onLibraries]
    split
    · next hOther =>
      subst hOther
      -- The status of this very library is not forced, so the forced one belongs to another.
      have hSpec : l.entry.library ≠ spec := by
        rintro rfl
        exact hForces ⟨status, rfl⟩
      refine ⟨_, List.mem_map_of_mem hMem, ?_⟩
      simp [LibraryProgress.marked, hSpec]
    · exact ⟨l, hMem, rfl⟩
  | settleCluster other =>
    simp only [Event.onLibraries, hUp]
    exact ⟨l, hMem, rfl⟩
  | settleReads | injectFailure | clearFailure | offerVersions | offerNodeTypes | offerZones
  | putCluster | addRunningCluster | failCluster | putJob | putRun | setRunOutput | finishRun
  | addNotebook | addFile => exact ⟨l, hMem, rfl⟩

/-- The entries of a cluster that comes up: those that are marked go, and no others. -/
theorem libraryEntries_of_bringsUp (hUp : e.bringsUp id p = true) :
    (e.apply p).libraryEntries id =
      (p.libraryEntries id).filter (·.status ≠ .uninstallOnRestart) := by
  -- The two events that bring a cluster up drop the same entries.
  have hDropped : e.onLibraries id p (p.librariesOf id) =
      (p.librariesOf id).filter fun l => l.entry.status ≠ .uninstallOnRestart := by
    unfold Event.bringsUp at hUp
    split at hUp
    · simp only [Event.onLibraries, Event.bringsUp, hUp, if_true]
    · simp only [Event.onLibraries, Event.bringsUp, hUp, if_true]
    · cases hUp
  rw [libraryEntries, librariesOf_apply, hDropped, libraryEntries, List.filter_map]
  rfl

/-- On every platform that can be reached, an entry that is marked for removal stays as it is,
whatever happens, until the cluster comes up, be it from a resize, unless the library is installed
again or its status is forced.  When the cluster comes up, exactly the entries that are marked
go. -/
theorem removed_when_up (hReach : p.Reachable) {entry : LibraryEntry}
    (hEntry : entry ∈ p.libraryEntries id) (hMarked : entry.status = .uninstallOnRestart)
    {history : List Event}
    (hQuiet : Throughout (fun p e => ¬e.ComesUp id p ∧ ¬e.Renews id entry.library p) p history) :
    entry ∈ (p.after history).libraryEntries id ∧
      ∀ e : Event, e.ComesUp id (p.after history) →
        (e.apply (p.after history)).libraryEntries id =
          ((p.after history).libraryEntries id).filter (·.status ≠ .uninstallOnRestart) := by
  -- The invariant of the quiet history: the platform can be reached, and the entry is there
  -- unchanged.
  have hStays := hQuiet.induction
    (motive := fun q => q.Reachable ∧ entry ∈ q.libraryEntries id) ?_ ⟨hReach, hEntry⟩
  · refine ⟨hStays.2, fun e hUp => ?_⟩
    exact libraryEntries_of_bringsUp ((bringsUp_iff hStays.1).2 hUp)
  · rintro q e ⟨hDown, hRenews⟩ ⟨hReach, hEntry⟩
    have hUp : e.bringsUp id q = false := by
      rw [← Bool.not_eq_true, bringsUp_iff hReach]
      exact hDown
    exact ⟨hReach.after [e], marked_stays hEntry hMarked hUp hRenews⟩

/-- A package of the usual index. -/
def numpy : Library := .pypi "numpy" none

/-- The entry of the package where it is marked for removal. -/
def numpyRemoved : LibraryEntry := ⟨numpy.toSpec, .uninstallOnRestart, [], false⟩

/-- Two packages are installed on a running cluster, and the first of them is marked for removal. -/
def removing : List Event := [
  .addRunningCluster "dev" 2,
  .call (.libraries (.install devCluster.id [numpy.toSpec, trimmed.toSpec])),
  .call (.libraries (.uninstall devCluster.id [numpy.toSpec]))]

/-- The other package is installed again, and the cluster restarts and is read once; the restart
shows for two reads. -/
def restarting : List Event := [
  .call (.libraries (.install devCluster.id [trimmed.toSpec])),
  .call (.clusters (.restart devCluster.id)),
  .call (.clusters (.get devCluster.id)),
  .call (.libraries (.clusterStatus devCluster.id))]

/-- The package is there while the cluster restarts, and gone when it has. -/
theorem removed_when_up_restart :
    let p := ({} : Platform).after removing
    let quiet := p.after restarting
    (p.Reachable ∧ numpyRemoved ∈ p.libraryEntries devCluster.id ∧
      Throughout (fun p e =>
        ¬e.ComesUp devCluster.id p ∧ ¬e.Renews devCluster.id numpyRemoved.library p)
        p restarting) ∧
      numpyRemoved ∈ quiet.libraryEntries devCluster.id ∧
      numpyRemoved ∉
        ((Event.settleCluster devCluster.id).apply quiet).libraryEntries devCluster.id := by
  intro p quiet
  have hReach : p.Reachable := ⟨removing, rfl⟩
  have hEntry : numpyRemoved ∈ p.libraryEntries devCluster.id := by decide
  have hQuiet : Throughout (fun p e =>
      ¬e.ComesUp devCluster.id p ∧ ¬e.Renews devCluster.id numpyRemoved.library p)
      p restarting := by
    refine ⟨⟨by decide, ?_⟩, ⟨by decide, ?_⟩, ⟨by decide, ?_⟩, ⟨by decide, ?_⟩, trivial⟩
    all_goals
      rintro (hInstalled | ⟨status, ⟨⟩⟩)
      revert hInstalled
      decide
  have hRemoved := removed_when_up hReach hEntry rfl hQuiet
  refine ⟨⟨hReach, hEntry, hQuiet⟩, hRemoved.1, ?_⟩
  rw [hRemoved.2 _ (by decide)]
  simp [numpyRemoved]

/-- A resize of the cluster takes the package away as well. -/
theorem removed_by_resize :
    let p := ({} : Platform).after removing
    let resized := p.after [.call (.clusters (.resize ⟨devCluster.id, some 3, none⟩))]
    let settled := resized.after [.settleCluster devCluster.id]
    p.clusterState? devCluster.id = some .running ∧
      resized.clusterState? devCluster.id = some .resizing ∧
      settled.clusterState? devCluster.id = some .running ∧
      numpyRemoved ∈ resized.libraryEntries devCluster.id ∧
      numpyRemoved ∉ settled.libraryEntries devCluster.id := by
  decide

end Platform

end SparkFleet
