import SparkFleet.Proofs.Library.Step
import SparkFleet.Proofs.Platform.ClusterStep
import SparkFleet.Proofs.Run.Step

/-!
# Counts of reads

Clusters that change, runs and libraries carry a count of the reads that are left until their change
comes to its end.  `CountStep` says what one event may make of a count: a count that is over does
not go down.  The main statement `countsDown` says that no event does anything else to any of the
three.
-/

namespace SparkFleet

/-- What may become of a count of reads that are left: it stays, it goes down by one, it begins anew
with the count in force, or there is nothing to wait for any more. -/
inductive CountStep (inForce : Nat) (before : Option Nat) : Nat → Prop where
  | kept {left : Nat} (hBefore : before = some left) : CountStep inForce before left
  | down {left : Nat} (hBefore : before = some (left + 1)) : CountStep inForce before left
  | begun : CountStep inForce before inForce
  | over : CountStep inForce before 0

namespace LibraryProgress

/-- A library after an event, with the library before it that it goes back to, if it is not new. -/
def StepFrom (inForce : Nat) (before : List LibraryProgress) (l : LibraryProgress) : Prop :=
  l.readsLeft = inForce ∨ ∃ l' ∈ before, l'.entry.library = l.entry.library ∧
    CountStep inForce (some l'.readsLeft) l.readsLeft

variable {inForce : Nat} {before libraries : List LibraryProgress} {l : LibraryProgress}

theorem stepFrom_of_mem (hMem : l ∈ before) : l.StepFrom inForce before :=
  .inr ⟨l, hMem, rfl, .kept rfl⟩

theorem countStep_observed (l : LibraryProgress) :
    CountStep inForce (some l.readsLeft) l.observed.readsLeft := by
  unfold observed
  split
  · exact .kept rfl
  · cases hLeft : l.readsLeft with
    | zero => exact .over
    | succ left => exact .down rfl

theorem countStep_marked (specs : List LibrarySpec) (status : InstallStatus)
    (l : LibraryProgress) :
    CountStep inForce (some l.readsLeft) (marked specs status l).readsLeft := by
  unfold marked
  split
  · exact .over
  · exact .kept rfl

/-- Changing each library of a list changes the counts as it does each of them. -/
theorem stepFrom_map {f : LibraryProgress → LibraryProgress}
    (hLibrary : ∀ l, (f l).entry.library = l.entry.library)
    (hCount : ∀ l, CountStep inForce (some l.readsLeft) (f l).readsLeft)
    (hMem : l ∈ before.map f) : l.StepFrom inForce before := by
  obtain ⟨l', hMem', rfl⟩ := List.mem_map.1 hMem
  exact .inr ⟨l', hMem', (hLibrary l').symm, hCount l'⟩

/-- A library that is installed anew keeps its count. -/
theorem stepFrom_installed (spec : LibrarySpec)
    (hBefore : ∀ l ∈ libraries, l.StepFrom inForce before)
    (hMem : l ∈ installed inForce spec libraries) : l.StepFrom inForce before := by
  induction libraries with
  | nil =>
    obtain rfl := List.mem_singleton.1 hMem
    exact .inl rfl
  | cons first rest ih =>
    unfold installed at hMem
    split at hMem
    · -- The library is there already: it is renewed in its place, and the others stay.
      obtain rfl | hRest := List.mem_cons.1 hMem
      · unfold renewed
        split
        · exact hBefore first List.mem_cons_self
        · exact hBefore first List.mem_cons_self
      · exact hBefore l (List.mem_cons_of_mem _ hRest)
    · -- It is looked for further on, and is new if it is not found.
      obtain rfl | hRest := List.mem_cons.1 hMem
      · exact hBefore l List.mem_cons_self
      · exact ih (fun l hl => hBefore l (List.mem_cons_of_mem _ hl)) hRest

theorem stepFrom_foldl_installed (specs : List LibrarySpec)
    (hBefore : ∀ l ∈ libraries, l.StepFrom inForce before)
    (hMem : l ∈ specs.foldl (fun libraries spec => installed inForce spec libraries) libraries) :
    l.StepFrom inForce before := by
  induction specs generalizing libraries with
  | nil => exact hBefore l hMem
  | cons spec specs ih => exact ih (fun _ => stepFrom_installed spec hBefore) hMem

end LibraryProgress

namespace Platform

open LibraryProgress (StepFrom)

variable {p : Platform}

/-- Each count of reads after the event goes back to one before it. -/
structure Event.CountsDown (p : Platform) (e : Event) : Prop where
  clusters : ∀ id change, (e.apply p).changeOf id = some change →
    CountStep p.settleReads ((p.changeOf id).map (·.readsLeft)) change.readsLeft
  runs : ∀ id entry, (e.apply p).runs.get? id = some entry →
    CountStep p.settleReads ((p.runs.get? id).map (·.readsLeft)) entry.readsLeft
  libraries : ∀ id, ∀ l ∈ (e.apply p).librariesOf id, l.StepFrom p.settleReads (p.librariesOf id)

theorem countStep_cluster (e : Event) {id : ClusterId} {change : Transition}
    (hChange : (e.apply p).changeOf id = some change) :
    CountStep p.settleReads ((p.changeOf id).map (·.readsLeft)) change.readsLeft := by
  have hStep := p.clusterStep_apply e id
  unfold changeOf at hChange ⊢
  generalize p.clusters.get? id = before, (e.apply p).clusters.get? id = after at hStep hChange ⊢
  cases hStep with
  | same => exact .kept (by rw [hChange]; rfl)
  | wait => cases hChange; exact .down rfl
  | create | resize | restart | terminate => cases hChange; exact .begun
  | finish | settle | fail | permanentDelete | putCluster | addRunningCluster =>
    -- No change is under way afterwards, so there is no count.
    cases hChange

theorem countStep_observeRun (inForce : Nat) (entry : RunEntry) :
    CountStep inForce (some entry.readsLeft) (observeRun entry).readsLeft := by
  unfold observeRun
  split
  · exact .kept rfl
  · cases hLeft : entry.readsLeft with
    | zero => exact .over
    | succ left => exact .down rfl

theorem countStep_run (e : Event) {id : RunId} {entry : RunEntry}
    (hEntry : (e.apply p).runs.get? id = some entry) :
    CountStep p.settleReads ((p.runs.get? id).map (·.readsLeft)) entry.readsLeft := by
  rw [run_apply] at hEntry
  have hKept (h : p.runs.get? id = some entry) :
      CountStep p.settleReads ((p.runs.get? id).map (·.readsLeft)) entry.readsLeft :=
    .kept (by rw [h]; rfl)
  have hMap {f : RunEntry → RunEntry} (h : (p.runs.get? id).map f = some entry)
      (hCount : ∀ run, CountStep p.settleReads (some run.readsLeft) (f run).readsLeft) :
      CountStep p.settleReads ((p.runs.get? id).map (·.readsLeft)) entry.readsLeft := by
    obtain ⟨run, hRun, rfl⟩ := Option.map_eq_some_iff.1 h
    rw [hRun]
    exact hCount run
  -- The cases are those of the definition, in its order: a run is started, read, put in place,
  -- given an output, or finished.  Each leaves all other runs.
  unfold Event.onRun at hEntry
  split at hEntry
  · split at hEntry
    · split at hEntry
      · cases hEntry
        exact .begun
      · exact hKept hEntry
    · exact hKept hEntry
  · split at hEntry
    · exact hMap hEntry (countStep_observeRun _)
    · exact hKept hEntry
  · split at hEntry
    · cases hEntry
      exact .begun
    · exact hKept hEntry
  · split at hEntry
    · exact hMap hEntry fun _ => .kept rfl
    · exact hKept hEntry
  · split at hEntry
    · exact hMap hEntry fun _ => .over
    · exact hKept hEntry
  · exact hKept hEntry

theorem countStep_library (e : Event) {id : ClusterId} {l : LibraryProgress}
    (hMem : l ∈ (e.apply p).librariesOf id) : l.StepFrom p.settleReads (p.librariesOf id) := by
  have hKept (h : l ∈ p.librariesOf id) : l.StepFrom p.settleReads (p.librariesOf id) :=
    LibraryProgress.stepFrom_of_mem h
  have hMarked {specs : List LibrarySpec} {status : InstallStatus}
      (h : l ∈ (p.librariesOf id).map (LibraryProgress.marked specs status)) :
      l.StepFrom p.settleReads (p.librariesOf id) :=
    LibraryProgress.stepFrom_map (LibraryProgress.library_marked specs status)
      (LibraryProgress.countStep_marked specs status) h
  rw [librariesOf_apply] at hMem
  -- Again the cases are those of the definition.  In the last one libraries are dropped at most.
  unfold Event.onLibraries at hMem
  split at hMem
  · split at hMem
    · exact LibraryProgress.stepFrom_foldl_installed _
        (fun _ => LibraryProgress.stepFrom_of_mem) hMem
    · exact hKept hMem
  · split at hMem
    · exact hMarked hMem
    · exact hKept hMem
  · split at hMem
    · exact LibraryProgress.stepFrom_map LibraryProgress.library_observed
        LibraryProgress.countStep_observed hMem
    · exact hKept hMem
  · split at hMem
    · exact hMarked hMem
    · exact hKept hMem
  · split at hMem
    · exact hKept (List.mem_of_mem_filter hMem)
    · exact hKept hMem

/-- No event takes a count down that is over. -/
theorem countsDown (e : Event) : e.CountsDown p :=
  ⟨fun _ _ => countStep_cluster e, fun _ _ => countStep_run e, fun _ _ => countStep_library e⟩

end Platform

end SparkFleet
