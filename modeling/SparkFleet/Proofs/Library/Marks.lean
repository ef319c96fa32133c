import SparkFleet.Proofs.Library.Log
import SparkFleet.Proofs.Library.Step

/-!
# What events do to libraries

The libraries of a cluster are installed by their wire forms, marked for removal, read, and dropped
when the cluster comes up.  `Event.libraryMarks` says which of this an event does, in the terms of
the cluster's log; marking and reading leave the wire forms as they are.

The main statement `specsOf_after` says that the libraries of a cluster are those that its log
leaves, whatever else happens: each event does what its marks say (`specsOf_apply`).
-/

namespace SparkFleet

namespace Platform

open LibraryMark (present)

variable {p : Platform} {id : ClusterId}

/-! ### The log of a cluster -/

/-- The libraries of a cluster in wire form. -/
def specsOf (p : Platform) (id : ClusterId) : List LibrarySpec :=
  (p.librariesOf id).map (·.entry.library)

/-- The libraries of a cluster that are marked for removal. -/
def removedOf (p : Platform) (id : ClusterId) : List LibrarySpec :=
  ((p.librariesOf id).filter fun l => l.entry.status = .uninstallOnRestart).map (·.entry.library)

/-- What an event does to the libraries of a cluster: an installation that is accepted, or the
removal of those that are marked for it when the cluster comes up. -/
def Event.libraryMarks (id : ClusterId) (p : Platform) : Event → List LibraryMark
  | .call (.libraries (.install other specs)) =>
    if other = id ∧ (p.serve (.libraries (.install other specs))).1.isOk then
      specs.map .installed
    else
      []
  | e => if e.bringsUp id p then (p.removedOf id).map .dropped else []

/-! ### Wire forms -/

theorem specs_installed (reads : Nat) (spec : LibrarySpec) (libraries : List LibraryProgress) :
    (LibraryProgress.installed reads spec libraries).map (·.entry.library) =
      LibraryMark.apply (libraries.map (·.entry.library)) (.installed spec) := by
  induction libraries with
  | nil => rfl
  | cons l rest ih =>
    rw [LibraryProgress.installed]
    -- It is renewed where it is found, with the same wire form, or looked for in the rest.
    by_cases hSame : l.entry.library = spec
    · rw [if_pos hSame, List.map_cons, List.map_cons, l.library_renewed, LibraryMark.apply,
        if_pos (hSame ▸ List.mem_cons_self)]
    · rw [if_neg hSame, List.map_cons, List.map_cons, ih]
      simp only [LibraryMark.apply, List.mem_cons, Ne.symm hSame, false_or]
      split <;> rfl

/-- Libraries that are installed one after the other. -/
theorem specs_foldl_installed (reads : Nat) (specs : List LibrarySpec)
    (libraries : List LibraryProgress) :
    (specs.foldl (fun libraries spec => LibraryProgress.installed reads spec libraries)
        libraries).map (·.entry.library) =
      (specs.map .installed).foldl LibraryMark.apply (libraries.map (·.entry.library)) := by
  induction specs generalizing libraries with
  | nil => rfl
  | cons spec specs ih => rw [List.foldl_cons, ih, specs_installed, List.map_cons, List.foldl_cons]

theorem specs_marked (removed : List LibrarySpec) (status : InstallStatus)
    (libraries : List LibraryProgress) :
    (libraries.map (LibraryProgress.marked removed status)).map (·.entry.library) =
      libraries.map (·.entry.library) := by
  rw [List.map_map]
  exact List.map_congr_left fun l _ => l.library_marked removed status

theorem specs_observed (libraries : List LibraryProgress) :
    (libraries.map LibraryProgress.observed).map (·.entry.library) =
      libraries.map (·.entry.library) := by
  rw [List.map_map]
  exact List.map_congr_left fun l _ => l.library_observed

theorem foldl_dropped (specs dropped : List LibrarySpec) :
    (dropped.map .dropped).foldl LibraryMark.apply specs = specs.filter (· ∉ dropped) := by
  induction dropped generalizing specs with
  | nil => simp
  | cons spec dropped ih =>
    -- In which order libraries are taken out does not matter.
    rw [List.map_cons, List.foldl_cons, ih, LibraryMark.apply, List.filter_filter]
    refine List.filter_congr fun other _ => ?_
    simp [Bool.and_comm]

/-- Where no library is listed twice, taking out entries is taking out their wire forms. -/
theorem specs_filter {libraries : List LibraryProgress} (keep : LibraryProgress → Bool)
    (hNodup : (libraries.map (·.entry.library)).Nodup) :
    (libraries.filter keep).map (·.entry.library) =
      (libraries.map (·.entry.library)).filter
        (· ∉ (libraries.filter fun l => !keep l).map (·.entry.library)) := by
  rw [List.filter_map]
  congr 1
  refine List.filter_congr fun l hMem => ?_
  -- Another entry of the same wire form would be this one.
  have hUnique : ∀ other ∈ libraries, other.entry.library = l.entry.library → other = l :=
    fun other hOther hSame => List.inj_on_of_nodup_map hNodup hOther hMem hSame
  rw [Bool.eq_iff_iff]
  simp only [Function.comp_apply, decide_eq_true_eq, List.mem_map, List.mem_filter]
  constructor
  · rintro hKeep ⟨other, ⟨hOther, hGone⟩, hSame⟩
    rw [hUnique other hOther hSame, hKeep] at hGone
    cases hGone
  · intro hNot
    by_contra hGone
    exact hNot ⟨l, ⟨hMem, by simpa using hGone⟩, rfl⟩

/-! ### One event -/

/-- The libraries that stay when a cluster comes up are those that its log leaves. -/
theorem specs_kept (hNodup : (p.specsOf id).Nodup) :
    ((p.librariesOf id).filter fun l => l.entry.status ≠ .uninstallOnRestart).map
        (·.entry.library) =
      ((p.removedOf id).map .dropped).foldl LibraryMark.apply (p.specsOf id) := by
  have hRemoved : p.removedOf id =
      ((p.librariesOf id).filter fun l => !decide (l.entry.status ≠ .uninstallOnRestart)).map
        (·.entry.library) := by
    simp [removedOf]
  rw [foldl_dropped, hRemoved, specsOf, specs_filter _ hNodup]

/-- Every event does to the libraries of a cluster what its marks say. -/
theorem specsOf_apply (hNodup : (p.specsOf id).Nodup) (e : Event) :
    (e.apply p).specsOf id = (e.libraryMarks id p).foldl LibraryMark.apply (p.specsOf id) := by
  -- Apart from calls about libraries and forced statuses, all that matters is who comes up.
  have hUp (up : Bool) :
      (if up then
          (p.librariesOf id).filter fun l => l.entry.status ≠ .uninstallOnRestart
        else
          p.librariesOf id).map (·.entry.library) =
        (if up then (p.removedOf id).map .dropped else []).foldl LibraryMark.apply
          (p.specsOf id) := by
    cases up with
    | false => rfl
    | true => exact specs_kept hNodup
  rw [specsOf, librariesOf_apply]
  cases e with
  | call c =>
    cases c with
    | libraries call =>
      cases call with
      | install other specs =>
        simp only [Event.onLibraries, Event.libraryMarks]
        split
        · exact specs_foldl_installed p.settleReads specs _
        · rfl
      | uninstall other specs =>
        simp only [Event.onLibraries]
        split
        · exact specs_marked specs .uninstallOnRestart _
        · rfl
      | clusterStatus other =>
        simp only [Event.onLibraries]
        split
        · exact specs_observed _
        · rfl
    | clusters => exact hUp _
    | jobs | workspace | files => rfl
  | setLibraryStatus other spec status =>
    simp only [Event.onLibraries]
    split
    · exact specs_marked [spec] status _
    · rfl
  | settleCluster => exact hUp _
  | settleReads | injectFailure | clearFailure | offerVersions | offerNodeTypes | offerZones
  | putCluster | addRunningCluster | failCluster | putJob | putRun | setRunOutput | finishRun
  | addNotebook | addFile => rfl

/-- The libraries of a cluster are those that its log leaves. -/
theorem specsOf_after (history : List Event) (id : ClusterId) :
    (({} : Platform).after history).specsOf id =
      present (gathered (Event.libraryMarks id) {} history) := by
  induction history using List.reverseRecOn with
  | nil => rfl
  | append_singleton history e ih =>
    -- That no library is listed twice is known of the log, so the induction need not carry it.
    have hNodup : ((({} : Platform).after history).specsOf id).Nodup := by
      rw [ih]
      exact LibraryMark.nodup_present _
    have hApply : ({} : Platform).after (history ++ [e]) =
        e.apply (({} : Platform).after history) := after_append ..
    rw [hApply, specsOf_apply hNodup, ih, gathered_concat, present, present, List.foldl_append]

end Platform

end SparkFleet
