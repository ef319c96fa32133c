import SparkFleet.Proofs.Library.Lookup
import SparkFleet.Proofs.SortedMap

/-!
# Removing a library by its identity

Two libraries of the same kind, name and repository are the same, whatever dependencies they leave
out.  A library is looked up by this identity, but the platform keeps one entry for each wire form
and marks the entry of the wire form that it is asked to remove.

The main statement `removal_reported` says what is reported where a library is installed and then
removed by the same one: it is marked exactly if the first entry of the identity has the wire form
that was removed, or was marked before.  So it is marked where all entries of the identity leave out
the same dependencies.
-/

namespace SparkFleet

open SparkFleet.Action (exec)

namespace Library

variable {a b : Library}

theorem isSameAs_iff :
    a.isSameAs b = true ↔ a.kind = b.kind ∧ a.identifier = b.identifier ∧ a.repo = b.repo := by
  simp only [isSameAs, Bool.and_eq_true, decide_eq_true_eq, and_assoc]

/-- Libraries that are the same differ in nothing but the dependencies that are left out. -/
theorem eq_of_isSameAs (hSame : a.isSameAs b = true) (hExclusions : a.exclusions = b.exclusions) :
    a = b := by
  obtain ⟨hKind, hIdentifier, hRepo⟩ := isSameAs_iff.1 hSame
  cases a <;> cases b <;> simp_all [kind, identifier, repo, exclusions]

/-- The wire form of a library denotes those that are the same. -/
theorem denotes_toSpec : a.toSpec.Denotes b ↔ a.isSameAs b = true := by
  simp [LibrarySpec.Denotes]

/-- A wire form that a library was given denotes another one, and leaves out what the other does:
it is the wire form of that one. -/
theorem toSpec_eq_of_denotes (hDenotes : a.toSpec.Denotes b)
    (hExclusions : a.exclusions = b.exclusions) : a.toSpec = b.toSpec :=
  congrArg toSpec (eq_of_isSameAs (denotes_toSpec.1 hDenotes) hExclusions)

variable {c : Cluster} {s t : Simulation Platform}

/-- An installation that succeeds gives the library on the cluster, and is a call that is
accepted. -/
theorem install_eq_ok {installed : InstalledLibrary}
    (hInstall : exec Platform.handler (a.install c) s = (.ok installed, t)) :
    installed = ⟨c, a⟩ ∧
      s.state.serve (.libraries (.install c.id [a.toSpec])) = (.ok (), t.state) := by
  rcases hServe : s.state.serve (.libraries (.install c.id [a.toSpec])) with ⟨cause | ⟨⟩, q⟩
  · rw [install, (exec_within_ask_error (Platform.answer_handler hServe) .library _).1] at hInstall
    cases hInstall
  · rw [install, (exec_within_ask (Platform.answer_handler hServe) .library _).1] at hInstall
    cases hInstall
    exact ⟨rfl, rfl⟩

/-- A removal that succeeds is a call that is accepted. -/
theorem uninstall_eq_ok (hRemove : exec Platform.handler (a.uninstall c) s = (.ok (), t)) :
    s.state.serve (.libraries (.uninstall c.id [a.toSpec])) = (.ok (), t.state) := by
  rw [uninstall, Action.exec_within, Action.exec_ask] at hRemove
  rcases hServe : s.state.serve (.libraries (.uninstall c.id [a.toSpec])) with ⟨cause | ⟨⟩, q⟩
  · rw [Platform.answer_handler hServe] at hRemove
    cases hRemove
  · rw [Platform.answer_handler hServe] at hRemove
    cases hRemove
    rfl

end Library

/-- What is reported of a library among entries that have been changed, but not in their wire
forms: the status that the first one of its identity has now. -/
theorem LibraryStatus.find?_changed {α : Type} {before now : α → LibraryEntry} {library : Library}
    {status : LibraryStatus} (hSpecs : ∀ x, (now x).library = (before x).library) {all : List α}
    (hFind : find? library (all.map now) = some status) :
    ∃ first x later, all = first ++ x :: later ∧ (before x).library.Denotes library ∧
      (∀ other ∈ first, ¬(before other).library.Denotes library) ∧
      status.state = (now x).status := by
  obtain ⟨first, entry, later, hSplit, hStatus, hDenotes, hFirst⟩ := find?_eq_some hFind
  obtain ⟨first, rest, rfl, rfl, hRest⟩ := List.map_eq_append_iff.1 hSplit
  obtain ⟨x, later, rfl, rfl, rfl⟩ := List.map_eq_cons_iff.1 hRest
  refine ⟨first, x, later, rfl, hSpecs x ▸ hDenotes, fun other hMem hOther => ?_, ?_⟩
  · refine hFirst (now other) (List.mem_map_of_mem hMem) ?_
    rw [hSpecs]
    exact hOther
  · unfold ofEntry at hStatus
    split at hStatus <;> cases hStatus
    rfl

namespace LibraryProgress

/-- A library is marked for removal after a read exactly if it was so before. -/
theorem observed_isMarked_iff (l : LibraryProgress) :
    l.observed.entry.status = .uninstallOnRestart ↔ l.entry.status = .uninstallOnRestart := by
  constructor
  · intro hMarked
    unfold observed at hMarked
    split at hMarked
    · exact hMarked
    · split at hMarked <;> cases hMarked
  · intro hMarked
    rw [observed_of_marked hMarked, hMarked]

/-- Where one wire form is removed, a library is marked for removal exactly if it has the form, or
was so before. -/
theorem marked_isMarked_iff (spec : LibrarySpec) (l : LibraryProgress) :
    (marked [spec] .uninstallOnRestart l).entry.status = .uninstallOnRestart ↔
      l.entry.library = spec ∨ l.entry.status = .uninstallOnRestart := by
  unfold marked
  split
  · next hSpec => simp_all [withStatus]
  · next hSpec => simp_all

end LibraryProgress

namespace Platform

variable {p q : Platform} {id : ClusterId}

/-! ### Calls about libraries that are accepted -/

/-- Calls about libraries leave the clusters as they are. -/
theorem clusters_libraries {c : LibraryCall} {a : c.Answer}
    (hServe : p.serve (.libraries c) = (.ok a, q)) : q.clusters = p.clusters := by
  rw [performLibraries_frame (serve_eq_ok hServe)]
  rfl

/-- Libraries are installed on clusters that are there. -/
theorem contains_of_install {specs : List LibrarySpec}
    (hServe : p.serve (.libraries (.install id specs)) = (.ok (), q)) :
    p.clusters.contains id = true := by
  obtain ⟨entry, hFind, -⟩ := bind_eq_ok (serve_eq_ok hServe)
  exact SortedMap.contains_of_get?_eq_some (findCluster_eq_ok_iff.1 hFind)

theorem librariesOf_install {specs : List LibrarySpec}
    (hServe : p.serve (.libraries (.install id specs)) = (.ok (), q)) :
    q.librariesOf id =
      specs.foldl (fun libraries spec => LibraryProgress.installed p.settleReads spec libraries)
        (p.librariesOf id) := by
  rw [librariesOf_performLibraries hServe, Event.onLibraries, hServe]
  exact if_pos ⟨rfl, rfl⟩

theorem librariesOf_uninstall {specs : List LibrarySpec}
    (hServe : p.serve (.libraries (.uninstall id specs)) = (.ok (), q)) :
    q.librariesOf id =
      (p.librariesOf id).map (LibraryProgress.marked specs .uninstallOnRestart) := by
  rw [librariesOf_performLibraries hServe, Event.onLibraries, hServe]
  exact if_pos ⟨rfl, rfl⟩

/-- A read of the statuses changes no wire form, and no mark for removal. -/
theorem librariesOf_clusterStatus {answer : ClusterLibraries}
    (hServe : p.serve (.libraries (.clusterStatus id)) = (.ok answer, q)) :
    ∃ read : LibraryProgress → LibraryProgress,
      q.librariesOf id = (p.librariesOf id).map read ∧
        ∀ l, (read l).entry.library = l.entry.library ∧
          ((read l).entry.status = .uninstallOnRestart ↔ l.entry.status = .uninstallOnRestart) := by
  rw [librariesOf_performLibraries hServe, Event.onLibraries]
  split
  · -- Only on a running cluster does a read move an installation on, and never a mark.
    exact ⟨LibraryProgress.observed, rfl, fun l => ⟨l.library_observed, l.observed_isMarked_iff⟩⟩
  · exact ⟨fun l => l, (List.map_id' _).symm, fun l => ⟨rfl, Iff.rfl⟩⟩

/-- The wire forms on a cluster after one has been installed. -/
theorem mem_specsOf_install {spec other : LibrarySpec}
    (hServe : p.serve (.libraries (.install id [spec])) = (.ok (), q)) :
    other ∈ q.specsOf id ↔ other = spec ∨ other ∈ p.specsOf id := by
  rw [specsOf, librariesOf_install hServe, specs_foldl_installed]
  exact LibraryMark.mem_apply_installed

/-- The statuses that are read after a wire form has been removed: those that have the form are
marked, and those that were marked before. -/
theorem clusterStatus_after_uninstall {spec : LibrarySpec} {r : Platform}
    {answer : ClusterLibraries}
    (hRemove : p.serve (.libraries (.uninstall id [spec])) = (.ok (), q))
    (hRead : q.serve (.libraries (.clusterStatus id)) = (.ok answer, r))
    (hAnswer : answer.libraryStatuses = r.libraryEntries id) :
    ∃ now : LibraryProgress → LibraryEntry,
      answer.libraryStatuses = (p.librariesOf id).map now ∧
        (∀ l, (now l).library = l.entry.library) ∧
        ∀ l, (now l).status = .uninstallOnRestart ↔
          l.entry.library = spec ∨ l.entry.status = .uninstallOnRestart := by
  obtain ⟨read, hLibraries, hReadSpec⟩ := librariesOf_clusterStatus hRead
  refine ⟨fun l => (read (LibraryProgress.marked [spec] .uninstallOnRestart l)).entry, ?_,
    fun l => ?_, fun l => ?_⟩
  · rw [hAnswer, libraryEntries, hLibraries, librariesOf_uninstall hRemove, List.map_map,
      List.map_map]
    rfl
  · rw [(hReadSpec _).1, LibraryProgress.library_marked]
  · rw [(hReadSpec _).2, l.marked_isMarked_iff]

/-- What the look-up finds where a library has been installed and a wire form removed: the first
entry of the library's identity. -/
theorem find?_after_removal {library : Library} {spec : LibrarySpec} {r u : Platform}
    {answer : ClusterLibraries}
    (hInstall : p.serve (.libraries (.install id [library.toSpec])) = (.ok (), q))
    (hRemove : q.serve (.libraries (.uninstall id [spec])) = (.ok (), r))
    (hRead : r.serve (.libraries (.clusterStatus id)) = (.ok answer, u))
    (hAnswer : answer.libraryStatuses = u.libraryEntries id) :
    (∃ status, LibraryStatus.find? library answer.libraryStatuses = some status) ∧
      ∀ status, LibraryStatus.find? library answer.libraryStatuses = some status →
        ∃ first entry later, q.libraryEntries id = first ++ entry :: later ∧
          entry.library.Denotes library ∧ (∀ other ∈ first, ¬other.library.Denotes library) ∧
          (status.state = .uninstallOnRestart ↔
            entry.library = spec ∨ entry.status = .uninstallOnRestart) := by
  obtain ⟨now, hNow, hSpecs, hStatuses⟩ := clusterStatus_after_uninstall hRemove hRead hAnswer
  rw [hNow]
  constructor
  · -- The form that has been installed is among the entries.
    have hThere : library.toSpec ∈ q.specsOf id := (mem_specsOf_install hInstall).2 (.inl rfl)
    obtain ⟨l, hMem, hSpec⟩ := List.mem_map.1 hThere
    refine LibraryStatus.exists_find?_iff.2 ⟨now l, List.mem_map_of_mem hMem, ?_⟩
    rw [hSpecs, hSpec, Library.denotes_toSpec]
    exact Library.isSameAs_iff.2 ⟨rfl, rfl, rfl⟩
  · intro status hFind
    obtain ⟨first, l, later, hSplit, hDenotes, hFirst, hState⟩ :=
      LibraryStatus.find?_changed hSpecs hFind
    refine ⟨first.map (·.entry), l.entry, later.map (·.entry), ?_, hDenotes, ?_, ?_⟩
    · rw [libraryEntries, hSplit, List.map_append, List.map_cons]
    · rintro _ hMem
      obtain ⟨other, hOther, rfl⟩ := List.mem_map.1 hMem
      exact hFirst other hOther
    · rw [hState]
      exact hStatuses l

/-- Where all entries of a library's identity leave out the same dependencies, they have the wire
form of the library that is removed. -/
theorem spec_of_alike {a b : Library} {entry : LibraryEntry}
    (hInstall : p.serve (.libraries (.install id [a.toSpec])) = (.ok (), q))
    (hSame : a.isSameAs b = true) (hExclusions : a.exclusions = b.exclusions)
    (hAlike : ∀ entry ∈ p.libraryEntries id, entry.library.Denotes a →
      ∃ l : Library, entry.library = l.toSpec ∧ l.exclusions = a.exclusions)
    (hMem : entry ∈ q.libraryEntries id) (hDenotes : entry.library.Denotes a) :
    entry.library = b.toSpec := by
  have hThere : entry.library ∈ q.specsOf id := by
    rw [← specsOf_eq]
    exact List.mem_map_of_mem hMem
  -- The entry was there before, or is the one that has been installed.
  have hForm : ∃ l : Library, entry.library = l.toSpec ∧ l.exclusions = a.exclusions := by
    obtain hNew | hOld := (mem_specsOf_install hInstall).1 hThere
    · exact ⟨a, hNew, rfl⟩
    · rw [← specsOf_eq] at hOld
      obtain ⟨old, hOldMem, hOldSpec⟩ := List.mem_map.1 hOld
      exact hOldSpec ▸ hAlike old hOldMem (hOldSpec ▸ hDenotes)
  obtain ⟨l, hSpec, hLeftOut⟩ := hForm
  rw [hSpec, Library.toSpec_eq_of_denotes (hSpec ▸ hDenotes) hLeftOut,
    Library.eq_of_isSameAs hSame hExclusions]

/-- A library is installed and then removed, on whatever platform, as libraries of the same
identity.  Unless its calls are refused, the look-up right afterwards finds it, and reports the
first entry of the identity: as marked for removal exactly if it has the wire form that was removed,
or was marked before.  So the library is reported as marked where all entries of the identity are
those of libraries that leave out the same dependencies; kinds other than artifacts leave out
none. -/
theorem removal_reported {a b : Library} {c : Cluster} {s t u : Simulation Platform}
    {installed : InstalledLibrary} (hSame : a.isSameAs b = true)
    (hInstall : exec handler (a.install c) s = (.ok installed, t))
    (hRemove : exec handler (b.uninstall c) t = (.ok (), u)) :
    let looked := exec handler (a.clusterStatus c) u
    ((∃ status, looked.1 = .ok status) ↔ s.state.failure? "libraries/cluster-status" = none) ∧
      ∀ status, looked.1 = .ok status →
        (∃ first entry later, t.state.libraryEntries c.id = first ++ entry :: later ∧
          entry.library.Denotes a ∧ (∀ other ∈ first, ¬other.library.Denotes a) ∧
          (status.state = .uninstallOnRestart ↔
            entry.library = b.toSpec ∨ entry.status = .uninstallOnRestart)) ∧
        (a.exclusions = b.exclusions →
          (∀ entry ∈ s.state.libraryEntries c.id, entry.library.Denotes a →
            ∃ l : Library, entry.library = l.toSpec ∧ l.exclusions = a.exclusions) →
          status.state = .uninstallOnRestart) := by
  intro looked
  obtain ⟨-, hInstalls⟩ := Library.install_eq_ok hInstall
  have hRemoves := Library.uninstall_eq_ok hRemove
  -- Neither call changes the clusters, so the statuses can be read if the installation was
  -- possible.
  have hCluster : u.state.clusters.contains c.id = true := by
    rw [clusters_libraries hRemoves, clusters_libraries hInstalls]
    exact contains_of_install hInstalls
  have hFailure : u.state.failure? "libraries/cluster-status" =
      s.state.failure? "libraries/cluster-status" :=
    (failure?_of_serve hRemoves _).trans (failure?_of_serve hInstalls _)
  cases hRefused : s.state.failure? "libraries/cluster-status" with
  | some cause =>
    have hError : looked.1 = .error ((Error.transport cause).within .library) :=
      exec_clusterStatus_of_error (serve_of_injected (hFailure.trans hRefused))
    simp [hError]
  | none =>
    obtain ⟨answer, q, hRead, hAnswer, -⟩ := serve_clusterStatus (hFailure.trans hRefused) hCluster
    have hLooked (status : LibraryStatus) : looked.1 = .ok status ↔
        LibraryStatus.find? a answer.libraryStatuses = some status := by
      simp only [looked, exec_clusterStatus_of_ok hRead]
      cases LibraryStatus.find? a answer.libraryStatuses <;> simp
    obtain ⟨hFound, hReports⟩ := find?_after_removal hInstalls hRemoves hRead hAnswer
    simp only [hLooked, hFound, true_and]
    intro status hFind
    -- The first entry of the identity has the form that was removed, since here all of them have
    -- it.
    refine ⟨hReports status hFind, fun hExclusions hAlike => ?_⟩
    obtain ⟨first, entry, later, hSplit, hDenotes, -, hMarked⟩ := hReports status hFind
    have hMem : entry ∈ t.state.libraryEntries c.id := by
      rw [hSplit]
      simp
    exact hMarked.2 (.inl (spec_of_alike hInstalls hSame hExclusions hAlike hMem hDenotes))

/-- The platform on which an entry of no known kind and an artifact are installed. -/
def withArtifact : Simulation Platform :=
  ⟨({} : Platform).after (reinstalled.take 2), ⟨0⟩, .empty⟩

/-- The artifact is installed anew and removed with the same dependencies left out. -/
theorem removal_reported_artifact :
    let t := (exec handler (trimmed.install devCluster) withArtifact).2
    let u := (exec handler (trimmed.uninstall devCluster) t).2
    (trimmed.isSameAs trimmed = true ∧
      exec handler (trimmed.install devCluster) withArtifact = (.ok ⟨devCluster, trimmed⟩, t) ∧
      exec handler (trimmed.uninstall devCluster) t = (.ok (), u)) ∧
      ∃ status, (exec handler (trimmed.clusterStatus devCluster) u).1 = .ok status ∧
        status.state = .uninstallOnRestart := by
  intro t u
  have hSame : trimmed.isSameAs trimmed = true := by decide
  have hInstall : exec handler (trimmed.install devCluster) withArtifact =
      (.ok ⟨devCluster, trimmed⟩, t) := rfl
  have hRemove : exec handler (trimmed.uninstall devCluster) t = (.ok (), u) := rfl
  obtain ⟨hFound, hReports⟩ := removal_reported hSame hInstall hRemove
  obtain ⟨status, hStatus⟩ := hFound.2 rfl
  refine ⟨⟨hSame, hInstall, hRemove⟩, status, hStatus, (hReports status hStatus).2 rfl ?_⟩
  have hEntries : withArtifact.state.libraryEntries devCluster.id =
      [⟨{}, .pending, [], false⟩, ⟨trimmed.toSpec, .pending, [], false⟩] := rfl
  rw [hEntries]
  rintro entry hMem ⟨found, hFound, -⟩
  obtain rfl | rfl : entry = _ ∨ entry = _ := by simpa using hMem
  · cases hFound
  · exact ⟨trimmed, rfl, rfl⟩

/-- The artifact is not reported as removed where it is removed as the same library, but with no
dependencies left out. -/
theorem removal_missed :
    let whole := trimmed.withExclusions []
    let t := (exec handler (trimmed.install devCluster) withArtifact).2
    let u := (exec handler (whole.uninstall devCluster) t).2
    withArtifact.state.Reachable ∧ trimmed.isSameAs whole = true ∧
      exec handler (trimmed.install devCluster) withArtifact = (.ok ⟨devCluster, trimmed⟩, t) ∧
      exec handler (whole.uninstall devCluster) t = (.ok (), u) ∧
      ∃ status, (exec handler (trimmed.clusterStatus devCluster) u).1 = .ok status ∧
        status.state ≠ .uninstallOnRestart := by
  intro whole t u
  exact ⟨⟨_, rfl⟩, by decide, rfl, rfl, _, rfl, by decide⟩

end Platform

end SparkFleet
