import SparkFleet.Library.Status
import SparkFleet.Proofs.Calls
import SparkFleet.Proofs.Library.Marks

/-!
# Looking up libraries of a cluster

A library is looked up by its identity among the entries of known kinds.  The main statement
`library_lookup` says of every history that no library is listed twice, and that the look-up finds a
library exactly if one of the same identity has been installed and not been dropped since; it then
reports the one of these that was installed first.
-/

namespace SparkFleet

/-- The wire form denotes a library of the same identity. -/
def LibrarySpec.Denotes (library : Library) (spec : LibrarySpec) : Prop :=
  ∃ found, Library.ofSpec? spec = some found ∧ found.isSameAs library = true

/-! ### Statuses of entries -/

section Statuses

variable {library : Library} {entries : List LibraryEntry} {entry : LibraryEntry}
  {status : LibraryStatus}

/-- The status of the first entry of an identity, where entries of no known kind are passed over. -/
def LibraryStatus.find? (library : Library) (entries : List LibraryEntry) : Option LibraryStatus :=
  (entries.filterMap fun entry => (LibraryStatus.ofEntry entry).toOption).find? fun status =>
    status.library.isSameAs library

theorem toOption_ofEntry_eq_some_iff :
    (LibraryStatus.ofEntry entry).toOption = some status ↔
      LibraryStatus.ofEntry entry = .ok status := by
  cases LibraryStatus.ofEntry entry <;> simp [Except.toOption]

theorem any_ofEntry_iff :
    ((LibraryStatus.ofEntry entry).toOption.any fun status => status.library.isSameAs library) =
        true ↔ entry.library.Denotes library := by
  unfold LibraryStatus.ofEntry LibrarySpec.Denotes
  cases Library.ofSpec? entry.library <;> simp [Except.toOption]

/-- What is found is the status of the first entry that denotes the library. -/
theorem LibraryStatus.find?_eq_some (hFind : find? library entries = some status) :
    ∃ first entry later, entries = first ++ entry :: later ∧ ofEntry entry = .ok status ∧
      entry.library.Denotes library ∧ ∀ other ∈ first, ¬other.library.Denotes library := by
  rw [find?, List.find?_filterMap] at hFind
  obtain ⟨entry, hEntry, hStatus⟩ := Option.bind_eq_some_iff.1 hFind
  obtain ⟨hDenotes, first, later, rfl, hFirst⟩ := List.find?_eq_some_iff_append.1 hEntry
  -- Passing over entries of no known kind and then finding one is finding the first that denotes
  -- it.
  refine ⟨first, entry, later, rfl, toOption_ofEntry_eq_some_iff.1 hStatus,
    any_ofEntry_iff.1 hDenotes, fun other hMem hOther => ?_⟩
  have hNot := hFirst other hMem
  rw [any_ofEntry_iff.2 hOther] at hNot
  cases hNot

/-- A status is found exactly if some entry denotes the library. -/
theorem LibraryStatus.exists_find?_iff :
    (∃ status, find? library entries = some status) ↔
      ∃ entry ∈ entries, entry.library.Denotes library := by
  rw [← Option.isSome_iff_exists, find?, List.find?_isSome]
  constructor
  · rintro ⟨status, hMem, hSame⟩
    obtain ⟨entry, hEntry, hStatus⟩ := List.mem_filterMap.1 hMem
    refine ⟨entry, hEntry, any_ofEntry_iff.1 ?_⟩
    rw [hStatus, Option.any_some, hSame]
  · rintro ⟨entry, hEntry, hDenotes⟩
    obtain ⟨status, hStatus, hSame⟩ := (Option.any_eq_true _ _).1 (any_ofEntry_iff.2 hDenotes)
    exact ⟨status, List.mem_filterMap.2 ⟨entry, hEntry, hStatus⟩, hSame⟩

end Statuses

section Exec

variable {library : Library} {c : Cluster} {s : Simulation Platform} {q : Platform}

/-- The look-up finds the status among the entries that the platform answers. -/
theorem exec_clusterStatus_of_ok {answer : ClusterLibraries}
    (hServe : s.state.serve (.libraries (.clusterStatus c.id)) = (.ok answer, q)) :
    Action.exec Platform.handler (library.clusterStatus c) s =
      (match LibraryStatus.find? library answer.libraryStatuses with
        | some status => .ok status
        | none => .error (library.notAssociated c), { s with state := q }) := by
  have hStatuses : Action.exec Platform.handler c.libraryStatuses s =
      (.ok (answer.libraryStatuses.filterMap fun entry =>
        (LibraryStatus.ofEntry entry).toOption), { s with state := q }) :=
    (exec_within_ask (Platform.answer_handler hServe) .library _).1
  unfold Library.clusterStatus LibraryStatus.find?
  rw [Action.exec_bind, hStatuses]
  generalize answer.libraryStatuses.filterMap _ = statuses
  dsimp only
  cases statuses.find? fun status => status.library.isSameAs library <;> rfl

theorem exec_clusterStatus_of_error {cause : ApiError}
    (hServe : s.state.serve (.libraries (.clusterStatus c.id)) = (.error cause, q)) :
    (Action.exec Platform.handler (library.clusterStatus c) s).1 =
      .error ((Error.transport cause).within .library) := by
  have hStatuses : Action.exec Platform.handler c.libraryStatuses s =
      (.error ((Error.transport cause).within .library), { s with state := q }) :=
    (exec_within_ask_error (Platform.answer_handler hServe) .library _).1
  unfold Library.clusterStatus
  rw [Action.exec_bind, hStatuses]

end Exec

namespace Platform

open LibraryMark (present)

variable {p q : Platform} {id : ClusterId}

theorem specsOf_eq (p : Platform) (id : ClusterId) :
    (p.libraryEntries id).map (·.library) = p.specsOf id := by
  rw [libraryEntries, specsOf, List.map_map]
  rfl

/-- The entries of a cluster that is there are answered unless a failure is injected, and a read
changes no wire form. -/
theorem serve_clusterStatus (hServed : p.failure? "libraries/cluster-status" = none)
    (hCluster : p.clusters.contains id = true) :
    ∃ answer q, p.serve (.libraries (.clusterStatus id)) = (.ok answer, q) ∧
      answer.libraryStatuses = q.libraryEntries id ∧ q.specsOf id = p.specsOf id := by
  obtain ⟨cluster, hGet⟩ := Option.isSome_iff_exists.1 hCluster
  let counted := p.count "libraries/cluster-status"
  let libraries :=
    if cluster.record.state = .running then
      (p.librariesOf id).map LibraryProgress.observed
    else
      p.librariesOf id
  have hFind : counted.findCluster id = .ok cluster := findCluster_eq_ok_iff.2 hGet
  have hPerform : counted.performLibraries (.clusterStatus id) =
      .ok (⟨id, libraries.map (·.entry)⟩,
        { counted with libraries := counted.libraries.insert id libraries }) := by
    simp only [performLibraries, readLibraries, hFind]
    rfl
  have hServe := serve_of_ok (c := .libraries (.clusterStatus id)) hServed hPerform
  refine ⟨_, _, hServe, ?_, ?_⟩
  · rw [libraryEntries, librariesOf_insert_libraries, if_pos rfl]
  · rw [specsOf, specsOf, librariesOf_performLibraries hServe, Event.onLibraries]
    -- A read may move installations on, whichever way the wire forms are kept.
    split
    · exact specs_observed _
    · rfl

section Lookup

variable {c : Cluster} {s : Simulation Platform} {log : List LibraryMark}

/-- A look-up that succeeds reports an entry of the log's libraries: the first with the identity. -/
theorem clusterStatus_reports {library : Library} {answer : ClusterLibraries}
    {status : LibraryStatus}
    (hEntries : answer.libraryStatuses = q.libraryEntries c.id)
    (hLog : q.specsOf c.id = present log)
    (hFind : LibraryStatus.find? library answer.libraryStatuses = some status) :
    ∃ entry ∈ q.libraryEntries c.id, LibraryStatus.ofEntry entry = .ok status ∧
      LibraryMark.FirstStanding (LibrarySpec.Denotes library) log entry.library := by
  rw [hEntries] at hFind
  obtain ⟨first, entry, later, hSplit, hStatus, hDenotes, hFirst⟩ :=
    LibraryStatus.find?_eq_some hFind
  -- The entries are what the log leaves, in its order, so the first entry is the first
  -- installation.
  have hPresent :
      present log = first.map (·.library) ++ entry.library :: later.map (·.library) := by
    rw [← hLog, ← specsOf_eq, hSplit, List.map_append, List.map_cons]
  obtain ⟨before, after, hInstalled, hStays, hBefore⟩ := LibraryMark.exists_installation hPresent
  refine ⟨entry, by simp [hSplit], hStatus, hDenotes, before, after, hInstalled, hStays,
    fun other hOther hStands => ?_⟩
  -- Another one of the identity that is still there would be found first.
  by_contra hKept
  obtain ⟨earlier, hMem, rfl⟩ := List.mem_map.1 (hBefore other hStands hKept)
  exact hFirst earlier hMem hOther

/-- The look-up on a cluster whose libraries are those of a log. -/
theorem clusterStatus_spec (library : Library) (hLog : s.state.specsOf c.id = present log)
    (hCluster : s.state.clusters.contains c.id = true) :
    ((∃ status, (Action.exec handler (library.clusterStatus c) s).1 = .ok status) ↔
      s.state.failure? "libraries/cluster-status" = none ∧
        ∃ spec, spec.Denotes library ∧ LibraryMark.Stands log spec) ∧
    ∀ status, (Action.exec handler (library.clusterStatus c) s).1 = .ok status →
      ∃ entry ∈ (Action.exec handler (library.clusterStatus c) s).2.state.libraryEntries c.id,
        LibraryStatus.ofEntry entry = .ok status ∧
          LibraryMark.FirstStanding (LibrarySpec.Denotes library) log entry.library := by
  cases hFailure : s.state.failure? "libraries/cluster-status" with
  | some cause =>
    rw [exec_clusterStatus_of_error (serve_of_injected hFailure)]
    simp
  | none =>
    obtain ⟨answer, q, hServe, hEntries, hSpecs⟩ := serve_clusterStatus hFailure hCluster
    have hLog' : q.specsOf c.id = present log := hSpecs.trans hLog
    have hFound : (∃ status, LibraryStatus.find? library answer.libraryStatuses = some status) ↔
        ∃ spec, spec.Denotes library ∧ LibraryMark.Stands log spec := by
      rw [LibraryStatus.exists_find?_iff, hEntries]
      simp only [← LibraryMark.mem_present_iff, ← hLog', ← specsOf_eq, List.mem_map]
      constructor
      · rintro ⟨entry, hMem, hDenotes⟩
        exact ⟨entry.library, hDenotes, entry, hMem, rfl⟩
      · rintro ⟨-, hDenotes, entry, hMem, rfl⟩
        exact ⟨entry, hMem, hDenotes⟩
    rw [exec_clusterStatus_of_ok hServe, ← hFound]
    cases hFind : LibraryStatus.find? library answer.libraryStatuses with
    | none => simp
    | some status =>
      refine ⟨by simp, fun status' hStatus => ?_⟩
      obtain rfl : status = status' := Except.ok.inj hStatus
      exact clusterStatus_reports hEntries hLog' hFind

/-- After every history, no library is listed twice for a cluster.  A library is found on a cluster
that is there, unless a failure is injected, exactly if one of the same identity has been installed
and not been dropped since, and what is reported is the entry of the one of these that was installed
first. -/
theorem library_lookup (history : List Event) :
    let p := ({} : Platform).after history
    (∀ id, ((p.libraryEntries id).map (·.library)).Nodup) ∧
      ∀ (library : Library) (c : Cluster) (s : Simulation Platform), s.state = p →
        p.clusters.contains c.id = true →
          let log := gathered (Event.libraryMarks c.id) {} history
          let looked := Action.exec handler (library.clusterStatus c) s
          ((∃ status, looked.1 = .ok status) ↔
            p.failure? "libraries/cluster-status" = none ∧
              ∃ spec, spec.Denotes library ∧ LibraryMark.Stands log spec) ∧
          ∀ status, looked.1 = .ok status →
            ∃ entry ∈ looked.2.state.libraryEntries c.id,
              LibraryStatus.ofEntry entry = .ok status ∧
                LibraryMark.FirstStanding (LibrarySpec.Denotes library) log entry.library := by
  intro p
  have hLog := specsOf_after history
  refine ⟨fun id => ?_, fun library c s hState hCluster => ?_⟩
  · rw [specsOf_eq, hLog]
    exact LibraryMark.nodup_present _
  · intro log looked
    have hLog' : s.state.specsOf c.id = present log := hState ▸ hLog c.id
    have hSpec := clusterStatus_spec library hLog' (hState ▸ hCluster)
    rwa [hState] at hSpec

/-- An artifact without one of its dependencies. -/
def trimmed : Library := .maven "org:lib:1" none ["org:dep"]

/-- The cluster that is added first. -/
def devCluster : Cluster := ⟨.new ({} : Platform).nextClusterId⟩

/-- An artifact is installed in two wire forms, the first of them twice and after an entry of no
known kind, and the first is removed at the next restart. -/
def reinstalled : List Event := [
  .addRunningCluster "dev" 2,
  .call (.libraries (.install devCluster.id [{}, trimmed.toSpec, trimmed.toSpec])),
  .call (.libraries (.install devCluster.id [(trimmed.withExclusions []).toSpec])),
  .call (.libraries (.uninstall devCluster.id [trimmed.toSpec])),
  .call (.clusters (.restart devCluster.id)),
  .settleCluster devCluster.id]

/-- The artifact is found by the wire form that is left. -/
theorem library_lookup_reinstalled :
    let s : Simulation Platform := ⟨({} : Platform).after reinstalled, ⟨0⟩, .empty⟩
    s.state = ({} : Platform).after reinstalled ∧
      s.state.clusters.contains devCluster.id = true ∧
      ∃ status, (Action.exec handler (trimmed.clusterStatus devCluster) s).1 = .ok status := by
  intro s
  have hCluster : s.state.clusters.contains devCluster.id = true := by rfl
  have hLog : gathered (Event.libraryMarks devCluster.id) {} reinstalled =
      [.installed {}, .installed trimmed.toSpec, .installed trimmed.toSpec,
        .installed (trimmed.withExclusions []).toSpec, .dropped trimmed.toSpec] := by
    rfl
  have hStands : LibraryMark.Stands (gathered (Event.libraryMarks devCluster.id) {} reinstalled)
      (trimmed.withExclusions []).toSpec := by
    rw [hLog]
    exact ⟨[.installed {}, .installed trimmed.toSpec, .installed trimmed.toSpec], _, rfl, by decide⟩
  have hDenotes : (trimmed.withExclusions []).toSpec.Denotes trimmed := ⟨_, rfl, by decide⟩
  obtain ⟨-, hLookup⟩ := library_lookup reinstalled
  obtain ⟨hFound, -⟩ := hLookup trimmed devCluster s rfl hCluster
  exact ⟨rfl, hCluster, hFound.2 ⟨rfl, _, hDenotes, hStands⟩⟩

end Lookup

end Platform

end SparkFleet
