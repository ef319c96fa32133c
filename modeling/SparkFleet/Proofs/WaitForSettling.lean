import SparkFleet.Proofs.Cluster.FailedCreation
import SparkFleet.Proofs.Library.Installation
import SparkFleet.Proofs.Library.SameLibrary
import SparkFleet.Proofs.Platform.Settling
import SparkFleet.Proofs.Run.History
import SparkFleet.Proofs.WaitLength

/-!
# Waiting for what has just begun

A cluster that has been created, a run that has been started and a library that has been installed
are waited for until the platform brings them to their end.  The creation of a cluster and the start
of a run read it once themselves (`cluster_created`, `run_started`), while an installation is not
read before the wait begins (`library_installed`).

The main statement `waits_take_the_settling` says how long each of the waits takes with a count of
`n`: the pauses between the reads that are left, or all of its time.
-/

namespace SparkFleet

open SparkFleet.Action (exec)
open SparkFleet.Wait (FindsAt Takes)

/-! ### Clusters -/

section

variable {c : Cluster} {s t : Simulation Platform}

theorem ClusterEntry.clusterId_counted (record : ClusterRecord) (target : ClusterState)
    (n k : Nat) : (counted record target n k).record.clusterId = record.clusterId := by
  unfold counted
  split
  · rfl
  · exact Platform.clusterId_inState record target

/-- A cluster that is created comes up. -/
theorem Platform.begun_of_created {p q : Platform} {spec : ClusterSpec} {id : ClusterId}
    (hServe : p.serve (.clusters (.create spec)) = (.ok id, q)) :
    ∃ record, record.state = .pending ∧ record.clusterId = id ∧
      q.clusters.get? id = some (.counted record .running p.settleReads 0) := by
  obtain ⟨rfl, rfl⟩ := createCluster_eq_ok (serve_eq_ok hServe)
  exact ⟨_, rfl, rfl, (SortedMap.get?_insert ..).trans (if_pos rfl)⟩

/-- A cluster is coming up, which is to show for `n` reads, and has been read `k` times. -/
structure Platform.ComesUp (p : Platform) (id : ClusterId) (record : ClusterRecord) (n k : Nat) :
    Prop where
  entry : p.clusters.get? id = some (.counted record .running n k)
  served : p.failure? "clusters/get" = none

/-- A cluster that has been read is the one that is kept. -/
theorem Cluster.get_ok {id : ClusterId}
    (hGet : exec Platform.handler (Cluster.get id) s = (.ok c, t)) :
    ∃ q, s.state.serve (.clusters (.get id)) = (.ok c.record, q) ∧ t = { s with state := q } := by
  rcases hServe : s.state.serve (.clusters (.get id)) with ⟨cause | record, q⟩
  · rw [Cluster.get, (exec_within_ask_error (Platform.answer_handler hServe) .cluster _).1] at hGet
    cases (Prod.mk.inj hGet).1
  · rw [Cluster.get, (exec_within_ask (Platform.answer_handler hServe) .cluster _).1] at hGet
    obtain ⟨hResult, rfl⟩ := Prod.mk.inj hGet
    obtain rfl := Except.ok.inj hResult
    exact ⟨q, rfl, rfl⟩

/-- The cluster of a new handle is coming up, and has been read once. -/
theorem cluster_created {d : ClusterDraft} {known known' : Catalog}
    (hCreate : d.create.exec Platform.handler known s = ((.ok c, known'), t)) :
    ∃ record, record.state = .pending ∧ record.clusterId = c.id ∧
      t.state.ComesUp c.id record s.state.settleReads 1 := by
  have hPrepared := Session.onlyCounted_exec d.prepare_readsOffer known s
  rw [ClusterDraft.create_eq, Session.exec_within, Session.exec_bind] at hCreate
  rcases hPrepare : d.prepare.exec Platform.handler known s with ⟨⟨cause | spec, known₁⟩, u⟩
  · rw [hPrepare] at hCreate
    exact nomatch congrArg (fun answer => answer.1.1) hCreate
  rw [hPrepare] at hCreate hPrepared
  simp only [Session.exec_act] at hCreate
  rcases hServe : u.state.serve (.clusters (.create spec)) with ⟨cause | id, q⟩
  · rw [(Action.ask_bind_of_error (Platform.answer_handler hServe) _).1] at hCreate
    exact nomatch congrArg (fun answer => answer.1.1) hCreate
  rw [(Action.ask_bind_of_ok (Platform.answer_handler hServe) _).1] at hCreate
  have hGet : exec Platform.handler (Cluster.get id) { u with state := q } = (.ok c, t) := by
    obtain ⟨hResult, hEnd⟩ := Prod.mk.inj hCreate
    exact Prod.ext (Action.failWithin_eq_ok (congrArg Prod.fst hResult)) hEnd
  obtain ⟨r, hRead, rfl⟩ := Cluster.get_ok hGet
  obtain ⟨record, hState, hId, hBegun⟩ := Platform.begun_of_created hServe
  -- The choices only read, so the count in force is still the one at the beginning.
  have hCount : u.state.settleReads = s.state.settleReads := congrArg (·.settleReads) hPrepared
  rw [hCount] at hBegun
  obtain ⟨entry, hEntry, hShown, hAfter⟩ := Platform.get_answered hRead
  obtain rfl : _ = entry := Option.some.inj (hBegun.symm.trans hEntry)
  rw [ClusterEntry.observed_counted] at hShown hAfter
  have hSame : c.id = id := by
    rw [Cluster.id, hShown, ClusterEntry.clusterId_counted, hId]
  rw [hSame]
  exact ⟨record, hState, hId, hAfter, Platform.failure?_of_answered hRead⟩

/-- One poll for the running state of a cluster that is coming up. -/
theorem comesUp_poll {record : ClusterRecord} {n k : Nat}
    (hUp : s.state.ComesUp c.id record n k) :
    ∃ q, exec Platform.handler (Wait.clusterPoll c .running) s =
        (Wait.clusterReached c.id .running
          ⟨if k < n then record else record.inState .running⟩, { s with state := q }) ∧
      q.ComesUp c.id record n (k + 1) := by
  obtain ⟨q, hServe, hAfter⟩ := Platform.serve_getCluster hUp.entry hUp.served
  rw [ClusterEntry.observed_counted] at hAfter hServe
  rw [ClusterEntry.record_counted] at hServe
  refine ⟨q, ?_, hAfter, (Platform.failure?_of_serve hServe _).trans hUp.served⟩
  rw [Wait.clusterPoll, Action.exec_bind, Cluster.refresh, Action.exec_bind, Cluster.read,
    Action.exec_within, Action.exec_ask, Platform.answer_handler hServe]
  rfl

/-- The polls for the running state of a cluster that is coming up and has been read once. -/
theorem cluster_findsAt {record : ClusterRecord} (hState : record.state = .pending)
    (hId : record.clusterId = c.id) (n : Nat) :
    FindsAt (fun _ => Wait.clusterPoll c .running) (.clusters (.get c.id)) (n - 1)
      (fun now => now.snapshotState = .running ∧ now.id = c.id)
      fun k p => p.ComesUp c.id record n (k + 1) := by
  refine ⟨fun _ s => ?_, fun k s hEarly hInv => ?_, fun s hInv => ?_⟩
  · rw [Wait.clusterPoll, Action.calls_bind_quiet _ _ fun _ _ => rfl, Cluster.refresh,
      Action.calls_bind_quiet _ _ fun _ _ => rfl]
    exact Action.calls_within_ask ..
  · obtain ⟨q, hExec, hAfter⟩ := comesUp_poll hInv
    rw [if_pos (by omega)] at hExec
    -- From the pending state the running one is within reach, so the wait goes on.
    have hGoesOn : Wait.clusterReached c.id .running ⟨record⟩ = .ok none := by
      unfold Wait.clusterReached Cluster.snapshotState
      rw [hState]
      rfl
    rw [hGoesOn] at hExec
    exact ⟨q, hExec, hAfter⟩
  · obtain ⟨q, hExec, -⟩ := comesUp_poll hInv
    rw [if_neg (by omega)] at hExec
    exact ⟨⟨record.inState .running⟩, q, hExec, rfl, hId⟩

end

/-! ### Runs -/

section

variable {v : Variant} {r : RunOf v} {s t : Simulation Platform}

theorem RunEntry.runId_counted (record : RunRecord) (n k : Nat) :
    (counted record n k).record.runId = record.runId := by
  unfold counted
  dsimp only
  split <;> rfl

/-- A run that is to last for `n` reads goes on, and has been read `k` times. -/
structure Platform.GoesOn (p : Platform) (id : RunId) (record : RunRecord) (n k : Nat) :
    Prop where
  begun : record.state.lifeCycleState.isTerminal = false
  entry : p.runs.get? id = some (.counted record n k)
  served : p.failure? "jobs/runs/get" = none

/-- A run that has been started is the one that is read right afterwards. -/
theorem JobOf.runWith_ok {j : JobOf v} {params : v.kind.Overrides}
    (hRun : exec Platform.handler (j.runWith params) s = (.ok r, t)) :
    ∃ started p q, s.state.serve (.jobs (.runNow (.ofOverrides j.id v.kind params))) =
        (.ok started, p) ∧
      p.serve (.jobs (.getRun started.runId)) = (.ok r.record, q) ∧ t = { s with state := q } := by
  rcases hStart : s.state.serve (.jobs (.runNow (.ofOverrides j.id v.kind params))) with
    ⟨cause | started, p⟩
  · rw [runWith, (exec_within_ask_error (Platform.answer_handler hStart) .job _).1] at hRun
    cases (Prod.mk.inj hRun).1
  rw [runWith, (exec_within_ask (Platform.answer_handler hStart) .job _).1] at hRun
  rcases hRead : p.serve (.jobs (.getRun started.runId)) with ⟨cause | record, q⟩
  · rw [(exec_within_ask_error (Platform.answer_handler hRead) .job _).1] at hRun
    cases (Prod.mk.inj hRun).1
  · rw [(exec_within_ask (Platform.answer_handler hRead) .job _).1] at hRun
    obtain ⟨hResult, rfl⟩ := Prod.mk.inj hRun
    obtain rfl := Except.ok.inj hResult
    exact ⟨started, p, q, rfl, hRead, rfl⟩

/-- The run of a new handle goes on, and has been read once. -/
theorem run_started {j : JobOf v} {params : v.kind.Overrides}
    (hRun : exec Platform.handler (j.runWith params) s = (.ok r, t)) :
    ∃ record, t.state.GoesOn r.id record s.state.settleReads 1 := by
  obtain ⟨started, p, q, hStart, hRead, rfl⟩ := JobOf.runWith_ok hRun
  obtain ⟨record, hState, hId, hEntry⟩ := Platform.run_of_started hStart
  have hServed := Platform.failure?_of_answered hRead
  obtain ⟨q', hServe, hAfter⟩ := Platform.serve_getRun hEntry
    ((Platform.failure?_of_serve hRead _).symm.trans hServed)
  obtain ⟨hAnswer, rfl⟩ := Prod.mk.inj (hRead.symm.trans hServe)
  have hNotEnded : record.state.lifeCycleState.isTerminal = false := by
    rw [hState]
    rfl
  have hObserved := RunEntry.observeRun_counted hNotEnded s.state.settleReads 0
  have hSame : r.id = started.runId := by
    rw [RunOf.id, Except.ok.inj hAnswer, ← hId]
    exact congrArg (·.record.runId) hObserved |>.trans (RunEntry.runId_counted ..)
  rw [hSame]
  exact ⟨record, hNotEnded, hAfter.trans (congrArg some hObserved), hServed⟩

/-- One look at a run that goes on. -/
theorem goesOn_state {record : RunRecord} {n k : Nat} (hOn : s.state.GoesOn r.id record n k) :
    ∃ q, exec Platform.handler r.state s =
        (.ok (if k < n then record else record.succeeded).state, { s with state := q }) ∧
      q.GoesOn r.id record n (k + 1) := by
  obtain ⟨q, hServe, hAfter⟩ := Platform.serve_getRun hOn.entry hOn.served
  rw [RunEntry.observeRun_counted hOn.begun] at hAfter hServe
  refine ⟨q, ?_, hOn.begun, hAfter, (Platform.failure?_of_serve hServe _).trans hOn.served⟩
  rw [RunOf.state, Action.exec_bind, RunOf.read, Action.exec_within, Action.exec_ask,
    Platform.answer_handler hServe]
  rfl

/-- A poll for the end of a run. -/
def runPoll (r : RunOf v) : Action (Option RunState) := do
  let state ← r.state
  return if state.lifeCycleState.isTerminal then some state else none

/-- The polls for the end of a run that goes on and has been read once. -/
theorem run_findsAt (r : RunOf v) (record : RunRecord) (n : Nat) :
    FindsAt (fun _ => runPoll r) (.jobs (.getRun r.id)) (n - 1)
      (fun state => state.lifeCycleState = .terminated ∧ state.resultState = some .success)
      fun k p => p.GoesOn r.id record n (k + 1) := by
  refine ⟨fun _ s => ?_, fun k s hEarly hInv => ?_, fun s hInv => ?_⟩
  · rw [runPoll, Action.calls_bind_quiet _ _ fun _ _ => rfl, RunOf.state,
      Action.calls_bind_quiet _ _ fun _ _ => rfl]
    exact Action.calls_within_ask ..
  · obtain ⟨q, hExec, hAfter⟩ := goesOn_state hInv
    rw [if_pos (by omega)] at hExec
    refine ⟨q, ?_, hAfter⟩
    rw [runPoll, Action.exec_bind, hExec]
    dsimp only
    rw [hInv.begun]
    rfl
  · obtain ⟨q, hExec, -⟩ := goesOn_state hInv
    rw [if_neg (by omega)] at hExec
    refine ⟨record.succeeded.state, q, ?_, rfl, rfl⟩
    rw [runPoll, Action.exec_bind, hExec]
    rfl

end

/-! ### Libraries -/

namespace LibraryProgress

/-- A wire form that is not there is added at the end. -/
theorem installed_of_absent {spec : LibrarySpec} {reads : Nat} {libraries : List LibraryProgress}
    (hAbsent : ∀ l ∈ libraries, l.entry.library ≠ spec) :
    installed reads spec libraries = libraries ++ [new spec reads] := by
  induction libraries with
  | nil => rfl
  | cons first rest ih =>
    rw [installed, if_neg (hAbsent first List.mem_cons_self),
      ih fun l hl => hAbsent l (List.mem_cons_of_mem _ hl)]
    rfl

end LibraryProgress

/-- Where only the last entry denotes a library, its status is found. -/
theorem LibraryStatus.find?_last {library : Library} {entries : List LibraryEntry}
    {entry : LibraryEntry} (hEntries : ∀ other ∈ entries, ¬other.library.Denotes library)
    (hEntry : entry.library = library.toSpec) :
    find? library (entries ++ [entry]) =
      some ⟨library, entry.status, entry.messages, entry.isLibraryForAllClusters⟩ := by
  have hDenotes : entry.library.Denotes library := by
    rw [hEntry, Library.denotes_toSpec]
    exact Library.isSameAs_iff.2 ⟨rfl, rfl, rfl⟩
  have hFound : ∃ status, find? library (entries ++ [entry]) = some status :=
    exists_find?_iff.2 ⟨entry, List.mem_concat_self, hDenotes⟩
  obtain ⟨status, hFind⟩ := hFound
  -- The look-up takes the first entry that denotes the library, and only the last one does.
  obtain ⟨first, other, later, hSplit, hStatus, hOther, -⟩ := find?_eq_some hFind
  have hMem : other ∈ entries ++ [entry] := by simp [hSplit]
  obtain hBefore | hLast := List.mem_append.1 hMem
  · exact absurd hOther (hEntries other hBefore)
  · obtain rfl := List.mem_singleton.1 hLast
    rw [ofEntry, hEntry, Library.ofSpec?_toSpec] at hStatus
    rw [hFind, ← Except.ok.inj hStatus]

/-- A library is being installed on a cluster that runs, as the only one of its identity, and its
statuses have been read `k` times. -/
structure Platform.Installs (p : Platform) (id : ClusterId) (l : Library) (n k : Nat) : Prop where
  last : ∃ before, p.librariesOf id = before ++ [.counted l.toSpec n k] ∧
    ∀ other ∈ before, ¬other.entry.library.Denotes l
  running : p.isRunning id = true
  served : p.failure? "libraries/cluster-status" = none

section

variable {l : Library} {c : Cluster} {i : InstalledLibrary} {s t : Simulation Platform}

/-- A library that is installed where there was none of its identity. -/
theorem library_installed (hInstall : exec Platform.handler (l.install c) s = (.ok i, t))
    (hRunning : s.state.isRunning c.id = true)
    (hAbsent : LibraryStatus.find? l (s.state.libraryEntries c.id) = none)
    (hServed : s.state.failure? "libraries/cluster-status" = none) :
    t.state.Installs c.id l s.state.settleReads 0 := by
  obtain ⟨-, hServe⟩ := Library.install_eq_ok hInstall
  have hOthers : ∀ other ∈ s.state.librariesOf c.id, ¬other.entry.library.Denotes l := by
    intro other hMem hDenotes
    obtain ⟨status, hFind⟩ :=
      LibraryStatus.exists_find?_iff.2 ⟨other.entry, List.mem_map_of_mem hMem, hDenotes⟩
    exact nomatch hAbsent.symm.trans hFind
  -- An equal wire form would be found as the library, so the new entry goes to the end.
  have hForms : ∀ other ∈ s.state.librariesOf c.id, other.entry.library ≠ l.toSpec := by
    intro other hMem hSame
    refine hOthers other hMem ?_
    rw [hSame, Library.denotes_toSpec]
    exact Library.isSameAs_iff.2 ⟨rfl, rfl, rfl⟩
  refine ⟨⟨s.state.librariesOf c.id, ?_, hOthers⟩, ?_,
    (Platform.failure?_of_serve hServe _).trans hServed⟩
  · rw [Platform.librariesOf_install hServe]
    exact LibraryProgress.installed_of_absent hForms
  · rw [Platform.isRunning, Platform.clusters_libraries hServe]
    exact hRunning

/-- One look at a library that is being installed. -/
theorem installs_status {n k : Nat} (hInstalls : s.state.Installs c.id l n k) :
    ∃ q, exec Platform.handler (l.clusterStatus c) s =
        (.ok ⟨l, if k < n then .installing else .installed, [], false⟩, { s with state := q }) ∧
      q.Installs c.id l n (k + 1) := by
  obtain ⟨⟨before, hLibraries, hOthers⟩, hRunning, hServed⟩ := hInstalls
  obtain ⟨entry, hEntry, -⟩ := Option.any_eq_true _ _ |>.1 hRunning
  obtain ⟨answer, q, hServe, hAnswer, -⟩ :=
    Platform.serve_clusterStatus hServed (SortedMap.contains_of_get?_eq_some hEntry)
  -- On a running cluster the read moves all entries on, this one among them.
  have hObserved : q.librariesOf c.id =
      before.map LibraryProgress.observed ++ [.counted l.toSpec n (k + 1)] := by
    rw [Platform.librariesOf_performLibraries hServe, Platform.Event.onLibraries, hServe,
      if_pos ⟨rfl, rfl, hRunning⟩, hLibraries, List.map_append, List.map_singleton,
      LibraryProgress.observed_counted]
  have hStillOthers : ∀ other ∈ before.map LibraryProgress.observed,
      ¬other.entry.library.Denotes l := by
    intro other hMem
    obtain ⟨old, hOld, rfl⟩ := List.mem_map.1 hMem
    rw [LibraryProgress.library_observed]
    exact hOthers old hOld
  refine ⟨q, ?_, ⟨_, hObserved, hStillOthers⟩, ?_,
    (Platform.failure?_of_serve hServe _).trans hServed⟩
  · rw [exec_clusterStatus_of_ok hServe, hAnswer, Platform.libraryEntries, hObserved,
      List.map_append, List.map_singleton,
      LibraryStatus.find?_last _ (LibraryProgress.library_counted ..)]
    · rfl
    · intro other hMem
      obtain ⟨progress, hProgress, rfl⟩ := List.mem_map.1 hMem
      exact hStillOthers progress hProgress
  · rw [Platform.isRunning, Platform.clusters_libraries hServe]
    exact hRunning

/-- A poll for the end of an installation. -/
def libraryPoll (l : Library) (c : Cluster) : Action (Option LibraryStatus) := do
  let status ← l.clusterStatus c
  return if status.state.isSettled then some status else none

theorem calls_libraryPoll (l : Library) (c : Cluster) (s : Simulation Platform) :
    Program.calls Platform.handler (libraryPoll l c).run s =
      [.libraries (.clusterStatus c.id)] := by
  rw [libraryPoll, Action.calls_bind_quiet _ _ fun _ _ => rfl, Library.clusterStatus,
    Action.calls_bind_quiet]
  · exact Action.calls_within_ask_pure ..
  · intro statuses u
    split <;> rfl

/-- The polls for the end of an installation that has not been read. -/
theorem library_findsAt (l : Library) (c : Cluster) (n : Nat) :
    FindsAt (fun _ => libraryPoll l c) (.libraries (.clusterStatus c.id)) n
      (fun status => status.state = .installed ∧ status.library = l)
      fun k p => p.Installs c.id l n k := by
  refine ⟨fun _ => calls_libraryPoll l c, fun k s hEarly hInv => ?_, fun s hInv => ?_⟩
  · obtain ⟨q, hExec, hAfter⟩ := installs_status hInv
    rw [if_pos hEarly] at hExec
    refine ⟨q, ?_, hAfter⟩
    rw [libraryPoll, Action.exec_bind, hExec]
    rfl
  · obtain ⟨q, hExec, -⟩ := installs_status hInv
    rw [if_neg (Nat.lt_irrefl n)] at hExec
    refine ⟨⟨l, .installed, [], false⟩, q, ?_, rfl, rfl⟩
    rw [libraryPoll, Action.exec_bind, hExec]
    rfl

variable (l c) in
/-- A poll for the end of an installation that is refused. -/
theorem libraryPoll_refused {cause : ApiError}
    (hRefused : s.state.failure? "libraries/cluster-status" = some cause) :
    ∃ q, exec Platform.handler (libraryPoll l c) s =
      (.error ((Error.transport cause).within .library), { s with state := q }) := by
  let q := s.state.count "libraries/cluster-status"
  have hServe : s.state.serve (.libraries (.clusterStatus c.id)) = (.error cause, q) :=
    Platform.serve_of_injected hRefused
  have hStatuses : exec Platform.handler c.libraryStatuses s =
      (.error ((Error.transport cause).within .library), { s with state := q }) :=
    (exec_within_ask_error (Platform.answer_handler hServe) .library _).1
  refine ⟨q, ?_⟩
  rw [libraryPoll, Action.exec_bind, Library.clusterStatus, Action.exec_bind, hStatuses]

end

/-! ### Waits -/

/-- How long the waits take for a cluster that has just been created, a run that has just been
started and a library that has just been installed.  A pause is as long as the interval that is
asked for, but not longer than thirty years, and a cluster or a run has been read once before the
wait begins.  A wait for a library whose reads are refused ends at once. -/
theorem waits_take_the_settling (o : WaitOptions) (hInterval : 0 < o.interval.nanos) :
    o.pause.nanos = min o.interval.nanos WaitOptions.longestPause.nanos ∧
      (∀ (d : ClusterDraft) (known known' : Catalog) (c : Cluster) (s t : Simulation Platform),
        d.create.exec Platform.handler known s = ((.ok c, known'), t) →
          Takes o ("cluster " ++ c.id.text ++ " to be " ++ ClusterState.running.name)
            (.clusters (.get c.id)) (s.state.settleReads - 1)
            (fun now => now.snapshotState = .running ∧ now.id = c.id) t
            (Wait.clusterState o c .running)) ∧
      (∀ (v : Variant) (j : JobOf v) (params : v.kind.Overrides) (r : RunOf v)
          (s t : Simulation Platform),
        exec Platform.handler (j.runWith params) s = (.ok r, t) →
          Takes o ("run " ++ r.id.text ++ " to finish") (.jobs (.getRun r.id))
            (s.state.settleReads - 1)
            (fun state => state.lifeCycleState = .terminated ∧ state.resultState = some .success) t
            (Wait.run o ⟨v, r⟩)) ∧
      ∀ (l : Library) (c : Cluster) (i : InstalledLibrary) (s t : Simulation Platform),
        exec Platform.handler (l.install c) s = (.ok i, t) → s.state.isRunning c.id = true →
          LibraryStatus.find? l (s.state.libraryEntries c.id) = none →
            (s.state.failure? "libraries/cluster-status" = none →
              Takes o ("library " ++ l.identifier ++ " on cluster " ++ c.id.text ++ " to settle")
                (.libraries (.clusterStatus c.id)) s.state.settleReads
                (fun status => status.state = .installed ∧ status.library = l) t
                (Wait.library o i)) ∧
            ∀ cause, s.state.failure? "libraries/cluster-status" = some cause → ∃ u,
              exec Platform.handler (Wait.library o i) t =
                  (.error ((Error.transport cause).within .library), u) ∧
                u.clock = t.clock ∧
                Program.calls Platform.handler (Wait.library o i).run t =
                  [.libraries (.clusterStatus c.id)] := by
  refine ⟨o.pause_nanos, ?_, ?_, ?_⟩
  · intro d known known' c s t hCreate
    obtain ⟨record, hState, hId, hUp⟩ := cluster_created hCreate
    exact (cluster_findsAt hState hId s.state.settleReads).takes o _ hInterval hUp
  · intro v j params r s t hRun
    obtain ⟨record, hOn⟩ := run_started hRun
    exact (run_findsAt r record s.state.settleReads).takes o _ hInterval hOn
  · -- An installation is not read by the call that begins it, so all `n` reads are left.
    intro l c i s t hInstall hRunning hAbsent
    obtain ⟨rfl, hServe⟩ := Library.install_eq_ok hInstall
    refine ⟨fun hServed => ?_, fun cause hRefused => ?_⟩
    · exact (library_findsAt l c s.state.settleReads).takes o _ hInterval
        (library_installed hInstall hRunning hAbsent hServed)
    · have hStill : t.state.failure? "libraries/cluster-status" = some cause :=
        (Platform.failure?_of_serve hServe _).trans hRefused
      obtain ⟨q, hPoll⟩ := libraryPoll_refused l c hStill
      obtain ⟨hExec, hCalls⟩ := Wait.pollUntil_of_error (fun _ => libraryPoll l c) o
        ("library " ++ l.identifier ++ " on cluster " ++ c.id.text ++ " to settle") hPoll
      exact ⟨_, hExec, rfl, hCalls.trans (calls_libraryPoll l c t)⟩

/-- A platform on which a cluster runs. -/
def withRunning (p : Platform) : Simulation Platform :=
  ⟨p.after [.addRunningCluster "dev" 2], ⟨0⟩, .empty⟩

/-- With the count at first and the usual options, a cluster and a run take one pause, and a library
takes two. -/
theorem waits_take_the_settling_usually :
    let o : WaitOptions := {}
    0 < o.interval.nanos ∧
      (∃ c known t now u,
        ClusterDraft.smallDraft.create.exec Platform.handler {} { state := {} } =
            ((.ok c, known), t) ∧
          exec Platform.handler (Wait.clusterState o c .running) t = (.ok now, u) ∧
          now.snapshotState = .running ∧ u.clock.nanos = t.clock.nanos + 1 * o.pause.nanos) ∧
      (∃ r t state u,
        exec Platform.handler notebookJob.run notebookRead = (.ok r, t) ∧
          exec Platform.handler (Wait.run o ⟨_, r⟩) t = (.ok state, u) ∧
          state.resultState = some .success ∧ u.clock.nanos = t.clock.nanos + 1 * o.pause.nanos) ∧
      ∃ i t status u,
        exec Platform.handler (Platform.trimmed.install Platform.devCluster) (withRunning {}) =
            (.ok i, t) ∧
          exec Platform.handler (Wait.library o i) t = (.ok status, u) ∧
          status.state = .installed ∧ u.clock.nanos = t.clock.nanos + 2 * o.pause.nanos := by
  intro o
  have hInterval : 0 < o.interval.nanos := by decide
  obtain ⟨-, hCluster, hRun, hLibrary⟩ := waits_take_the_settling o hInterval
  refine ⟨hInterval, ?_, ?_, ?_⟩
  · obtain ⟨c, known, t, hCreate⟩ : ∃ c known t,
      ClusterDraft.smallDraft.create.exec Platform.handler {} { state := {} } =
        ((.ok c, known), t) := ⟨_, _, _, rfl⟩
    obtain ⟨now, u, hWait, hGood, hClock, -⟩ :=
      (hCluster _ _ _ c _ t hCreate).inTime (by decide)
    exact ⟨c, known, t, now, u, hCreate, hWait, hGood.1, hClock⟩
  · obtain ⟨r, t, hStart⟩ : ∃ r t,
      exec Platform.handler notebookJob.run notebookRead = (.ok r, t) := ⟨_, _, rfl⟩
    obtain ⟨state, u, hWait, hGood, hClock, -⟩ := (hRun _ _ _ r _ t hStart).inTime (by decide)
    exact ⟨r, t, state, u, hStart, hWait, hGood.2, hClock⟩
  · obtain ⟨i, t, hInstall⟩ : ∃ i t,
      exec Platform.handler (Platform.trimmed.install Platform.devCluster) (withRunning {}) =
        (.ok i, t) := ⟨_, _, rfl⟩
    obtain ⟨hServed, -⟩ := hLibrary _ _ i _ t hInstall rfl rfl
    obtain ⟨status, u, hWait, hGood, hClock, -⟩ := (hServed rfl).inTime (by decide)
    exact ⟨i, t, status, u, hInstall, hWait, hGood.1, hClock⟩

/-- A pause is shorter than an interval of a million million milliseconds, and a library whose reads
are refused is not waited for. -/
theorem wait_ends_early :
    (∃ c known t now u,
      let o : WaitOptions := ⟨.millis 1000000000000, .millis 10000000000000⟩
      ClusterDraft.smallDraft.create.exec Platform.handler {} { state := {} } =
          ((.ok c, known), t) ∧
        (({} : Platform).settleReads - 1) * o.interval.nanos ≤ o.timeout.nanos ∧
        exec Platform.handler (Wait.clusterState o c .running) t = (.ok now, u) ∧
        u.clock.nanos < t.clock.nanos + (({} : Platform).settleReads - 1) * o.interval.nanos) ∧
      ∃ i t e u,
        let s := withRunning (({} : Platform).injectFailure "libraries/cluster-status" 500)
        let o : WaitOptions := {}
        exec Platform.handler (Platform.trimmed.install Platform.devCluster) s = (.ok i, t) ∧
          s.state.isRunning Platform.devCluster.id = true ∧
          LibraryStatus.find? Platform.trimmed (s.state.libraryEntries Platform.devCluster.id) =
            none ∧
          s.state.settleReads * o.interval.nanos ≤ o.timeout.nanos ∧
          exec Platform.handler (Wait.library o i) t = (.error e, u) ∧ u.clock = t.clock :=
  ⟨⟨_, _, _, _, _, rfl, by decide, rfl, by decide⟩,
    ⟨_, _, _, _, rfl, rfl, rfl, by decide, rfl, rfl⟩⟩

end SparkFleet
