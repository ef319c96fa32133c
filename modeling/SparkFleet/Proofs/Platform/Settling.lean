import Mathlib.Logic.Function.Iterate
import SparkFleet.Proofs.Cluster.GuardAgrees
import SparkFleet.Proofs.Platform.Counts

/-!
# How long a change shows

A change of a cluster, and a run, come to their end after a number of reads, and nothing but a read
of the same cluster or run counts.  What one read makes of an entry is `ClusterEntry.observed` and
`observeRun`; a step lemma says that every event that does not touch the resource is such a read or
leaves the entry (`cluster_untouched`, `run_untouched`), and `Observes.after` takes this through a
history, for both alike.

The main statement `settling_is_counted` says that with a count of `n` the next `n` reads show the
change and all later ones its end, whatever else happens, and that a count only goes down where it
is positive.
-/

namespace SparkFleet

/-! ### Entries that are read -/

namespace ClusterEntry

/-- A change that was to show for `n` reads, after `k` of them. -/
def counted (record : ClusterRecord) (target : ClusterState) (n k : Nat) : ClusterEntry :=
  if k ≤ n then ⟨record, some ⟨target, n - k⟩⟩ else ⟨record.inState target, none⟩

variable (record : ClusterRecord) (target : ClusterState) (n k : Nat)

theorem observed_counted :
    (counted record target n k).observed = counted record target n (k + 1) := by
  unfold counted
  -- Reads are left; or this is the read that ends the change; or it has ended.
  obtain hLess | rfl | hMore := Nat.lt_trichotomy k n
  · obtain ⟨left, rfl⟩ : ∃ left, n = k + 1 + left := ⟨n - (k + 1), by omega⟩
    rw [if_pos (by omega), if_pos (by omega), show k + 1 + left - k = left + 1 by omega,
      show k + 1 + left - (k + 1) = left by omega]
    rfl
  · rw [if_pos (Nat.le_refl k), if_neg (by omega), Nat.sub_self]
    rfl
  · rw [if_neg (by omega), if_neg (by omega)]
    rfl

theorem observed_iterate :
    observed^[k] ⟨record, some ⟨target, n⟩⟩ = counted record target n k := by
  induction k with
  | zero => rfl
  | succ k ih => rw [Function.iterate_succ_apply', ih, observed_counted]

theorem record_counted :
    (counted record target n (k + 1)).record =
      if k < n then record else record.inState target := by
  unfold counted
  rw [apply_ite ClusterEntry.record]
  rfl

end ClusterEntry

/-- The record of a run that has ended by itself. -/
def RunRecord.succeeded (record : RunRecord) : RunRecord :=
  { record with state := ⟨.terminated, some .success, none⟩ }

namespace RunEntry

/-- The entry without what comes out of the run. -/
def progress (entry : RunEntry) : RunEntry := { entry with output := {} }

/-- A run that was to last for `n` reads, after `k` of them. -/
def counted (record : RunRecord) (n k : Nat) : RunEntry :=
  ⟨if k ≤ n then record else record.succeeded, {}, n - k⟩

theorem progress_observeRun (entry : RunEntry) :
    (Platform.observeRun entry).progress = Platform.observeRun entry.progress := by
  unfold Platform.observeRun progress
  dsimp only
  split
  · rfl
  · split <;> rfl

variable {record : RunRecord} (hRuns : record.state.lifeCycleState.isTerminal = false) (n k : Nat)

include hRuns

theorem observeRun_counted :
    Platform.observeRun (counted record n k) = counted record n (k + 1) := by
  unfold Platform.observeRun counted
  -- The same three cases, where a run that has ended is left alone by its state.
  obtain hLess | rfl | hMore := Nat.lt_trichotomy k n
  · obtain ⟨left, rfl⟩ : ∃ left, n = k + 1 + left := ⟨n - (k + 1), by omega⟩
    rw [if_pos (show k ≤ k + 1 + left by omega), if_pos (show k + 1 ≤ k + 1 + left by omega),
      show k + 1 + left - k = left + 1 by omega, show k + 1 + left - (k + 1) = left by omega]
    dsimp only
    rw [hRuns]
    rfl
  · rw [if_pos (Nat.le_refl k), if_neg (show ¬k + 1 ≤ k by omega), Nat.sub_self,
      show k - (k + 1) = 0 by omega]
    dsimp only
    rw [hRuns]
    rfl
  · rw [if_neg (show ¬k ≤ n by omega), if_neg (show ¬k + 1 ≤ n by omega),
      show n - k = 0 by omega, show n - (k + 1) = 0 by omega]
    rfl

theorem observeRun_iterate :
    Platform.observeRun^[k] ⟨record, {}, n⟩ = counted record n k := by
  induction k with
  | zero => rfl
  | succ k ih => rw [Function.iterate_succ_apply', ih, observeRun_counted hRuns]

end RunEntry

namespace Platform

variable {p q : Platform}

/-! ### A resource that is observed -/

section

variable {ε ρ : Type}

/-- An event is a read of a resource, which shows the entry that it leaves, or it shows nothing and
leaves the entry. -/
def Observes (view : Platform → Option ε) (observe : ε → ε) (shows : ε → ρ)
    (give : Platform → Event → List ρ) (p : Platform) (e : Event) : Prop :=
  ∀ entry, view p = some entry →
    (give p e = [] ∧ view (e.apply p) = some entry) ∨
      (give p e = [shows (observe entry)] ∧ view (e.apply p) = some (observe entry))

variable {view : Platform → Option ε} {observe : ε → ε} {shows : ε → ρ}
  {give : Platform → Event → List ρ}

/-- After a history the entry has been observed once for each read, and the reads show this. -/
theorem Observes.after {history : List Event} {entry : ε}
    (hObserves : Throughout (Observes view observe shows give) p history)
    (hView : view p = some entry) :
    view (p.after history) = some (observe^[(gathered give p history).length] entry) ∧
      ∀ i (hi : i < (gathered give p history).length),
        (gathered give p history)[i] = shows (observe^[i + 1] entry) := by
  induction history generalizing p entry with
  | nil => exact ⟨hView, fun i hi => absurd hi (Nat.not_lt_zero i)⟩
  | cons e history ih =>
    obtain ⟨hStep, hRest⟩ := hObserves
    obtain ⟨hGive, hLeft⟩ | ⟨hGive, hRead⟩ := hStep entry hView
    · -- The event is no read, so the entry and the number of reads stay.
      simp only [gathered, hGive, List.nil_append]
      exact ih hRest hLeft
    · obtain ⟨hAfter, hShown⟩ := ih hRest hRead
      simp only [gathered, hGive, List.singleton_append, List.length_cons]
      refine ⟨hAfter, fun i hi => ?_⟩
      cases i with
      | zero => rfl
      | succ i => exact hShown i (Nat.lt_of_succ_lt_succ hi)

end

/-! ### Clusters -/

section

variable {id : ClusterId}

/-- What a read of the cluster shows that is answered. -/
def Event.clusterShown (id : ClusterId) (p : Platform) : Event → List ClusterRecord
  | .call (.clusters (.get other)) =>
    if other = id then (p.serve (.clusters (.get other))).1.toOption.toList else []
  | _ => []

end

end Platform

/-- The change of a cluster that a call begins: the cluster, what it shows meanwhile and its state
at the end. -/
def Call.change? : (c : Call) → c.Answer → Option (ClusterId × ClusterState × ClusterState)
  | .clusters (.create _), id => some (id, .pending, .running)
  | .clusters (.resize r), _ => some (r.clusterId, .resizing, .running)
  | .clusters (.restart id), _ => some (id, .restarting, .running)
  | .clusters (.terminate id), _ => some (id, .terminating, .terminated)
  | _, _ => none

namespace Platform

variable {p q : Platform} {id : ClusterId}

/-- An accepted call that changes the life of the cluster, or something that is done to it from
outside. -/
def Event.TouchesCluster (id : ClusterId) (p : Platform) : Event → Prop
  | .call c => ∃ a, (p.serve c).1 = .ok a ∧
    ((∃ shown target, c.change? a = some (id, shown, target)) ∨
      c = .clusters (.permanentDelete id))
  | .settleCluster other | .failCluster other => other = id
  | .putCluster record => record.clusterId = id
  | .addRunningCluster _ _ => p.nextClusterId = id
  | _ => False

/-- A read of a cluster that is not refused shows the entry that it leaves. -/
theorem serve_getCluster {entry : ClusterEntry} (hEntry : p.clusters.get? id = some entry)
    (hServed : p.failure? "clusters/get" = none) :
    ∃ q, p.serve (.clusters (.get id)) = (.ok entry.observed.record, q) ∧
      q.clusters.get? id = some entry.observed := by
  have hCounted : (p.count "clusters/get").clusters.get? id = some entry := hEntry
  have hAfter := get?_observeCluster hCounted
  refine ⟨_, serve_of_ok hServed ?_, hAfter⟩
  change (p.count "clusters/get").readCluster id = _
  simp only [readCluster, findCluster_eq_ok_iff.2 hCounted, ok_bind, findCluster_eq_ok_iff.2 hAfter]
  rfl

/-- What an accepted call that begins a change answers where it creates the cluster. -/
theorem id_of_serve_create {spec : ClusterSpec} {a : ClusterId}
    (hServe : p.serve (.clusters (.create spec)) = (.ok a, q)) : a = p.nextClusterId :=
  (createCluster_eq_ok (serve_eq_ok hServe)).1

/-- A call that does not touch a cluster leaves it, unless it reads it. -/
theorem get?_call_untouched {c : Call} (hUntouched : ¬(Event.call c).TouchesCluster id p)
    (hRead : c ≠ .clusters (.get id)) :
    (p.serve c).2.clusters.get? id = p.clusters.get? id := by
  obtain ⟨a, q, hServe, -⟩ | ⟨cause, hServe, -⟩ := p.serve_cases c
  · have hTouches (h : (∃ shown target, c.change? a = some (id, shown, target)) ∨
        c = .clusters (.permanentDelete id)) : False :=
      hUntouched ⟨a, congrArg Prod.fst hServe, h⟩
    have hStep := p.clusterStep_call c id
    -- All that a call can do to the cluster is touching it or reading it.
    generalize hBefore : p.clusters.get? id = before at hStep ⊢
    generalize (p.serve c).2.clusters.get? id = after at hStep ⊢
    cases hStep with
    | same => rfl
    | wait | finish => exact absurd rfl hRead
    | create spec _ hId =>
      -- The call creates this very cluster, which touches it.
      obtain rfl : a = id := (id_of_serve_create hServe).trans hId.symm
      exact (hTouches (.inl ⟨_, _, rfl⟩)).elim
    | resize r hId => exact (hTouches (.inl ⟨_, _, by rw [← hId]; rfl⟩)).elim
    | restart | terminate => exact (hTouches (.inl ⟨_, _, rfl⟩)).elim
    | permanentDelete => exact (hTouches (.inr rfl)).elim
  · rw [hServe]
    rfl

/-- What is done from outside leaves a cluster that it does not touch. -/
theorem get?_hook_untouched {e : Event} (hUntouched : ¬e.TouchesCluster id p)
    (hHook : ∀ c, e ≠ .call c) : (e.apply p).clusters.get? id = p.clusters.get? id := by
  have hStep := p.clusterStep_apply e id
  generalize p.clusters.get? id = before, (e.apply p).clusters.get? id = after at hStep ⊢
  cases hStep with
  | same => rfl
  | settle | fail => exact absurd rfl hUntouched
  | putCluster _ _ hId => exact absurd hId hUntouched
  | addRunningCluster _ _ _ hId => exact absurd hId.symm hUntouched
  | wait | finish | create | resize | restart | terminate | permanentDelete =>
    exact absurd rfl (hHook _)

/-- An event that does not touch a cluster reads it, or leaves it as it is. -/
theorem cluster_untouched {e : Event} (hUntouched : ¬e.TouchesCluster id p) :
    Observes (·.clusters.get? id) ClusterEntry.observed (·.record) (Event.clusterShown id) p e := by
  intro entry hEntry
  by_cases hRead : e = .call (.clusters (.get id))
  · subst hRead
    cases hFailure : p.failure? "clusters/get" with
    | none =>
      obtain ⟨q, hServe, hAfter⟩ := serve_getCluster hEntry hFailure
      refine .inr ⟨?_, ?_⟩
      · simp only [Event.clusterShown, hServe]
        rfl
      · simp only [Event.apply, hServe]
        exact hAfter
    | some cause =>
      -- A read that is refused shows nothing and does not count.
      have hServe : p.serve (.clusters (.get id)) = (.error cause, p.count "clusters/get") :=
        serve_of_injected hFailure
      refine .inl ⟨?_, ?_⟩
      · simp only [Event.clusterShown, hServe]
        rfl
      · simp only [Event.apply, hServe]
        exact hEntry
  · refine .inl ⟨?_, ?_⟩
    · unfold Event.clusterShown
      split
      · next other =>
        exact if_neg fun hOther : other = id => hRead (by rw [hOther])
      · rfl
    · refine Eq.trans ?_ hEntry
      by_cases hCall : ∃ c, e = .call c
      · obtain ⟨c, rfl⟩ := hCall
        exact get?_call_untouched hUntouched fun hGet => hRead (congrArg Event.call hGet)
      · exact get?_hook_untouched hUntouched fun c hIs => hCall ⟨c, hIs⟩

/-- A change that has begun is to show for as many reads as the count in force says. -/
theorem begins_of_accepted {c : Call} {a : c.Answer} {shown target : ClusterState}
    (hServe : p.serve c = (.ok a, q)) (hChange : c.change? a = some (id, shown, target)) :
    ∃ record, record.state = shown ∧
      q.clusters.get? id = some ⟨record, some ⟨target, p.settleReads⟩⟩ := by
  have hPerform := serve_eq_ok hServe
  have hGet {other : ClusterId} {entry : ClusterEntry} :
      (p.clusters.insert other entry).get? other = some entry := by
    rw [SortedMap.get?_insert, if_pos rfl]
  cases c with
  | clusters call =>
    cases call with
    | create spec =>
      cases hChange
      obtain ⟨rfl, rfl⟩ := createCluster_eq_ok hPerform
      exact ⟨_, rfl, hGet⟩
    | resize r =>
      cases hChange
      obtain ⟨entry, -, -, rfl⟩ := resizeCluster_eq_ok hPerform
      exact ⟨_, rfl, hGet⟩
    | restart other =>
      cases hChange
      have hBegun : (p.count "clusters/restart").changeCluster id (· == .running) .restarting
          .running = .ok (a, q) := hPerform
      obtain ⟨entry, -, -, rfl⟩ := changeCluster_eq_ok hBegun
      exact ⟨_, rfl, hGet⟩
    | terminate other =>
      cases hChange
      have hBegun : (p.count "clusters/delete").changeCluster id (!·.isTerminal) .terminating
          .terminated = .ok (a, q) := hPerform
      obtain ⟨entry, -, -, rfl⟩ := changeCluster_eq_ok hBegun
      exact ⟨_, rfl, hGet⟩
    | _ => cases hChange
  | _ => cases hChange

/-! ### Runs -/

section

variable {id : RunId}

/-- What a read of the run shows that is answered. -/
def Event.runShown (id : RunId) (p : Platform) : Event → List RunRecord
  | .call (.jobs (.getRun other)) =>
    if other = id then (p.serve (.jobs (.getRun other))).1.toOption.toList else []
  | _ => []

/-- The event puts the run in place or ends it. -/
def Event.TouchesRun (id : RunId) (p : Platform) : Event → Prop
  | .call (.jobs (.runNow request)) =>
    ∃ started, (p.serve (.jobs (.runNow request))).1 = .ok started ∧ started.runId = id
  | .putRun record => record.runId = id
  | .finishRun other _ => other = id
  | _ => False

/-- A read of a run that is not refused shows the entry that it leaves. -/
theorem serve_getRun {entry : RunEntry} (hEntry : p.runs.get? id = some entry)
    (hServed : p.failure? "jobs/runs/get" = none) :
    ∃ q, p.serve (.jobs (.getRun id)) = (.ok (observeRun entry).record, q) ∧
      q.runs.get? id = some (observeRun entry) := by
  have hCounted : (p.count "jobs/runs/get").runs.get? id = some entry := hEntry
  have hRead : (p.count "jobs/runs/get").readRun id = .ok ((observeRun entry).record,
      { p.count "jobs/runs/get" with
        runs := (p.count "jobs/runs/get").runs.insert id (observeRun entry) }) := by
    simp only [readRun, findRun_eq_ok_iff.2 hCounted, ok_bind]
    rfl
  exact ⟨_, serve_of_ok hServed hRead, (SortedMap.get?_insert ..).trans (if_pos rfl)⟩

/-- What an event that neither touches nor reads a run leaves of it. -/
theorem onRun_untouched {e : Event} (hUntouched : ¬e.TouchesRun id p)
    (hRead : e ≠ .call (.jobs (.getRun id))) (run : Option RunEntry) :
    (e.onRun id p run).map RunEntry.progress = run.map RunEntry.progress := by
  cases e with
  | call c =>
    cases c with
    | jobs call =>
      cases call with
      | runNow request =>
        simp only [Event.onRun]
        split
        · next started job hServe _ =>
          rw [if_neg fun hId => hUntouched ⟨started, hServe, hId⟩]
        · rfl
      | getRun other => exact congrArg _ (if_neg fun h => hRead (by rw [h.1]))
      | create | get | getRunOutput | delete => rfl
    | clusters | libraries | workspace | files => rfl
  | putRun record => exact congrArg _ (if_neg hUntouched)
  | setRunOutput other output =>
    -- What comes out of the run may change, and is not part of its progress.
    simp only [Event.onRun]
    split
    · exact Option.map_map ..
    · rfl
  | finishRun other result => exact congrArg _ (if_neg hUntouched)
  | _ => rfl

/-- An event that does not touch a run reads it, or leaves it apart from what comes out of it. -/
theorem run_untouched {e : Event} (hUntouched : ¬e.TouchesRun id p) :
    Observes (fun p => (p.runs.get? id).map RunEntry.progress) observeRun (·.record)
      (Event.runShown id) p e := by
  intro entry hEntry
  dsimp only at hEntry ⊢
  rw [run_apply]
  obtain ⟨run, hRun, rfl⟩ := Option.map_eq_some_iff.1 hEntry
  rw [hRun]
  by_cases hRead : e = .call (.jobs (.getRun id))
  · subst hRead
    cases hFailure : p.failure? "jobs/runs/get" with
    | none =>
      -- Reading and leaving out the output can be done in either order.
      obtain ⟨q, hServe, -⟩ := serve_getRun hRun hFailure
      refine .inr ⟨?_, ?_⟩
      · simp only [Event.runShown, hServe, ← RunEntry.progress_observeRun]
        rfl
      · simp only [Event.onRun, hServe, ← RunEntry.progress_observeRun]
        rfl
    | some cause =>
      have hServe : p.serve (.jobs (.getRun id)) = (.error cause, p.count "jobs/runs/get") :=
        serve_of_injected hFailure
      refine .inl ⟨?_, ?_⟩
      · simp only [Event.runShown, hServe]
        rfl
      · simp only [Event.onRun, hServe]
        rfl
  · have hOther {other : RunId} (hIs : e = .call (.jobs (.getRun other))) : other ≠ id := by
      rintro rfl
      exact hRead hIs
    refine .inl ⟨?_, ?_⟩
    · unfold Event.runShown
      split
      · exact if_neg (hOther rfl)
      · rfl
    · exact onRun_untouched hUntouched hRead _

/-- A run that has been started is to last for as many reads as the count in force says. -/
theorem run_of_started {request : RunRequest} {started : StartedRun}
    (hServe : p.serve (.jobs (.runNow request)) = (.ok started, q)) :
    ∃ record : RunRecord, record.state.lifeCycleState = .pending ∧
      record.runId = started.runId ∧
      q.runs.get? started.runId = some ⟨record, {}, p.settleReads⟩ := by
  obtain ⟨job, number, -, hId, rfl⟩ := startRun_eq_ok (serve_eq_ok hServe)
  rw [hId]
  exact ⟨_, rfl, rfl, (SortedMap.get?_insert ..).trans (if_pos rfl)⟩

end

/-! ### Settling -/

/-- The reads of a cluster in a history that are answered. -/
def clusterReads (p : Platform) (id : ClusterId) (history : List Event) : List ClusterRecord :=
  gathered (Event.clusterShown id) p history

/-- The reads of a run in a history that are answered. -/
def runReads (p : Platform) (id : RunId) (history : List Event) : List RunRecord :=
  gathered (Event.runShown id) p history

/-- A change of a cluster shows for `n` reads of the history, and its end at all later ones. -/
structure ClusterSettles (p : Platform) (id : ClusterId) (target : ClusterState) (n : Nat)
    (record : ClusterRecord) (history : List Event) : Prop where
  shown : ∀ i (hi : i < (p.clusterReads id history).length),
    (p.clusterReads id history)[i] = if i < n then record else record.inState target
  /-- Each read is counted, and nothing else. -/
  left : (p.after history).clusters.get? id =
    some (if (p.clusterReads id history).length ≤ n then
        ⟨record, some ⟨target, n - (p.clusterReads id history).length⟩⟩
      else ⟨record.inState target, none⟩)
  /-- The next read is answered likewise if it is served. -/
  next : (p.after history).failure? "clusters/get" = none →
    ((p.after history).serve (.clusters (.get id))).1 =
      .ok (if (p.clusterReads id history).length < n then record else record.inState target)

/-- A run lasts for `n` reads of the history, and has succeeded at all later ones. -/
structure RunSettles (p : Platform) (id : RunId) (n : Nat) (record : RunRecord)
    (history : List Event) : Prop where
  shown : ∀ i (hi : i < (p.runReads id history).length),
    (p.runReads id history)[i] = if i < n then record else record.succeeded
  /-- Each read is counted, and nothing else. -/
  left : ((p.after history).runs.get? id).map RunEntry.progress =
    some ⟨if (p.runReads id history).length ≤ n then record else record.succeeded, {},
      n - (p.runReads id history).length⟩
  /-- The next read is answered likewise if it is served. -/
  next : (p.after history).failure? "jobs/runs/get" = none →
    ((p.after history).serve (.jobs (.getRun id))).1 =
      .ok (if (p.runReads id history).length < n then record else record.succeeded)

theorem clusterSettles {id : ClusterId} {target : ClusterState} {n : Nat} {record : ClusterRecord}
    (hEntry : p.clusters.get? id = some ⟨record, some ⟨target, n⟩⟩) {history : List Event}
    (hUntouched : Throughout (fun r e => ¬e.TouchesCluster id r) p history) :
    p.ClusterSettles id target n record history := by
  obtain ⟨hLeft, hShown⟩ :=
    Observes.after (hUntouched.mono fun _ _ => cluster_untouched) hEntry
  simp only [ClusterEntry.observed_iterate, ClusterEntry.record_counted] at hLeft hShown
  refine ⟨hShown, hLeft, fun hServed => ?_⟩
  obtain ⟨q, hServe, -⟩ := serve_getCluster hLeft hServed
  rw [hServe, ClusterEntry.observed_counted, ClusterEntry.record_counted]
  rfl

theorem runSettles {id : RunId} {n : Nat} {record : RunRecord}
    (hRuns : record.state.lifeCycleState = .pending)
    (hEntry : p.runs.get? id = some ⟨record, {}, n⟩) {history : List Event}
    (hUntouched : Throughout (fun r e => ¬e.TouchesRun id r) p history) :
    p.RunSettles id n record history := by
  have hNotEnded : record.state.lifeCycleState.isTerminal = false := by
    rw [hRuns]
    rfl
  obtain ⟨hLeft, hShown⟩ := Observes.after (hUntouched.mono fun _ _ => run_untouched)
    (congrArg (Option.map RunEntry.progress) hEntry)
  have hIterate (k : Nat) : observeRun^[k] (RunEntry.progress ⟨record, {}, n⟩) =
      RunEntry.counted record n k := RunEntry.observeRun_iterate hNotEnded n k
  simp only [hIterate] at hLeft hShown
  refine ⟨hShown, hLeft, fun hServed => ?_⟩
  obtain ⟨entry, hAfter, hProgress⟩ := Option.map_eq_some_iff.1 hLeft
  obtain ⟨q, hServe, -⟩ := serve_getRun hAfter hServed
  have hRecord : (observeRun entry).record = (observeRun entry.progress).record := by
    rw [← RunEntry.progress_observeRun]
    rfl
  rw [hServe, hRecord, hProgress, RunEntry.observeRun_counted hNotEnded]
  rfl

/-- A change of a cluster that a call begins, and a run that is started, show for as many reads as
the count in force says, and their end shows at all later reads, whatever else happens to the
platform; and no count is taken below zero. -/
theorem settling_is_counted (p : Platform) :
    (∀ (c : Call) (a : c.Answer) (q : Platform) (id : ClusterId) (shown target : ClusterState),
      p.serve c = (.ok a, q) → c.change? a = some (id, shown, target) →
        ∃ record : ClusterRecord, record.state = shown ∧
          ∀ history, Throughout (fun r e => ¬e.TouchesCluster id r) q history →
            q.ClusterSettles id target p.settleReads record history) ∧
      (∀ (request : RunRequest) (started : StartedRun) (q : Platform),
        p.serve (.jobs (.runNow request)) = (.ok started, q) →
          ∃ record : RunRecord, record.state.lifeCycleState = .pending ∧
            ∀ history, Throughout (fun r e => ¬e.TouchesRun started.runId r) q history →
              q.RunSettles started.runId p.settleReads record history) ∧
      ∀ e : Event, e.CountsDown p := by
  refine ⟨?_, ?_, countsDown⟩
  · intro c a q id shown target hServe hChange
    obtain ⟨record, hState, hEntry⟩ := begins_of_accepted hServe hChange
    exact ⟨record, hState, fun history hUntouched => clusterSettles hEntry hUntouched⟩
  · intro request started q hServe
    obtain ⟨record, hState, -, hEntry⟩ := run_of_started hServe
    exact ⟨record, hState, fun history hUntouched => runSettles hState hEntry hUntouched⟩

/-- A cluster that is created with the count at first and read four times; meanwhile the clusters
are listed, and the count in force is another one. -/
def readWhileChanging (id : ClusterId) : List Event := [
  .call (.clusters (.get id)), .settleReads 7, .call (.clusters .list),
  .call (.clusters (.get id)), .call (.clusters (.get id)), .call (.clusters (.get id))]

/-- The specification of a cluster. -/
def smallSpec : ClusterSpec where
  sparkVersion := some firstSparkVersion
  nodeTypeId := some firstNodeType
  numWorkers := some 1

theorem settling_is_counted_created :
    ∃ id q record, ({} : Platform).serve (.clusters (.create smallSpec)) = (.ok id, q) ∧
      q.ClusterSettles id .running 2 record (readWhileChanging id) ∧
      (q.clusterReads id (readWhileChanging id)).map (·.state) =
        [.pending, .pending, .running, .running] := by
  obtain ⟨id, q, hServe, hReads⟩ : ∃ id q,
      ({} : Platform).serve (.clusters (.create smallSpec)) = (.ok id, q) ∧
        (q.clusterReads id (readWhileChanging id)).map (·.state) =
          [.pending, .pending, .running, .running] := ⟨_, _, rfl, rfl⟩
  obtain ⟨record, -, hSettles⟩ :=
    (settling_is_counted {}).1 _ id q id .pending .running hServe rfl
  have hUntouched : Throughout (fun r e => ¬e.TouchesCluster id r) q (readWhileChanging id) := by
    simp [Throughout, readWhileChanging, Event.TouchesCluster, Call.change?]
  exact ⟨id, q, record, hServe, hSettles _ hUntouched, hReads⟩

end Platform

end SparkFleet
