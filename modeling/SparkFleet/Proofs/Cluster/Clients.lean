import Mathlib.Logic.Function.Basic
import SparkFleet.Cluster.Handle
import SparkFleet.Proofs.Calls
import SparkFleet.Proofs.Cluster.Contention

/-!
# Clients that share clusters

Any number of clients hold handles on the clusters of one platform.  What a client still has to do
of an operation is a program, of which one call is made whenever it is the client's turn, so that
anything may happen between the read of an operation and the call that follows it.

The main statement `interleaved_operations` holds of every schedule: a permanent delete that comes
after its read removes only a cluster that has ended; of the resizes and restarts that come while a
cluster is running one is accepted, and those that come while it is not running are refused; and the
size that is kept is that of the last accepted resize.
-/

namespace SparkFleet

namespace Program

variable {α : Type} {ok : Call → Prop}

/-- The call that a program makes next. -/
def next? : Program α → Option Call
  | .call c _ => some c
  | _ => none

theorem CallsOnly.next {program : Program α} (h : program.CallsOnly ok) {c : Call}
    (hNext : program.next? = some c) : ok c := by
  cases program with
  | call c' next =>
    cases hNext
    exact h.1
  | done | pause | readLocal => cases hNext

end Program

/-! ### Operations of clients -/

/-- An operation on a cluster that a client asks for. -/
inductive ClientOperation where
  | resize (size : ClusterSize)
  | restart
  | terminate
  | permanentDelete

namespace ClientOperation

/-- What an operation does with a handle; its result is of no concern here. -/
def program (c : Cluster) : ClientOperation → Program Unit
  | .resize size => Functor.discard (c.resize size).run
  | .restart => Functor.discard c.restart.run
  | .terminate => Functor.discard c.terminate.run
  | .permanentDelete => Functor.discard c.permanentDelete.run

/-- A call other than a permanent delete. -/
def Sparing (c : Call) : Prop := ∀ id, c ≠ .clusters (.permanentDelete id)

theorem callsOnly_read (c : Cluster) : c.read.CallsOnly Sparing :=
  .within (Action.callsOnly_ask fun _ => nofun) .cluster

theorem callsOnly_check (c : Cluster) (operation : ClusterOperation) :
    (c.check operation).CallsOnly Sparing :=
  .bind (.bind (callsOnly_read c) fun _ => trivial) fun _ => Action.callsOnly_ofExcept _

/-- No other operation makes a permanent delete. -/
theorem callsOnly_program (c : Cluster) {operation : ClientOperation}
    (hOther : operation ≠ .permanentDelete) : (operation.program c).CallsOnly Sparing := by
  cases operation with
  | resize size =>
    refine Program.CallsOnly.bind ?_ fun _ => trivial
    refine Action.CallsOnly.within (.bind (Action.callsOnly_ofExcept _) fun _ => ?_) .cluster
    refine .bind (callsOnly_check c .resize) fun _ => ?_
    refine .bind (Action.callsOnly_ask fun _ => nofun) fun _ => ?_
    exact .bind (callsOnly_read c) fun _ => trivial
  | restart =>
    refine Program.CallsOnly.bind ?_ fun _ => trivial
    refine Action.CallsOnly.within (.bind (callsOnly_check c .restart) fun _ => ?_) .cluster
    exact Action.callsOnly_ask fun _ => nofun
  | terminate =>
    refine Program.CallsOnly.bind ?_ fun _ => trivial
    refine Action.CallsOnly.within (.bind (callsOnly_check c .terminate) fun _ => ?_) .cluster
    exact Action.callsOnly_ask fun _ => nofun
  | permanentDelete => exact absurd rfl hOther

/-- What remains of a permanent delete after its read. -/
def afterRead (id : ClusterId) : Except ApiError ClusterRecord → Program Unit
  | .ok record =>
    if record.state.isTerminal then
      .call (.clusters (.permanentDelete id)) fun _ => .done ()
    else
      .done ()
  | .error _ => .done ()

/-- A permanent delete reads the cluster and is sent only if it has ended. -/
theorem program_permanentDelete (c : Cluster) :
    permanentDelete.program c = .call (.clusters (.get c.id)) (afterRead c.id) := by
  refine congrArg (Program.call _) (funext fun answer => ?_)
  cases answer with
  | error e => rfl
  | ok record =>
    -- The check after the read is the same test that decides whether the call is sent.
    change Functor.discard (Action.within .cluster (do
      .ofExcept (ClusterOperation.permanentDelete.validate c.id record.state)
      .ask (.clusters (.permanentDelete c.id)))).run = _
    unfold ClusterOperation.validate afterRead
    rw [ClusterOperation.isAllowed]
    simp only [ClusterOperation.target]
    cases record.state.isTerminal <;> rfl

end ClientOperation

/-! ### Clients -/

open Platform (Event)

/-- A platform and what each client still has to do of its operation. -/
structure Shared (ι : Type) where
  platform : Platform
  remaining : ι → Program Unit

/-- What happens next. -/
inductive Step (ι : Type) where
  /-- A client begins an operation; one that it has not finished is given up. -/
  | begin (client : ι) (handle : Cluster) (operation : ClientOperation)
  /-- A client makes the next call of its operation, if there is one. -/
  | proceed (client : ι)
  /-- Something else happens to the platform: any other call, or something from outside. -/
  | event (e : Event)

namespace Shared

variable {ι : Type} [DecidableEq ι] {σ : Shared ι}

/-- The platform and the clients after a step. -/
def step (σ : Shared ι) : Step ι → Shared ι
  | .begin i handle operation =>
    { σ with remaining := Function.update σ.remaining i (operation.program handle) }
  | .proceed i =>
    match σ.remaining i with
    | .call c next =>
      ⟨(σ.platform.serve c).2, Function.update σ.remaining i (next (σ.platform.serve c).1)⟩
    | _ => σ
  | .event e => { σ with platform := e.apply σ.platform }

/-- The platform and the clients after a schedule. -/
def after (σ : Shared ι) (schedule : List (Step ι)) : Shared ι := schedule.foldl step σ

/-- What a step does to the platform. -/
def event? (σ : Shared ι) : Step ι → Option Event
  | .begin _ _ _ => none
  | .proceed i => (σ.remaining i).next?.map .call
  | .event e => some e

/-- What happens to the platform in a schedule, in order. -/
def history : Shared ι → List (Step ι) → List Event
  | _, [] => []
  | σ, s :: rest => (σ.event? s).toList ++ (σ.step s).history rest

theorem platform_step (σ : Shared ι) (s : Step ι) :
    (σ.step s).platform = σ.platform.after (σ.event? s).toList := by
  cases s with
  | begin | event => rfl
  | proceed i =>
    simp only [step, event?]
    cases σ.remaining i <;> rfl

/-- The platform after a schedule is the one after the history of the schedule. -/
theorem platform_after (σ : Shared ι) (schedule : List (Step ι)) :
    (σ.after schedule).platform = σ.platform.after (σ.history schedule) := by
  induction schedule generalizing σ with
  | nil => rfl
  | cons s rest ih =>
    rw [history, Platform.after_append, ← platform_step]
    exact ih (σ.step s)

/-- Only what is done from outside puts clusters in place. -/
theorem putCluster_notMem_history {schedule : List (Step ι)} {record : ClusterRecord}
    (hPut : .event (.putCluster record) ∉ schedule) : .putCluster record ∉ σ.history schedule := by
  induction schedule generalizing σ with
  | nil => exact List.not_mem_nil
  | cons s rest ih =>
    obtain ⟨hFirst, hRest⟩ := not_or.1 (mt List.mem_cons.2 hPut)
    rw [history, List.mem_append]
    refine not_or.2 ⟨fun hMem => ?_, ih hRest⟩
    cases s with
    | begin => cases hMem
    | proceed i =>
      obtain ⟨c, -, hCall⟩ := Option.map_eq_some_iff.1 (Option.mem_toList.1 hMem)
      cases hCall
    | event e =>
      cases Option.mem_toList.1 hMem
      exact hFirst rfl

/-! ### Permanent deletes -/

/-- What remains of an operation is safe on a platform: it makes no permanent delete, or is a whole
one, or makes one of a cluster that has ended. -/
inductive Safe (p : Platform) : Program Unit → Prop where
  | sparing {program : Program Unit} (h : program.CallsOnly ClientOperation.Sparing) :
      Safe p program
  | whole (c : Cluster) : Safe p (ClientOperation.permanentDelete.program c)
  | guarded {program : Program Unit} {id : ClusterId} (hEnded : p.Ended id)
      (h : program.CallsOnly (· = .clusters (.permanentDelete id))) : Safe p program

/-- What remains of a permanent delete after its read is safe: the cluster has ended then. -/
theorem Safe.afterRead {p q : Platform} {id : ClusterId} {answer : Except ApiError ClusterRecord}
    (hServe : p.serve (.clusters (.get id)) = (answer, q)) (hUnclaimed : q.Unclaimed) :
    Safe q (ClientOperation.afterRead id answer) := by
  cases answer with
  | error e => exact .sparing trivial
  | ok record =>
    have hState := Platform.clusterState?_read hServe
    obtain ⟨entry, hGet, -⟩ := Option.map_eq_some_iff.1 hState
    rw [ClientOperation.afterRead]
    split
    · -- The read has shown the end of the cluster, and its identifier is not given again: both
      -- last.
      next hTerminal =>
      refine .guarded ⟨fun state hNow => ?_, hUnclaimed hGet⟩ ⟨rfl, fun _ => trivial⟩
      rwa [← Option.some.inj (hState.symm.trans hNow)]
    · exact .sparing trivial

/-- What happens to the platform leaves the operations of clients safe. -/
theorem Safe.apply {p : Platform} {program : Program Unit} (hSafe : Safe p program)
    (hReach : p.Reachable) {e : Event} (hPut : ∀ record, e ≠ .putCluster record) :
    Safe (e.apply p) program := by
  cases hSafe with
  | sparing h => exact .sparing h
  | whole c => exact .whole c
  | guarded hEnded h => exact .guarded (hEnded.apply hReach hPut) h

/-- A safe operation stays safe when its next call is answered. -/
theorem Safe.proceed {p : Platform} {c : Call} {next : Except ApiError c.Answer → Program Unit}
    (hSafe : Safe p (.call c next)) (hReach : p.Reachable) (hUnclaimed : p.Unclaimed) :
    Safe (p.serve c).2 (next (p.serve c).1) := by
  have hNoPut (record : ClusterRecord) : Event.call c ≠ .putCluster record := nofun
  generalize hProgram : Program.call c next = program at hSafe
  cases hSafe with
  | sparing h =>
    subst hProgram
    exact .sparing (h.2 _)
  | whole handle =>
    -- The call was the read, and what is safe from here on is decided by its answer.
    rw [ClientOperation.program_permanentDelete] at hProgram
    cases hProgram
    exact .afterRead rfl (hUnclaimed.apply (.call _) fun _ => nofun)
  | guarded hEnded h =>
    subst hProgram
    exact .guarded (hEnded.apply (e := .call c) hReach hNoPut) (h.2 _)

/-- The clients' operations are safe, on a platform that can be reached and where no identifier that
is still to be given is claimed. -/
structure AllSafe (σ : Shared ι) : Prop where
  reachable : σ.platform.Reachable
  unclaimed : σ.platform.Unclaimed
  safe : ∀ i, Safe σ.platform (σ.remaining i)

theorem AllSafe.step (hSafe : σ.AllSafe) (s : Step ι)
    (hPut : ∀ record, s ≠ .event (.putCluster record)) : (σ.step s).AllSafe := by
  obtain ⟨hReach, hUnclaimed, hAll⟩ := hSafe
  cases s with
  | begin i handle operation =>
    refine ⟨hReach, hUnclaimed, fun j => ?_⟩
    by_cases hj : j = i
    · subst hj
      simp only [Shared.step, Function.update_self]
      -- Only a permanent delete makes the call that can be unsafe, and it begins with its read.
      by_cases hDelete : operation = .permanentDelete
      · subst hDelete
        exact .whole handle
      · exact .sparing (ClientOperation.callsOnly_program handle hDelete)
    · simp only [Shared.step, Function.update_of_ne hj]
      exact hAll j
  | proceed i =>
    have hMine := hAll i
    simp only [Shared.step]
    cases hRemaining : σ.remaining i with
    | call c next =>
      rw [hRemaining] at hMine
      refine ⟨hReach.after [.call c], hUnclaimed.apply (.call c) fun _ => nofun, fun j => ?_⟩
      by_cases hj : j = i
      · subst hj
        simp only [Function.update_self]
        exact hMine.proceed hReach hUnclaimed
      · -- The other clients only see that something has happened to the platform.
        simp only [Function.update_of_ne hj]
        exact (hAll j).apply (e := .call c) hReach fun _ => nofun
    | done | pause | readLocal => exact ⟨hReach, hUnclaimed, hAll⟩
  | event e =>
    have hNoPut (record : ClusterRecord) : e ≠ .putCluster record :=
      fun h => hPut record (congrArg Step.event h)
    exact ⟨hReach.after [e], hUnclaimed.apply e fun record h => absurd h (hNoPut record),
      fun j => (hAll j).apply hReach hNoPut⟩

theorem AllSafe.after (hSafe : σ.AllSafe) {schedule : List (Step ι)}
    (hPut : ∀ record, .event (.putCluster record) ∉ schedule) : (σ.after schedule).AllSafe := by
  induction schedule generalizing σ with
  | nil => exact hSafe
  | cons s rest ih =>
    refine ih (hSafe.step s ?_) fun record hMem => hPut record (List.mem_cons_of_mem _ hMem)
    rintro record rfl
    exact hPut record List.mem_cons_self

omit [DecidableEq ι] in
/-- A permanent delete that a client makes next is of a cluster that has ended or is gone. -/
theorem AllSafe.ended (hSafe : σ.AllSafe) {i : ι} {id : ClusterId}
    (hNext : (σ.remaining i).next? = some (.clusters (.permanentDelete id))) :
    σ.platform.Ended id := by
  have hMine := hSafe.safe i
  generalize σ.remaining i = program at hMine hNext
  cases hMine with
  | sparing h => exact absurd rfl (h.next hNext id)
  | whole c =>
    -- A whole operation has its read before it, so it is not the one that deletes next.
    rw [ClientOperation.program_permanentDelete] at hNext
    cases hNext
  | guarded hEnded h =>
    cases h.next hNext
    exact hEnded

end Shared

open Shared in
/-- Clients begin and go on with operations in any order, and anything else may happen in between
but that a cluster is put in place from outside.  At the start no cluster has an identifier that is
still to be given to another one, as on every platform where clusters have been put in place under
fresh identifiers only (`Platform.Stocked.followsLifecycle`).

A permanent delete that comes after its read finds the cluster in a state in which it has ended, or
does not find it.  While a cluster is running, one resize or restart of it is accepted at most; the
cluster is then resizing or restarting, and while it is not running every resize and restart is
refused and only counted.  The size of a cluster is that of its last accepted resize. -/
theorem interleaved_operations {ι : Type} [DecidableEq ι] {σ : Shared ι}
    (hIdle : ∀ i, σ.remaining i = .done ()) (hReach : σ.platform.Reachable)
    (hUnclaimed : σ.platform.Unclaimed) {schedule : List (Step ι)}
    (hPut : ∀ record, .event (.putCluster record) ∉ schedule) :
    (∀ i id, ((σ.after schedule).remaining i).next? = some (.clusters (.permanentDelete id)) →
        ∀ state, (σ.after schedule).platform.clusterState? id = some state →
          state.isTerminal = true) ∧
      (∀ id first period later, σ.history schedule = first ++ period ++ later →
        Platform.RunningThroughout id (σ.platform.after first) period →
          Platform.acceptedChanges id (σ.platform.after first) period ≤ 1) ∧
      (∀ id first e later, σ.history schedule = first ++ e :: later →
        e.acceptsChange id (σ.platform.after first) = true →
          (σ.platform.after (first ++ [e])).clusterState? id = some .resizing ∨
            (σ.platform.after (first ++ [e])).clusterState? id = some .restarting) ∧
      (∀ id first later, σ.history schedule = first ++ later → ∀ c state,
        c.changesRunning id = true → (σ.platform.after first).clusterState? id = some state →
          state ≠ .running →
            (σ.platform.after first).serve c =
              (.error (((σ.platform.after first).failure? c.endpoint).getD
                  (Platform.unexpectedState id state)),
                (σ.platform.after first).count c.endpoint)) ∧
      ∀ id first later, σ.history schedule = first ++ later → ∀ size,
        (σ.platform.after first).clusterSizing? id = some size →
          (σ.after schedule).platform.clusterSizing? id = none ∨
            (σ.after schedule).platform.clusterSizing? id =
              some (Platform.lastSizing id (σ.platform.after first) size later) := by
  have hStart : σ.AllSafe := ⟨hReach, hUnclaimed, fun i => hIdle i ▸ .sparing trivial⟩
  refine ⟨fun i id hNext => ((hStart.after hPut).ended hNext).state,
    fun id first period _ _ hRunning => Platform.acceptedChanges_le_one hRunning, ?_,
    fun id first _ _ c state hChange hState hNot =>
      Platform.serve_change_refused hChange hState hNot, ?_⟩
  · intro id first e later _ hAccepts
    rw [Platform.after_append]
    exact (Platform.Event.acceptsChange_spec hAccepts).2
  · intro id first later hHistory size hSize
    have hNoPut (record : ClusterRecord) : .putCluster record ∉ first ++ later :=
      hHistory ▸ putCluster_notMem_history (hPut record)
    -- No identifier that is still to be given is claimed when the cluster is looked at.
    have hThen : (σ.platform.after first).Unclaimed :=
      hUnclaimed.after fun record hMem => hNoPut record (List.mem_append_left _ hMem)
    obtain ⟨entry, hGet, -⟩ := Option.map_eq_some_iff.1 hSize
    rw [platform_after, hHistory, Platform.after_append]
    exact Platform.clusterSizing?_after (hThen hGet)
      (fun record hMem => hNoPut record (List.mem_append_right _ hMem)) (.inr hSize)

/-! ### Two clients and one cluster -/

/-- A handle on the running one of two clusters. -/
def sharedHandle : Cluster := ⟨.new Platform.firstCluster⟩

/-- Two clients that have not begun anything yet. -/
def twoClients : Shared Bool := ⟨Platform.twoClusters, fun _ => .done ()⟩

/-- Both clients read a running cluster, and the resize comes before the restart.  Then the cluster
is terminated, and it fails after one of the clients has read that before deleting it. -/
def lateCalls : List (Step Bool) :=
  [.begin false sharedHandle (.resize (.fixed 5)), .begin true sharedHandle .restart,
    .proceed false, .proceed true, .proceed false, .proceed true,
    .begin true sharedHandle .terminate, .proceed true, .proceed true,
    .event (.settleCluster Platform.firstCluster),
    .begin true sharedHandle .permanentDelete, .proceed true,
    .event (.failCluster Platform.firstCluster)]

theorem interleaved_operations_lateCalls :
    ((∀ i, twoClients.remaining i = .done ()) ∧ twoClients.platform.Reachable ∧
        twoClients.platform.Unclaimed ∧
        (∀ record, .event (.putCluster record) ∉ lateCalls) ∧
        ((twoClients.after lateCalls).remaining true).next? =
          some (.clusters (.permanentDelete Platform.firstCluster))) ∧
      (∀ state, (twoClients.after lateCalls).platform.clusterState? Platform.firstCluster =
        some state → state.isTerminal = true) ∧
      Platform.acceptedChanges Platform.firstCluster Platform.twoClusters
        ((twoClients.history lateCalls).take 3) ≤ 1 ∧
      ((twoClients.after lateCalls).platform.clusterSizing? Platform.firstCluster = none ∨
        (twoClients.after lateCalls).platform.clusterSizing? Platform.firstCluster =
          some (some 5, none)) := by
  have hFollows := Platform.stocked_twoClusters.followsLifecycle
  have hPut (record : ClusterRecord) : .event (.putCluster record) ∉ lateCalls := by
    simp [lateCalls]
  have hNext : ((twoClients.after lateCalls).remaining true).next? =
    some (.clusters (.permanentDelete Platform.firstCluster)) := rfl
  have hAll := interleaved_operations (σ := twoClients) (fun _ => rfl) hFollows.reachable
    hFollows.unclaimed hPut
  refine ⟨⟨fun _ => rfl, hFollows.reachable, hFollows.unclaimed, hPut, hNext⟩, ?_, ?_, ?_⟩
  · exact hAll.1 true _ hNext
  · exact hAll.2.1 Platform.firstCluster [] _ ((twoClients.history lateCalls).drop 3) rfl
      ⟨rfl, rfl, rfl, trivial⟩
  · exact hAll.2.2.2.2 Platform.firstCluster [] _ rfl (some 2, none) rfl

end SparkFleet
