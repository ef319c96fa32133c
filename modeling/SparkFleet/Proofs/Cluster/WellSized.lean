import SparkFleet.Proofs.Cluster.Contention
import SparkFleet.Proofs.Cluster.FailedCreation
import SparkFleet.Proofs.Cluster.GuardAgrees
import SparkFleet.Library.Status

/-!
# The size of a cluster and its nodes

The size of a cluster is written when it is created or resized, and its nodes only when a change
comes to its end, which may be after a termination or a failure has cut the change short.
`ClusterRecord.WellSized` says how the two belong together: the size is a valid one, a running
cluster has the nodes of its size, and one that has ended has none.

Whatever an event does to a cluster keeps this, if the sizes that are asked for are valid ones
(`ClusterStep.wellSized`), and handles and drafts ask for no others (`ClusterUse.wellSized_apply`).
The main statement `size_fits_nodes` follows for every run, and says of a resize that succeeds that
the new handle has the size that was asked for.
-/

namespace SparkFleet

open SparkFleet.Action (exec)

/-- The number of workers that a cluster of a size starts with. -/
def ClusterSize.leastWorkers : ClusterSize → Nat
  | .fixed workers => workers.toNat
  | .autoscale least _ => least.toNat

/-- The two fields of a size are those of a valid one. -/
def ClusterSize.ValidParts (parts : Option UInt32 × Option AutoScale) : Prop :=
  ∃ size : ClusterSize, size.validate = .ok () ∧ parts = size.toParts

namespace ClusterRecord

variable {r : ClusterRecord}

/-- The size of a cluster and its nodes belong together. -/
structure WellSized (r : ClusterRecord) : Prop where
  sized : ClusterSize.ValidParts (r.numWorkers, r.autoscale)
  /-- A running cluster has a driver and the workers that its size asks for. -/
  running : r.state = .running → r.driver.isSome = true ∧ r.executors.length = r.workerCount
  /-- A cluster that has ended has no nodes. -/
  ended : r.state.isTerminal = true → r.driver = none ∧ r.executors = []

/-- While a cluster is changing, nothing is asked of its nodes. -/
theorem WellSized.of_changing (hSized : ClusterSize.ValidParts (r.numWorkers, r.autoscale))
    (hRunning : r.state ≠ .running) (hUp : r.state.isTerminal = false) : r.WellSized where
  sized := hSized
  running h := absurd h hRunning
  ended h := nomatch hUp.symm.trans h

/-- A change that comes to its end leaves the nodes that its state asks for, whatever nodes there
were. -/
theorem wellSized_inState (hSized : ClusterSize.ValidParts (r.numWorkers, r.autoscale))
    (state : ClusterState) : (r.inState state).WellSized := by
  have hParts :
      ClusterSize.ValidParts ((r.inState state).numWorkers, (r.inState state).autoscale) := by
    rw [Platform.sizing_inState]
    exact hSized
  cases state with
  | running =>
    -- The nodes are made from the size when the cluster comes up, so they fit whatever was there.
    exact ⟨hParts, fun _ => ⟨rfl, by simp [inState, workers, workerCount]⟩, nofun⟩
  | terminated | error => exact ⟨hParts, nofun, fun _ => ⟨rfl, rfl⟩⟩
  | _ => exact .of_changing hParts nofun rfl

/-- The workers that the two fields of a size ask for are those of the size. -/
theorem workerCount_of_parts {size : ClusterSize}
    (hParts : (r.numWorkers, r.autoscale) = size.toParts) : r.workerCount = size.leastWorkers := by
  obtain ⟨hWorkers, hBounds⟩ := Prod.mk.inj hParts
  cases size <;> simp [workerCount, hWorkers, hBounds, ClusterSize.leastWorkers]

end ClusterRecord

/-! ### Events -/

/-- A call asks for no size but valid ones. -/
def Call.Sized : Call → Prop
  | .clusters (.create spec) => ClusterSize.ValidParts (spec.numWorkers, spec.autoscale)
  | .clusters (.resize r) => ClusterSize.ValidParts (r.numWorkers, r.autoscale)
  | _ => True

namespace Platform

variable {p q : Platform} {id : ClusterId} {e : Event} {old new : Option ClusterEntry}

/-- An event asks for no size but valid ones, and a cluster that it puts in place is well-sized. -/
def Event.Sized : Event → Prop
  | .call c => c.Sized
  | .putCluster record => record.WellSized
  | _ => True

/-- Whether an event comes from outside and puts no cluster in place as it is. -/
def Event.controls : Event → Bool
  | .call _ | .putCluster _ => false
  | _ => true

theorem Event.sized_of_controls (hControls : e.controls = true) : e.Sized := by
  cases e with
  | call | putCluster => cases hControls
  | _ => trivial

/-- Every cluster is well-sized. -/
def WellSized (p : Platform) : Prop := p.clusters.All fun _ entry => entry.record.WellSized

/-- Whatever an event that asks for valid sizes does to a cluster, it stays well-sized. -/
theorem ClusterStep.wellSized (hStep : ClusterStep p q id e old new) (hSized : e.Sized)
    (hOld : ∀ entry, old = some entry → entry.record.WellSized) :
    ∀ entry, new = some entry → entry.record.WellSized := by
  rintro entry rfl
  cases hStep with
  | same => exact hOld _ rfl
  | wait record target reads => exact hOld ⟨record, some ⟨target, reads + 1⟩⟩ rfl
  | finish | settle =>
    -- The nodes are written anew; of what was there before only the size matters.
    exact ClusterRecord.wellSized_inState (hOld _ rfl).sized _
  | fail record change =>
    have hBefore : record.WellSized := hOld _ rfl
    exact ClusterRecord.wellSized_inState hBefore.sized .error
  | create | resize =>
    -- A size is written here, and the cluster is changing, so that its nodes need not fit yet.
    exact .of_changing hSized nofun rfl
  | restart | terminate => exact .of_changing (hOld _ rfl).sized nofun rfl
  | putCluster => exact hSized
  | addRunningCluster name workers =>
    refine ClusterRecord.wellSized_inState ?_ .running
    exact ⟨.fixed workers, rfl, rfl⟩

theorem WellSized.apply (hWell : p.WellSized) (hSized : e.Sized) : (e.apply p).WellSized :=
  fun id entry hGet =>
    (p.clusterStep_apply e id).wellSized hSized (fun _ hOld => hWell hOld) entry hGet

end Platform

/-! ### Programs -/

/-- An action that asks for no size but valid ones keeps every cluster well-sized. -/
theorem Action.CallsOnly.wellSized {α : Type} {act : Action α} (hOnly : act.CallsOnly Call.Sized)
    {s : Simulation Platform} (hWell : s.state.WellSized) :
    (exec Platform.handler act s).2.state.WellSized :=
  hOnly.run_induction (fun c _ hSized hWell => hWell.apply (e := .call c) hSized) hWell

namespace Cluster

variable (c : Cluster)

theorem read_sized : c.read.CallsOnly Call.Sized :=
  .within (Action.callsOnly_ask trivial) .cluster

theorem check_sized (operation : ClusterOperation) : (c.check operation).CallsOnly Call.Sized :=
  .bind (.bind c.read_sized fun _ => trivial) fun _ => Action.callsOnly_ofExcept _

theorem get_sized (id : ClusterId) : (Cluster.get id).CallsOnly Call.Sized :=
  .within (.bind (Action.callsOnly_ask trivial) fun _ => Action.callsOnly_pure _) .cluster

/-- An operation that is checked and then sent. -/
theorem guarded_sized (operation : ClusterOperation) (call : ClusterCall)
    (hSized : (Call.clusters call).Sized) :
    (c.guarded operation (.ask (.clusters call))).CallsOnly Call.Sized :=
  .within (.bind (c.check_sized operation) fun _ => Action.callsOnly_ask hSized) .cluster

/-- A resize asks for the size that it is given, and for none that is not valid. -/
theorem resize_sized (size : ClusterSize) : (c.resize size).CallsOnly Call.Sized := by
  unfold resize
  cases hValid : size.validate with
  | error e =>
    trivial
  | ok =>
    refine .within (.bind (Action.callsOnly_ofExcept _) fun _ => ?_) .cluster
    refine .bind (c.check_sized .resize) fun _ => ?_
    refine .bind (Action.callsOnly_ask ⟨size, hValid, rfl⟩) fun _ => ?_
    exact .bind c.read_sized fun _ => trivial

end Cluster

namespace ClusterDraft

open Session (Yields)

/-- The specification that a draft resolves to is of a valid size: that of the draft. -/
theorem resolve_yields (d : ClusterDraft) :
    d.resolve.Yields fun spec => ClusterSize.ValidParts (spec.numWorkers, spec.autoscale) := by
  refine .bind (Session.yields_ofExcept _) fun _ hValid => ?_
  refine .bind (Session.yields_true _) fun version _ => ?_
  refine .bind (Session.yields_true _) fun nodeType _ => ?_
  refine .bind (Session.yields_true _) fun zone _ => Session.yields_pure ?_
  refine ⟨d.size, hValid, ?_⟩
  cases zone <;> rfl

theorem prepare_yields (d : ClusterDraft) :
    d.prepare.Yields fun spec => ClusterSize.ValidParts (spec.numWorkers, spec.autoscale) := by
  unfold prepare
  split
  · exact Session.yields_throw _
  · exact d.resolve_yields

/-- A creation keeps every cluster well-sized, whatever the catalog of its session. -/
theorem create_wellSized (d : ClusterDraft) (catalog : Catalog) {s : Simulation Platform}
    (hWell : s.state.WellSized) :
    (Session.exec Platform.handler d.create catalog s).2.state.WellSized := by
  have hPrepared := Session.onlyCounted_exec d.prepare_readsOffer catalog s
  rw [create_eq, Session.exec_within, Session.exec_bind]
  rcases hPrepare : Session.exec Platform.handler d.prepare catalog s with
    ⟨⟨e | spec, known⟩, u⟩
  -- What comes before the call only reads what is on offer, and no cluster with it.
  all_goals
    rw [hPrepare] at hPrepared
    have hStill : u.state.WellSized := by
      rw [Platform.WellSized, hPrepared]
      exact hWell
  · exact hStill
  · have hSized : (Call.clusters (.create spec)).Sized := d.prepare_yields hPrepare
    simp only [Session.exec_act]
    refine Action.CallsOnly.wellSized (.bind (Action.callsOnly_ask hSized) fun id => ?_) hStill
    exact Cluster.get_sized id

end ClusterDraft

/-! ### Runs -/

open Platform (Event)

/-- What happens to the clusters of a platform: clusters are created and read, handles on them are
used, and the platform is controlled from outside. -/
inductive ClusterUse where
  /-- A cluster is added or fails, a change ends, calls are refused: whatever comes from outside. -/
  | control (e : Event) (hControls : e.controls = true)
  | create (d : ClusterDraft) (catalog : Catalog)
  | get (id : ClusterId)
  | list
  | state (c : Cluster)
  | refresh (c : Cluster)
  | driver (c : Cluster)
  | executors (c : Cluster)
  | libraryStatuses (c : Cluster)
  | resize (c : Cluster) (size : ClusterSize)
  | restart (c : Cluster)
  | terminate (c : Cluster)
  | permanentDelete (c : Cluster)

namespace ClusterUse

/-- What a use leaves, whether it succeeds or fails. -/
def apply (s : Simulation Platform) : ClusterUse → Simulation Platform
  | .control e _ => { s with state := e.apply s.state }
  | .create d catalog => (Session.exec Platform.handler d.create catalog s).2
  | .get id => (exec Platform.handler (Cluster.get id) s).2
  | .list => (exec Platform.handler Cluster.list s).2
  | .state c => (exec Platform.handler c.state s).2
  | .refresh c => (exec Platform.handler c.refresh s).2
  | .driver c => (exec Platform.handler c.driver s).2
  | .executors c => (exec Platform.handler c.executors s).2
  | .libraryStatuses c => (exec Platform.handler c.libraryStatuses s).2
  | .resize c size => (exec Platform.handler (c.resize size) s).2
  | .restart c => (exec Platform.handler c.restart s).2
  | .terminate c => (exec Platform.handler c.terminate s).2
  | .permanentDelete c => (exec Platform.handler c.permanentDelete s).2

/-- Every use keeps all clusters well-sized. -/
theorem wellSized_apply (use : ClusterUse) {s : Simulation Platform} (hWell : s.state.WellSized) :
    (use.apply s).state.WellSized := by
  cases use with
  | control e hControls => exact hWell.apply (Event.sized_of_controls hControls)
  | create d catalog => exact d.create_wellSized catalog hWell
  | get id => exact (Cluster.get_sized id).wellSized hWell
  | list =>
    refine Action.CallsOnly.wellSized ?_ hWell
    exact .within (.bind (Action.callsOnly_ask trivial) fun _ => Action.callsOnly_pure _) .cluster
  | libraryStatuses c =>
    refine Action.CallsOnly.wellSized ?_ hWell
    exact .within (.bind (Action.callsOnly_ask trivial) fun _ => Action.callsOnly_pure _) .library
  | state c | refresh c | driver c | executors c =>
    refine Action.CallsOnly.wellSized ?_ hWell
    exact .bind c.read_sized fun _ => Action.callsOnly_pure _
  | resize c size => exact (c.resize_sized size).wellSized hWell
  | restart c => exact (c.guarded_sized .restart (.restart c.id) trivial).wellSized hWell
  | terminate c => exact (c.guarded_sized .terminate (.terminate c.id) trivial).wellSized hWell
  | permanentDelete c =>
    exact (c.guarded_sized .permanentDelete (.permanentDelete c.id) trivial).wellSized hWell

/-- A run keeps all clusters well-sized. -/
theorem wellSized_run (uses : List ClusterUse) {s : Simulation Platform}
    (hWell : s.state.WellSized) : (uses.foldl apply s).state.WellSized := by
  induction uses generalizing s with
  | nil => exact hWell
  | cons use uses ih => exact ih (use.wellSized_apply hWell)

end ClusterUse

/-! ### Resizing -/

namespace Platform

variable {p q : Platform} {id : ClusterId}

/-- A resize that is accepted leaves the size that it asks for. -/
theorem clusterSizing?_of_resize {r : ResizeRequest}
    (hServe : p.serve (.clusters (.resize r)) = (.ok (), q)) :
    q.clusterSizing? r.clusterId = some (r.numWorkers, r.autoscale) := by
  obtain ⟨entry, -, -, rfl⟩ := resizeCluster_eq_ok (serve_eq_ok hServe)
  rw [clusterSizing?, begin, setCluster, SortedMap.get?_insert, if_pos rfl]
  rfl

theorem sizing_observed (entry : ClusterEntry) :
    (entry.observed.record.numWorkers, entry.observed.record.autoscale) =
      (entry.record.numWorkers, entry.record.autoscale) := by
  unfold ClusterEntry.observed
  split
  · rfl
  · exact sizing_inState _ _
  · rfl

/-- A read shows the size that the cluster has. -/
theorem clusterSizing?_of_get {record : ClusterRecord}
    (hServe : p.serve (.clusters (.get id)) = (.ok record, q)) :
    p.clusterSizing? id = some (record.numWorkers, record.autoscale) := by
  obtain ⟨entry, hGet, rfl, -⟩ := get_answered hServe
  rw [clusterSizing?, hGet, Option.map_some, sizing_observed]

end Platform

namespace Cluster

variable {c c' : Cluster} {size : ClusterSize} {s t : Simulation Platform}

theorem sizing_of_parts (hValid : size.validate = .ok ())
    (hParts : (c.record.numWorkers, c.record.autoscale) = size.toParts) : c.sizing = some size := by
  have hWorkers : c.record.numWorkers = size.toParts.1 := congrArg Prod.fst hParts
  have hBounds : c.record.autoscale = size.toParts.2 := congrArg Prod.snd hParts
  rw [sizing, ClusterSize.ofRecord, hWorkers, hBounds, ClusterSize.ofParts_toParts hValid]
  rfl

/-- A resize that succeeds gives a handle of the size that was asked for. -/
theorem sizing_of_resize (hResize : exec Platform.handler (c.resize size) s = (.ok c', t)) :
    c'.sizing = some size := by
  cases hValid : size.validate with
  | error e => exact nomatch (resize_invalid hValid).2.symm.trans hResize
  | ok =>
    have hSent := sentIfAllowed_resize (h := Platform.handler) (c := c) (s := s) hValid
    rcases hRead : s.state.serve (.clusters (.get c.id)) with ⟨cause | record, p⟩
    · exact nomatch (hSent.unread _ _ (Platform.answer_handler hRead)).2.symm.trans hResize
    have hRead := Platform.answer_handler hRead
    cases hAllowed : ClusterOperation.resize.isAllowed record.state with
    | false => exact nomatch (hSent.forbidden _ _ hRead hAllowed).2.symm.trans hResize
    | true =>
      rcases hCall : p.serve (c.resizeCall size) with ⟨cause | ⟨⟩, q⟩
      · have hRefused := Platform.answer_handler (s := { s with state := p }) hCall
        exact nomatch (hSent.refused _ _ _ _ hRead hAllowed hRefused).2.symm.trans hResize
      have hAccepted := Platform.answer_handler (s := { s with state := p }) hCall
      rw [(hSent.accepted _ _ _ _ hRead hAllowed hAccepted).2, readAgain] at hResize
      rcases hAgain : q.serve (.clusters (.get c.id)) with ⟨cause | shown, r⟩
      · rw [Platform.answer_handler hAgain] at hResize
        cases hResize
      · rw [Platform.answer_handler hAgain] at hResize
        cases hResize
        have hSize := Platform.clusterSizing?_of_resize hCall
        have hShown := Platform.clusterSizing?_of_get hAgain
        exact sizing_of_parts hValid (Option.some.inj (hShown.symm.trans hSize))

end Cluster

/-- On a platform that has been empty, and whose clusters have been added running or created from
drafts, every cluster has one valid size, whatever is done with it by handles and from outside.  If
it is running it has a driver and as many workers as that size starts with, and if it has ended it
has no nodes.  A resize that succeeds gives a handle of the size that was asked for. -/
theorem size_fits_nodes :
    (∀ (uses : List ClusterUse) (s : Simulation Platform), s.state = {} →
      ∀ id record, (uses.foldl ClusterUse.apply s).state.clusterRecord? id = some record →
        ∃ size : ClusterSize, size.validate = .ok () ∧
          (record.numWorkers, record.autoscale) = size.toParts ∧
          (⟨record⟩ : Cluster).sizing = some size ∧
          (record.state = .running →
            record.driver.isSome = true ∧ record.executors.length = size.leastWorkers) ∧
          (record.state = .terminated ∨ record.state = .error →
            record.driver = none ∧ record.executors = [])) ∧
      ∀ (c c' : Cluster) (size : ClusterSize) (s t : Simulation Platform),
        exec Platform.handler (c.resize size) s = (.ok c', t) → c'.sizing = some size := by
  refine ⟨fun uses s hStart id record hRecord => ?_, fun _ _ _ _ _ => Cluster.sizing_of_resize⟩
  have hEmpty : s.state.WellSized := by
    rw [hStart]
    exact .empty
  have hWell := ClusterUse.wellSized_run uses hEmpty
  obtain ⟨entry, hGet, rfl⟩ := Option.map_eq_some_iff.1 hRecord
  obtain ⟨⟨size, hValid, hParts⟩, hRunning, hEnded⟩ := hWell hGet
  rw [ClusterRecord.workerCount_of_parts hParts] at hRunning
  refine ⟨size, hValid, hParts, Cluster.sizing_of_parts hValid hParts, hRunning, fun hState => ?_⟩
  refine hEnded ?_
  obtain hState | hState := hState <;> rw [hState] <;> rfl

/-- A resize is cut short by a termination, and that by a failure. -/
def cutShort : List ClusterUse := [
  .control (.addRunningCluster "dev" 2) rfl,
  .resize pendingHandle (.autoscale 1 4),
  .terminate pendingHandle,
  .control (.failCluster pendingHandle.id) rfl]

/-- The cluster has failed with the size that was asked for, and without nodes. -/
theorem size_fits_nodes_cutShort :
    let s := cutShort.foldl ClusterUse.apply ⟨{}, ⟨0⟩, .empty⟩
    ∃ record, s.state.clusterRecord? pendingHandle.id = some record ∧ record.state = .error ∧
      record.autoscale = some ⟨1, 4⟩ ∧ (⟨record⟩ : Cluster).sizing ≠ none ∧
      record.driver = none ∧ record.executors = [] := by
  intro s
  obtain ⟨record, hRecord, hState, hBounds⟩ : ∃ record,
      s.state.clusterRecord? pendingHandle.id = some record ∧ record.state = .error ∧
        record.autoscale = some ⟨1, 4⟩ := ⟨_, rfl, rfl, rfl⟩
  obtain ⟨size, -, -, hSizing, -, hEnded⟩ := size_fits_nodes.1 cutShort _ rfl _ record hRecord
  refine ⟨record, hRecord, hState, hBounds, ?_, hEnded (.inr hState)⟩
  rw [hSizing]
  nofun

end SparkFleet
