import SparkFleet.Cluster.Lifecycle
import SparkFleet.Platform.State

/-!
# Clusters on the platform

A new, restarted or resized cluster comes up, and a terminated one goes down, after a number of
reads of its record.  Only a running cluster is restarted or resized, and every cluster that has not
ended can be terminated; the platform looks at the state again, whatever the caller has read.
-/

namespace SparkFleet

namespace ClusterRecord

/-- The record of a new cluster. -/
def new (id : ClusterId) : ClusterRecord where
  clusterId := id
  state := .pending
  creatorUserName := some "mock@example.com"

/-- The number of workers of a running cluster: the least one where it adapts. -/
def workerCount (r : ClusterRecord) : Nat :=
  match r.autoscale with
  | some bounds => bounds.minWorkers.toNat
  | none => (r.numWorkers.getD 0).toNat

/-- A node of a name. -/
def node (name : String) : SparkNode where
  nodeId := some name
  instanceId := some ("i-" ++ name)
  privateIp := some "10.0.0.1"

/-- The workers of a running cluster. -/
def workers (count : Nat) : List SparkNode :=
  (List.range count).map fun i => node ("executor-" ++ toString i)

/-- The record in another state: a running cluster has its nodes, and one that has ended has
none. -/
def inState (r : ClusterRecord) (state : ClusterState) : ClusterRecord :=
  match state with
  | .running =>
    { r with state := state, driver := some (node "driver"), executors := workers r.workerCount }
  | .terminated | .error => { r with state := state, driver := none, executors := [] }
  | _ => { r with state := state }

end ClusterRecord

namespace Platform

/-- The cluster of an identifier. -/
def findCluster (p : Platform) (id : ClusterId) : Except ApiError ClusterEntry :=
  match p.clusters.get? id with
  | some entry => .ok entry
  | none => .error (notFound ("Cluster " ++ id.text ++ " does not exist"))

/-- Replace what is known of a cluster. -/
def setCluster (p : Platform) (id : ClusterId) (entry : ClusterEntry) : Platform :=
  { p with clusters := p.clusters.insert id entry }

/-! ### Changes that take time -/

/-- Begin a change of a cluster: the state that it shows, and the one at its end. -/
def begin (p : Platform) (id : ClusterId) (record : ClusterRecord) (state target : ClusterState) :
    Platform :=
  p.setCluster id ⟨{ record with state := state }, some ⟨target, p.settleReads⟩⟩

/-- Remove the libraries that are marked for removal; a cluster does so when it comes up. -/
def dropRemoved (p : Platform) (id : ClusterId) : Platform :=
  { p with
    libraries := p.libraries.modify id fun libraries =>
      libraries.filter fun l => l.entry.status ≠ .uninstallOnRestart }

/-- Bring the change of a cluster to its end. -/
def finish (p : Platform) (id : ClusterId) (entry : ClusterEntry) (target : ClusterState) :
    Platform :=
  let p := p.setCluster id ⟨entry.record.inState target, none⟩
  if target = .running then p.dropRemoved id else p

/-- Bring the change of a cluster that is under way, if there is one, to its end. -/
def settleCluster (p : Platform) (id : ClusterId) : Platform :=
  match p.clusters.get? id with
  | some entry =>
    match entry.transition with
    | some change => p.finish id entry change.target
    | none => p
  | none => p

/-- The effect of one read on a cluster: a change under way comes nearer to its end. -/
def observeCluster (p : Platform) (id : ClusterId) (entry : ClusterEntry) : Platform :=
  match entry.transition with
  | none => p
  | some ⟨target, 0⟩ => p.finish id entry target
  | some ⟨target, reads + 1⟩ => p.setCluster id { entry with transition := some ⟨target, reads⟩ }

/-! ### Calls -/

/-- The cluster that a specification describes. -/
def newCluster (id : ClusterId) (spec : ClusterSpec) : ClusterRecord :=
  { ClusterRecord.new id with
    clusterName := spec.clusterName
    sparkVersion := spec.sparkVersion
    nodeTypeId := spec.nodeTypeId
    driverNodeTypeId := spec.driverNodeTypeId <|> spec.nodeTypeId
    numWorkers := spec.numWorkers
    autoscale := spec.autoscale
    autoterminationMinutes := spec.autoterminationMinutes
    customTags := spec.customTags
    sparkConf := spec.sparkConf
    initScripts := spec.initScripts
    awsAttributes := spec.awsAttributes }

/-- What the texts of the identifiers that the platform gives to clusters begin with. -/
def clusterIdStart : String := "0000-000000-mock"

/-- The identifier of the next new cluster. -/
def nextClusterId (p : Platform) : ClusterId where
  text := clusterIdStart ++ fourDigits p.nextNumber
  notBlank := by
    rw [Text.isBlank, String.toList_append, List.all_append]
    rfl

/-- Create a cluster; a version, a node type and one of the two sizes must be given. -/
def createCluster (p : Platform) (spec : ClusterSpec) : Except ApiError (ClusterId × Platform) := do
  if spec.sparkVersion.isNone || spec.nodeTypeId.isNone then
    throw (refused "INVALID_PARAMETER_VALUE" "spark_version and node_type_id are required")
  if spec.numWorkers.isSome == spec.autoscale.isSome then
    throw (refused "INVALID_PARAMETER_VALUE"
      "exactly one of num_workers and autoscale is required")
  let id := p.nextClusterId
  return (id, p.withNextNumber.begin id (newCluster id spec) .pending .running)

/-- Read a cluster. -/
def readCluster (p : Platform) (id : ClusterId) : Except ApiError (ClusterRecord × Platform) := do
  let p := p.observeCluster id (← p.findCluster id)
  return ((← p.findCluster id).record, p)

/-- The failure of a call that the state of a cluster does not allow. -/
def unexpectedState (id : ClusterId) (state : ClusterState) : ApiError :=
  refused "INVALID_STATE" ("Cluster " ++ id.text ++ " is in unexpected state " ++ state.name)

/-- Change the size of a running cluster. -/
def resizeCluster (p : Platform) (r : ResizeRequest) : Except ApiError (Unit × Platform) := do
  let entry ← p.findCluster r.clusterId
  if entry.record.state ≠ .running then
    throw (unexpectedState r.clusterId entry.record.state)
  let record := { entry.record with numWorkers := r.numWorkers, autoscale := r.autoscale }
  return ((), p.begin r.clusterId record .resizing .running)

/-- Begin a change of a cluster whose state allows it. -/
def changeCluster (p : Platform) (id : ClusterId) (allowed : ClusterState → Bool)
    (state target : ClusterState) : Except ApiError (Unit × Platform) := do
  let entry ← p.findCluster id
  if allowed entry.record.state then
    return ((), p.begin id entry.record state target)
  else
    throw (unexpectedState id entry.record.state)

/-- Remove a cluster, whatever its state; what is known of its libraries stays. -/
def removeCluster (p : Platform) (id : ClusterId) : Except ApiError (Unit × Platform) := do
  let _ ← p.findCluster id
  return ((), { p with clusters := p.clusters.erase id })

/-- Do what a call about clusters asks for. -/
def performClusters (p : Platform) : (c : ClusterCall) → Except ApiError (c.Answer × Platform)
  | .create spec => p.createCluster spec
  | .get id => p.readCluster id
  | .list => .ok (p.clusters.values.map (·.record), p)
  | .resize r => p.resizeCluster r
  | .restart id => p.changeCluster id (· == .running) .restarting .running
  | .terminate id => p.changeCluster id (!·.isTerminal) .terminating .terminated
  | .permanentDelete id => p.removeCluster id
  | .sparkVersions => .ok (p.sparkVersions, p)
  | .nodeTypes => .ok (p.nodeTypes, p)
  | .zones => .ok (p.zones, p)

end Platform

end SparkFleet
