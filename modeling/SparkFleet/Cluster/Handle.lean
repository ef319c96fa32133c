import SparkFleet.Action
import SparkFleet.Cluster.Lifecycle
import SparkFleet.Cluster.Size
import SparkFleet.Instant

/-!
# Handles on clusters

A handle keeps the record that was read when it was made.  Its state and its nodes are read again
each time they are asked for.  An operation reads the state first and is sent only if the lifecycle
allows it in that state.
-/

namespace SparkFleet

/-- A handle on a cluster. -/
structure Cluster where
  /-- The record that was read when the handle was made. -/
  record : ClusterRecord
  deriving DecidableEq

namespace Cluster

/-- The identifier. -/
def id (c : Cluster) : ClusterId := c.record.clusterId

/-- The state at the time of the record. -/
def snapshotState (c : Cluster) : ClusterState := c.record.state

/-- The size, unless the record has none or two. -/
def sizing (c : Cluster) : Option ClusterSize := (ClusterSize.ofRecord c.record).toOption

/-- When the cluster was started. -/
def startedAt (c : Cluster) : Option Int64 := c.record.startTime.bind dated?

/-- When the cluster was terminated. -/
def terminatedAt (c : Cluster) : Option Int64 := c.record.terminatedTime.bind dated?

/-- A short description of the handle. -/
def debug (c : Cluster) : String :=
  "Cluster \x7b cluster_id: " ++ c.id.debug ++ ", cluster_name: " ++
    Text.quotedOption c.record.clusterName ++ ", state: " ++ c.record.state.debug ++ ", .. \x7d"

/-! ### Reading -/

/-- A handle on the cluster of an identifier. -/
def get (id : ClusterId) : Action Cluster :=
  .within .cluster do return ⟨← .ask (.clusters (.get id))⟩

/-- Handles on all clusters. -/
def list : Action (List Cluster) :=
  .within .cluster do
    let records : List ClusterRecord ← .ask (.clusters .list)
    return records.map .mk

/-- The record as it is now. -/
def read (c : Cluster) : Action ClusterRecord := .within .cluster (.ask (.clusters (.get c.id)))

/-- The state as it is now. -/
def state (c : Cluster) : Action ClusterState := do return (← c.read).state

/-- A handle with the record as it is now. -/
def refresh (c : Cluster) : Action Cluster := do return ⟨← c.read⟩

/-- The workers, if the cluster runs now. -/
def executors (c : Cluster) : Action (List SparkNode) := do
  let record ← c.read
  return if record.state = .running then record.executors else []

/-- The driver, if the cluster runs now. -/
def driver (c : Cluster) : Action (Option SparkNode) := do
  let record ← c.read
  return if record.state = .running then record.driver else none

/-! ### Operations -/

/-- Read the state and refuse an operation that it does not allow. -/
def check (c : Cluster) (operation : ClusterOperation) : Action Unit := do
  .ofExcept (operation.validate c.id (← c.state))

/-- Change the number of workers; the new handle is read right afterwards. -/
def resize (c : Cluster) (size : ClusterSize) : Action Cluster :=
  .within .cluster do
    .ofExcept size.validate
    c.check .resize
    let _ ← Action.ask (.clusters (.resize ⟨c.id, size.toParts.1, size.toParts.2⟩))
    c.refresh

/-- Restart the cluster. -/
def restart (c : Cluster) : Action Unit :=
  .within .cluster do
    c.check .restart
    .ask (.clusters (.restart c.id))

/-- Shut the cluster down. -/
def terminate (c : Cluster) : Action Unit :=
  .within .cluster do
    c.check .terminate
    .ask (.clusters (.terminate c.id))

/-- Remove the cluster for good. -/
def permanentDelete (c : Cluster) : Action Unit :=
  .within .cluster do
    c.check .permanentDelete
    .ask (.clusters (.permanentDelete c.id))

end Cluster

end SparkFleet
