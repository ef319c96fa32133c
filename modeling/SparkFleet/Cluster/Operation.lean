import SparkFleet.Cluster.State

/-!
# Operations on a cluster

The four calls that change a cluster, and the state that each of them leads to.
-/

namespace SparkFleet

/-- A call that changes a cluster. -/
inductive ClusterOperation where
  | restart
  /-- Change the number of workers of a running cluster. -/
  | resize
  | terminate
  | permanentDelete
  deriving DecidableEq

namespace ClusterOperation

/-- What the operation does, as messages say it. -/
def name : ClusterOperation → String
  | .restart => "restart"
  | .resize => "resize"
  | .terminate => "terminate"
  | .permanentDelete => "permanently delete"

/-- The state that a cluster enters once the platform accepts the call; a permanent delete leaves
no cluster behind. -/
def target : ClusterOperation → Option ClusterState
  | .restart => some .restarting
  | .resize => some .resizing
  | .terminate => some .terminating
  | .permanentDelete => none

/-- Every operation. -/
def all : List ClusterOperation := [.restart, .resize, .terminate, .permanentDelete]

end ClusterOperation

end SparkFleet
