import SparkFleet.Cluster.Operation
import SparkFleet.Error

/-!
# The lifecycle of a cluster

Which state may follow which, and which operation a state allows.  A cluster comes up as pending and
then runs; a running cluster may restart or resize, and runs again afterwards.  Every cluster that
is up may be terminated, and every cluster that has not ended may fail.  Terminated and failed
clusters are at their end: all that is left is to delete them.

The main statement is `mem_successors_iff`: the list of successors and the test of a transition
describe the same table.
-/

namespace SparkFleet

namespace ClusterState

/-- Whether one state may directly follow another. -/
def mayBecome : ClusterState → ClusterState → Bool
  | .pending, .running | .restarting, .running | .resizing, .running => true
  | .running, .restarting | .running, .resizing => true
  | .running, .terminating | .pending, .terminating | .restarting, .terminating
  | .resizing, .terminating => true
  | .terminating, .terminated => true
  | .pending, .error | .running, .error | .restarting, .error | .resizing, .error
  | .terminating, .error | .unknown, .error => true
  | _, _ => false

/-- The states that may directly follow a state. -/
def successors : ClusterState → List ClusterState
  | .pending | .restarting | .resizing => [.running, .terminating, .error]
  | .running => [.restarting, .resizing, .terminating, .error]
  | .terminating => [.terminated, .error]
  | .unknown => [.error]
  | .terminated | .error => []

/-- Both descriptions of the table agree. -/
theorem mem_successors_iff (a b : ClusterState) : b ∈ a.successors ↔ a.mayBecome b = true := by
  cases a <;> cases b <;> decide

/-- Whether the cluster has ended. -/
def isTerminal : ClusterState → Bool
  | .terminated | .error => true
  | _ => false

/-- Whether a state follows another after at least one and at most so many transitions. -/
def reachesWithin : Nat → ClusterState → ClusterState → Bool
  | 0, _, _ => false
  | steps + 1, a, b => a.successors.any fun next => next == b || reachesWithin steps next b

/-- Whether a state can still follow another, after any number of transitions but zero.  No chain
without repetition has more transitions than there are states. -/
def canReach (a b : ClusterState) : Bool := reachesWithin all.length a b

end ClusterState

namespace ClusterOperation

/-- Whether an operation may be asked for in a state. -/
def isAllowed (operation : ClusterOperation) (state : ClusterState) : Bool :=
  match operation.target with
  | some target => state.mayBecome target
  | none => state.isTerminal

/-- Refuse an operation that the state last read does not allow. -/
def validate (operation : ClusterOperation) (cluster : ClusterId) (state : ClusterState) :
    Except Error Unit :=
  if operation.isAllowed state then .ok ()
  else .error (.invalidState cluster state operation.name)

end ClusterOperation

end SparkFleet
