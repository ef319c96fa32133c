import SparkFleet.Wire.Codec

/-!
# The states of a cluster

A cluster is pending until it is ready, and from then on running, restarting, resizing or
terminating; terminated and failed clusters stay what they are.  Any state of another name is read
as unknown.
-/

namespace SparkFleet

open Wire

/-- The state that the platform reports for a cluster. -/
inductive ClusterState where
  | pending
  | running
  | restarting
  | resizing
  | terminating
  | terminated
  | error
  /-- A state of a name that is not known. -/
  | unknown
  deriving DecidableEq, Inhabited

namespace ClusterState

/-- The name of a state. -/
def name : ClusterState → String
  | .pending => "PENDING"
  | .running => "RUNNING"
  | .restarting => "RESTARTING"
  | .resizing => "RESIZING"
  | .terminating => "TERMINATING"
  | .terminated => "TERMINATED"
  | .error => "ERROR"
  | .unknown => "UNKNOWN"

/-- The word that stands for a state where a cluster is described. -/
def debug : ClusterState → String
  | .pending => "Pending"
  | .running => "Running"
  | .restarting => "Restarting"
  | .resizing => "Resizing"
  | .terminating => "Terminating"
  | .terminated => "Terminated"
  | .error => "Error"
  | .unknown => "Unknown"

/-- Every state. -/
def all : List ClusterState :=
  [.pending, .running, .restarting, .resizing, .terminating, .terminated, .error, .unknown]

/-- A state is written as its name. -/
def codec : Codec ClusterState := .enumeration (all.map fun s => (s.name, s)) (some .unknown) name

end ClusterState

end SparkFleet
