import SparkFleet.Cluster.Record
import SparkFleet.Error

/-!
# The size of a cluster

A cluster has a fixed number of workers or adapts it between two bounds.  On the wire these are two
optional fields of which one is set.

The main statement is `ofParts_toParts`: the fields of a size whose bounds are in order give the
size back.
-/

namespace SparkFleet

/-- How many workers a cluster has. -/
inductive ClusterSize where
  /-- A fixed number; none at all is a driver by itself. -/
  | fixed (workers : UInt32)
  | autoscale (least greatest : UInt32)
  deriving DecidableEq

namespace ClusterSize

/-- Refuse bounds that are not in order. -/
def validate : ClusterSize → Except Error Unit
  | .fixed _ => .ok ()
  | .autoscale least greatest =>
    if greatest < least then
      .error (.config .cluster ("autoscale min_workers (" ++ toString least.toNat ++
        ") exceeds max_workers (" ++ toString greatest.toNat ++ ")"))
    else
      .ok ()

/-- The two fields of a size. -/
def toParts : ClusterSize → Option UInt32 × Option AutoScale
  | .fixed workers => (some workers, none)
  | .autoscale least greatest => (none, some ⟨least, greatest⟩)

/-- The size that two fields denote: one of them must be set, and bounds must be in order. -/
def ofParts : Option UInt32 → Option AutoScale → Except Error ClusterSize
  | some workers, none => .ok (.fixed workers)
  | none, some bounds => do
    let size := autoscale bounds.minWorkers bounds.maxWorkers
    size.validate
    return size
  | some _, some _ =>
    .error (.config .cluster "num_workers and autoscale are mutually exclusive")
  | none, none => .error (.config .cluster "one of num_workers or autoscale is required")

/-- The size of a cluster record. -/
def ofRecord (r : ClusterRecord) : Except Error ClusterSize := ofParts r.numWorkers r.autoscale

/-- The fields of a valid size denote it. -/
theorem ofParts_toParts {size : ClusterSize} (h : size.validate = .ok ()) :
    ofParts size.toParts.1 size.toParts.2 = .ok size := by
  cases size with
  | fixed workers => rfl
  | autoscale least greatest => simp only [toParts, ofParts, h]; rfl

end ClusterSize

end SparkFleet
