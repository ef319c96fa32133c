import SparkFleet.Catalog
import SparkFleet.Cluster.Handle

/-!
# Drafts of clusters

A draft collects what a new cluster is to be like.  Nothing is sent until the cluster is created.
A version, node type or zone that the draft leaves open is the default one of the session's
catalog.
-/

namespace SparkFleet

/-- What a new cluster is to be like. -/
structure ClusterDraft where
  size : ClusterSize
  spec : ClusterSpec := {}
  /-- The zone, if it has been chosen. -/
  zone : Option String := none
  deriving DecidableEq

namespace ClusterDraft

/-! ### Choices -/

/-- Choose the name, without which no cluster is created. -/
def withName (d : ClusterDraft) (name : String) : ClusterDraft :=
  { d with spec := { d.spec with clusterName := some name } }

/-- Choose the runtime version. -/
def withSparkVersion (d : ClusterDraft) (key : String) : ClusterDraft :=
  { d with spec := { d.spec with sparkVersion := some key } }

/-- Choose the node type of the workers. -/
def withNodeType (d : ClusterDraft) (id : String) : ClusterDraft :=
  { d with spec := { d.spec with nodeTypeId := some id } }

/-- Choose the node type of the driver. -/
def withDriverNodeType (d : ClusterDraft) (id : String) : ClusterDraft :=
  { d with spec := { d.spec with driverNodeTypeId := some id } }

/-- Choose after how many idle minutes the cluster ends. -/
def withAutotermination (d : ClusterDraft) (minutes : UInt32) : ClusterDraft :=
  { d with spec := { d.spec with autoterminationMinutes := some minutes } }

/-- Add a tag. -/
def withCustomTag (d : ClusterDraft) (key value : String) : ClusterDraft :=
  { d with spec := { d.spec with customTags := d.spec.customTags.insert key value } }

/-- Add a runtime setting. -/
def withSparkConf (d : ClusterDraft) (key value : String) : ClusterDraft :=
  { d with spec := { d.spec with sparkConf := d.spec.sparkConf.insert key value } }

/-- Add an environment variable. -/
def withSparkEnvVar (d : ClusterDraft) (key value : String) : ClusterDraft :=
  { d with spec := { d.spec with sparkEnvVars := d.spec.sparkEnvVars.insert key value } }

/-- Add a script that prepares the nodes. -/
def withInitScript (d : ClusterDraft) (script : InitScript) : ClusterDraft :=
  { d with spec := { d.spec with initScripts := d.spec.initScripts ++ [script] } }

/-- Choose the zone. -/
def withZone (d : ClusterDraft) (zone : String) : ClusterDraft := { d with zone := some zone }

/-! ### Creation -/

/-- The chosen version, or else the session's default. -/
def resolveSparkVersion (spec : ClusterSpec) : Session String := do
  match spec.sparkVersion with
  | some key => return key
  | none =>
    match (← Session.sparkVersions).default? with
    | some version => return version.key
    | none => throw (.config .cluster "platform reports no default spark version")

/-- The chosen node type, or else the session's default. -/
def resolveNodeType (spec : ClusterSpec) : Session String := do
  match spec.nodeTypeId with
  | some id => return id
  | none =>
    match (← Session.nodeTypes).defaultId with
    | some id => return id
    | none => throw (.config .cluster "platform reports no default node type")

/-- The chosen zone, or else the session's default, if there is one. -/
def resolveZone (d : ClusterDraft) : Session (Option String) := do
  match d.zone with
  | some zone => return some zone
  | none => return (← Session.zones).defaultZone

/-- A specification with a zone. -/
def placedIn (spec : ClusterSpec) : Option String → ClusterSpec
  | none => spec
  | some zone =>
    { spec with awsAttributes := some { spec.awsAttributes.getD {} with zoneId := some zone } }

/-- The specification of the draft, its open choices made. -/
def resolve (d : ClusterDraft) : Session ClusterSpec := do
  Session.act (.ofExcept d.size.validate)
  let version ← resolveSparkVersion d.spec
  let nodeType ← resolveNodeType d.spec
  let zone ← d.resolveZone
  let spec :=
    { d.spec with
      numWorkers := d.size.toParts.1
      autoscale := d.size.toParts.2
      sparkVersion := some version
      nodeTypeId := some nodeType }
  return placedIn spec zone

/-- The specification of the draft without creating anything, for jobs that create a cluster for
each run. -/
def buildSpec (d : ClusterDraft) : Session ClusterSpec := .within .cluster d.resolve

/-- Create the cluster; the handle is read right afterwards. -/
def create (d : ClusterDraft) : Session Cluster :=
  .within .cluster do
    if d.spec.clusterName.getD "" = "" then
      throw (.missingField .cluster "cluster_name")
    let spec ← d.resolve
    -- From here on the catalog is not needed.
    Session.act do
      let id : ClusterId ← Action.ask (.clusters (.create spec))
      Cluster.get id

end ClusterDraft

end SparkFleet
