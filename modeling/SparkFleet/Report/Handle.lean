import SparkFleet.Catalog
import SparkFleet.Http.Client
import SparkFleet.Job.Handle
import SparkFleet.Library.Status
import SparkFleet.Report.Failure

/-!
# Reports of handles

What a session hands out, as JSON: handles with the records that they keep, tasks, libraries, the
catalog, and configurations.
-/

namespace SparkFleet.Report

/-! ### Clusters and libraries -/

/-- A library by its identity. -/
def library (l : Library) : Json :=
  .record <|
    [("kind", text l.kind.name), ("identifier", text l.identifier),
      ("repo", optionalText l.repo)] ++
    (l.exclusions.map fun e => ("exclusions", texts e)).toList

/-- The status of a library. -/
def libraryStatus (s : LibraryStatus) : Json :=
  .record [("library", library s.library), ("state", text s.state.name),
    ("messages", texts s.messages), ("for_all_clusters", .bool s.forAllClusters)]

/-- A library that has been installed. -/
def installed (i : InstalledLibrary) : Json :=
  .record [("library", library i.library), ("cluster", text i.cluster.id.text)]

/-- A size. -/
def size : ClusterSize → Json
  | .fixed workers => .record [("fixed", nat workers.toNat)]
  | .autoscale least greatest =>
    .record [("autoscale", .arr [nat least.toNat, nat greatest.toNat])]

/-- A cluster. -/
def cluster (c : Cluster) : Json :=
  .record [("id", text c.id.text), ("name", optionalText c.record.clusterName),
    ("snapshot_state", text c.snapshotState.name),
    ("spark_version", optionalText c.record.sparkVersion),
    ("node_type_id", optionalText c.record.nodeTypeId),
    ("driver_node_type_id", optionalText c.record.driverNodeTypeId),
    ("autotermination_minutes",
      optional (fun n => nat n.toNat) c.record.autoterminationMinutes),
    ("sizing", optional size c.sizing), ("started_at_ms", optionalInt c.startedAt),
    ("terminated_at_ms", optionalInt c.terminatedAt),
    ("info", ClusterRecord.codec.encode c.record), ("debug", text c.debug)]

/-! ### Jobs and runs -/

/-- A notebook. -/
def notebook (n : Notebook) : Json :=
  .record [("path", text n.path), ("language", optionalText (n.language.map Language.name)),
    ("object_id", optionalInt n.objectId)]

/-- A task. -/
def task {k : TaskKind} : Task k → Json
  | .notebook n base =>
    .record [("notebook", notebook n), ("base_parameters", Wire.Codec.textMap.encode base)]
  | .jar uri mainClass parameters =>
    .record [("jar_uri", optionalText uri), ("main_class_name", text mainClass),
      ("parameters", texts parameters)]
  | .python script parameters =>
    .record [("script", text script), ("parameters", texts parameters)]
  | .sparkSubmit parameters => .record [("parameters", texts parameters)]

/-- The word of a kind of task. -/
def kindWord : TaskKind → String
  | .notebook => "notebook"
  | .jar => "jar"
  | .python => "python"
  | .sparkSubmit => "spark_submit"

/-- The word of a kind of job. -/
def variantWord (v : Variant) : String := v.mode.name ++ "_" ++ kindWord v.kind

/-- A kind of job. -/
def variant (v : Variant) : Members :=
  [("variant", text (variantWord v)), ("mode", text v.mode.name), ("kind", text (kindWord v.kind))]

/-- Where and what a job or a run runs. -/
def work {v : Variant} (compute : Compute v.mode) (t : Task v.kind) : Members :=
  variant v ++
    [("cluster", optionalText (compute.cluster.map fun c => c.id.text)), ("task", task t),
      ("new_cluster", optional ClusterSpec.codec.encode compute.newCluster)]

/-- A job. -/
def job {v : Variant} (j : JobOf v) : Json :=
  .record <|
    work j.compute j.task ++
    [("id", .int j.id.number.toInt), ("name", optionalText j.name),
      ("creator", optionalText j.record.creatorUserName),
      ("created_at_ms", optionalInt j.createdAt), ("libraries", .arr (j.libraries.map library)),
      ("settings", JobSettings.codec.encode j.settings)]

/-- A run. -/
def run {v : Variant} (r : RunOf v) : Json :=
  .record <|
    work r.compute r.task ++
    [("id", .int r.id.number.toInt), ("job_id", .int r.jobId.number.toInt),
      ("info", RunRecord.codec.encode r.record),
      ("run_page_url", optionalText r.record.runPageUrl),
      ("started_at_ms", optionalInt r.startedAt)]

/-! ### The catalog -/

/-- The versions that a session knows. -/
def versions (v : SparkVersions) : Members :=
  [("versions", .arr (v.versions.map SparkVersion.codec.encode)),
    ("default", optional SparkVersion.codec.encode v.default?)]

/-- A node type, its cores by their bits. -/
def nodeType (t : NodeType) : Json :=
  match NodeType.codec.encode t with
  | .obj members =>
    .obj (members.map fun m => if m.1 = some "num_cores" then (m.1, double t.numCores) else m)
  | value => value

/-- The node types on offer. -/
def nodeTypeOffer (o : NodeTypeOffer) : Json :=
  .record [("node_types", .arr (o.nodeTypes.map nodeType)),
    ("default_node_type_id", optionalText o.defaultNodeTypeId)]

/-- The node types that a session knows. -/
def nodeTypes (t : NodeTypes) : Members :=
  [("node_types", .arr (t.nodeTypes.map nodeType)), ("default_id", optionalText t.defaultId)]

/-- The zones that a session knows. -/
def zones (z : Zones) : Json :=
  .record [("zones", texts z.zones), ("default_zone", optionalText z.defaultZone)]

/-! ### Configurations -/

/-- Credentials with their secrets. -/
def credentials (c : Credentials) : Json :=
  let parts : Members :=
    match c with
    | .token token => [("token", text token)]
    | .basic username password => [("username", text username), ("password", text password)]
  .record (parts ++ [("debug", text c.debug)])

/-- The timeouts of a connection in seconds. -/
def timeouts (request connect : Span) : Members :=
  [("request_timeout_s", nat (request.toMillis / 1000)),
    ("connect_timeout_s", nat (connect.toMillis / 1000))]

/-- The base URL and the timeouts of a connection. -/
def address (c : Connection) : Members :=
  ("base_url", text (Http.Client.ofConnection c).base) :: timeouts c.requestTimeout c.connectTimeout

/-- A connection. -/
def connection (c : Connection) : Json :=
  .record ([("host", text c.host), ("credentials", credentials c.credentials)] ++ address c)

/-- A configuration, and what comes of it where a session is opened. -/
def config (c : SessionConfig) : Json :=
  .record <|
    [("host", text c.host), ("token", optionalText c.token),
      ("username", optionalText c.username), ("password", optionalText c.password),
      ("debug", text c.debug), ("credentials", result credentials c.credentials),
      ("http_config", result connection c.connection),
      ("session", result (fun _ => text "ok") c.connection)] ++
    timeouts c.requestTimeout c.connectTimeout

end SparkFleet.Report
