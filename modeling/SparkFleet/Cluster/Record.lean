import SparkFleet.Cluster.State
import SparkFleet.Id

/-!
# Cluster records

What is sent to create or resize a cluster, and what the platform reports about one.
-/

namespace SparkFleet

open Wire

/-- The bounds of a cluster that adapts its number of workers. -/
structure AutoScale where
  minWorkers : UInt32
  maxWorkers : UInt32
  deriving DecidableEq

/-- Bounds are written as a record of two numbers. -/
def AutoScale.codec : Codec AutoScale :=
  .record AutoScale.mk <|
    .field "min_workers" minWorkers uint32 .required <|
    .field "max_workers" maxWorkers uint32 .required .done

/-- Where the nodes of a cluster are placed. -/
structure AwsAttributes where
  zoneId : Option String := none
  availability : Option String := none
  /-- How many nodes are on demand before others are used. -/
  firstOnDemand : Option UInt32 := none
  deriving DecidableEq

/-- Attributes are written with the fields that are set. -/
def AwsAttributes.codec : Codec AwsAttributes :=
  .record AwsAttributes.mk <|
    .field "zone_id" zoneId (.option .text) .whenSome <|
    .field "availability" availability (.option .text) .whenSome <|
    .field "first_on_demand" firstOnDemand (.option uint32) .whenSome .done

/-- A place in the file store. -/
structure DbfsLocation where
  destination : String
  deriving DecidableEq

/-- A place in the file store is written as a record of its path. -/
def DbfsLocation.codec : Codec DbfsLocation :=
  .record DbfsLocation.mk <| .field "destination" destination .text .required .done

/-- A place in object storage. -/
structure S3Location where
  destination : String
  region : Option String
  deriving DecidableEq

/-- A place in object storage is written with its region, if it has one. -/
def S3Location.codec : Codec S3Location :=
  .record S3Location.mk <|
    .field "destination" destination .text .required <|
    .field "region" region (.option .text) .whenSome .done

/-- Where a script that prepares nodes is kept; one of the fields is set. -/
structure InitScript where
  dbfs : Option DbfsLocation := none
  s3 : Option S3Location := none
  deriving DecidableEq

/-- A script is written with the place that is set. -/
def InitScript.codec : Codec InitScript :=
  .record InitScript.mk <|
    .field "dbfs" dbfs (.option DbfsLocation.codec) .whenSome <|
    .field "s3" s3 (.option S3Location.codec) .whenSome .done

/-- What a cluster is to be like, where one is created by itself or for each run of a job. -/
structure ClusterSpec where
  clusterName : Option String := none
  sparkVersion : Option String := none
  nodeTypeId : Option String := none
  driverNodeTypeId : Option String := none
  numWorkers : Option UInt32 := none
  autoscale : Option AutoScale := none
  /-- After how many idle minutes the cluster ends. -/
  autoterminationMinutes : Option UInt32 := none
  customTags : TextMap := .empty
  sparkConf : TextMap := .empty
  sparkEnvVars : TextMap := .empty
  /-- Scripts that prepare the nodes, in their order. -/
  initScripts : List InitScript := []
  awsAttributes : Option AwsAttributes := none
  deriving DecidableEq

/-- A specification is written with the fields that are set. -/
def ClusterSpec.codec : Codec ClusterSpec :=
  .record ClusterSpec.mk <|
    .field "cluster_name" clusterName (.option .text) .whenSome <|
    .field "spark_version" sparkVersion (.option .text) .whenSome <|
    .field "node_type_id" nodeTypeId (.option .text) .whenSome <|
    .field "driver_node_type_id" driverNodeTypeId (.option .text) .whenSome <|
    .field "num_workers" numWorkers (.option uint32) .whenSome <|
    .field "autoscale" autoscale (.option AutoScale.codec) .whenSome <|
    .field "autotermination_minutes" autoterminationMinutes (.option uint32) .whenSome <|
    .field "custom_tags" customTags .textMap .whenMapFilled <|
    .field "spark_conf" sparkConf .textMap .whenMapFilled <|
    .field "spark_env_vars" sparkEnvVars .textMap .whenMapFilled <|
    .field "init_scripts" initScripts (.list InitScript.codec) .whenFilled <|
    .field "aws_attributes" awsAttributes (.option AwsAttributes.codec) .whenSome .done

/-- A node of a running cluster. -/
structure SparkNode where
  nodeId : Option String := none
  instanceId : Option String := none
  privateIp : Option String := none
  publicDns : Option String := none
  /-- When it was started, in milliseconds. -/
  startTimestamp : Option Int64 := none
  deriving DecidableEq

/-- A node is written with every field. -/
def SparkNode.codec : Codec SparkNode :=
  .record SparkNode.mk <|
    .field "node_id" nodeId (.option .text) (.defaultsTo none) <|
    .field "instance_id" instanceId (.option .text) (.defaultsTo none) <|
    .field "private_ip" privateIp (.option .text) (.defaultsTo none) <|
    .field "public_dns" publicDns (.option .text) (.defaultsTo none) <|
    .field "start_timestamp" startTimestamp (.option int64) (.defaultsTo none) .done

/-- What the platform reports about a cluster. -/
structure ClusterRecord where
  clusterId : ClusterId
  clusterName : Option String := none
  sparkVersion : Option String := none
  nodeTypeId : Option String := none
  driverNodeTypeId : Option String := none
  numWorkers : Option UInt32 := none
  autoscale : Option AutoScale := none
  /-- After how many idle minutes the cluster ends. -/
  autoterminationMinutes : Option UInt32 := none
  state : ClusterState := .unknown
  stateMessage : Option String := none
  driver : Option SparkNode := none
  executors : List SparkNode := []
  customTags : TextMap := .empty
  sparkConf : TextMap := .empty
  /-- Scripts that prepare the nodes, in their order. -/
  initScripts : List InitScript := []
  awsAttributes : Option AwsAttributes := none
  creatorUserName : Option String := none
  /-- When the cluster was started, in milliseconds. -/
  startTime : Option Int64 := none
  /-- When the cluster was terminated, in milliseconds. -/
  terminatedTime : Option Int64 := none
  deriving DecidableEq

/-- A cluster record is written with every field. -/
def ClusterRecord.codec : Codec ClusterRecord :=
  .record ClusterRecord.mk <|
    .field "cluster_id" clusterId ClusterId.codec .required <|
    .field "cluster_name" clusterName (.option .text) (.defaultsTo none) <|
    .field "spark_version" sparkVersion (.option .text) (.defaultsTo none) <|
    .field "node_type_id" nodeTypeId (.option .text) (.defaultsTo none) <|
    .field "driver_node_type_id" driverNodeTypeId (.option .text) (.defaultsTo none) <|
    .field "num_workers" numWorkers (.option uint32) (.defaultsTo none) <|
    .field "autoscale" autoscale (.option AutoScale.codec) (.defaultsTo none) <|
    .field "autotermination_minutes" autoterminationMinutes (.option uint32) (.defaultsTo none) <|
    .field "state" state ClusterState.codec (.defaultsTo .unknown) <|
    .field "state_message" stateMessage (.option .text) (.defaultsTo none) <|
    .field "driver" driver (.option SparkNode.codec) (.defaultsTo none) <|
    .field "executors" executors (.list SparkNode.codec) (.defaultsTo []) <|
    .field "custom_tags" customTags .textMap (.defaultsTo .empty) <|
    .field "spark_conf" sparkConf .textMap (.defaultsTo .empty) <|
    .field "init_scripts" initScripts (.list InitScript.codec) (.defaultsTo []) <|
    .field "aws_attributes" awsAttributes (.option AwsAttributes.codec) (.defaultsTo none) <|
    .field "creator_user_name" creatorUserName (.option .text) (.defaultsTo none) <|
    .field "start_time" startTime (.option int64) (.defaultsTo none) <|
    .field "terminated_time" terminatedTime (.option int64) (.defaultsTo none) .done

/-- A request to change the number of a cluster's workers. -/
structure ResizeRequest where
  clusterId : ClusterId
  numWorkers : Option UInt32 := none
  autoscale : Option AutoScale := none
  deriving DecidableEq

/-- A resize request is written with the sizing that is set. -/
def ResizeRequest.codec : Codec ResizeRequest :=
  .record ResizeRequest.mk <|
    .field "cluster_id" clusterId ClusterId.codec .required <|
    .field "num_workers" numWorkers (.option uint32) .whenSome <|
    .field "autoscale" autoscale (.option AutoScale.codec) .whenSome .done

/-- A record that names a cluster: the body of a request about it, and the answer where one is
created. -/
def ClusterId.recordCodec : Codec ClusterId := wrapped "cluster_id" ClusterId.codec

/-- The answer that lists clusters. -/
def ClusterRecord.listCodec : Codec (List ClusterRecord) :=
  wrappedOr "clusters" (.list ClusterRecord.codec) []

end SparkFleet
