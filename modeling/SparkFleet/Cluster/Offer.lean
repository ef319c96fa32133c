import SparkFleet.Wire.Codec

/-!
# What the platform offers

The runtime versions, node types and zones that a cluster may be created with, as the platform
reports them.
-/

namespace SparkFleet

open Wire

/-- A runtime version. -/
structure SparkVersion where
  key : String
  name : String
  deriving DecidableEq

/-- A version is written as a record of its key and name. -/
def SparkVersion.codec : Codec SparkVersion :=
  .record SparkVersion.mk <|
    .field "key" key .text .required <|
    .field "name" name .text .required .done

/-- The versions on offer. -/
structure SparkVersionOffer where
  versions : List SparkVersion := []
  /-- The key of the version that is used where none is named. -/
  defaultVersionKey : Option String := none
  deriving DecidableEq

/-- The versions on offer are written with every field. -/
def SparkVersionOffer.codec : Codec SparkVersionOffer :=
  .record SparkVersionOffer.mk <|
    .field "versions" versions (.list SparkVersion.codec) (.defaultsTo []) <|
    .field "default_version_key" defaultVersionKey (.option .text) (.defaultsTo none) .done

/-- A node type. -/
structure NodeType where
  nodeTypeId : String
  /-- Memory in mebibytes. -/
  memoryMb : UInt64 := 0
  /-- The number of cores, which need not be whole. -/
  numCores : Float := 0
  description : String := ""
  /-- The machine that a node of this type runs on. -/
  instanceTypeId : Option String := none
  isDeprecated : Bool := false

/-- A node type is written with every field. -/
def NodeType.codec : Codec NodeType :=
  .record NodeType.mk <|
    .field "node_type_id" nodeTypeId .text .required <|
    .field "memory_mb" memoryMb uint64 (.defaultsTo 0) <|
    .field "num_cores" numCores .double (.defaultsTo 0) <|
    .field "description" description .text (.defaultsTo "") <|
    .field "instance_type_id" instanceTypeId (.option .text) (.defaultsTo none) <|
    .field "is_deprecated" isDeprecated .flag (.defaultsTo false) .done

/-- The node types on offer. -/
structure NodeTypeOffer where
  nodeTypes : List NodeType := []
  /-- The identifier of the type that is used where none is named. -/
  defaultNodeTypeId : Option String := none

/-- The node types on offer are written with every field. -/
def NodeTypeOffer.codec : Codec NodeTypeOffer :=
  .record NodeTypeOffer.mk <|
    .field "node_types" nodeTypes (.list NodeType.codec) (.defaultsTo []) <|
    .field "default_node_type_id" defaultNodeTypeId (.option .text) (.defaultsTo none) .done

/-- The zones on offer. -/
structure ZoneOffer where
  zones : List String := []
  /-- The zone that is used where none is named. -/
  defaultZone : Option String := none
  deriving DecidableEq

/-- The zones on offer are written with every field. -/
def ZoneOffer.codec : Codec ZoneOffer :=
  .record ZoneOffer.mk <|
    .field "zones" zones (.list .text) (.defaultsTo []) <|
    .field "default_zone" defaultZone (.option .text) (.defaultsTo none) .done

end SparkFleet
