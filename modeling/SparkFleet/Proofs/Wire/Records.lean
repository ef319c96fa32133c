import SparkFleet.Call
import SparkFleet.Proofs.Json.Render
import SparkFleet.Proofs.Wire.RoundTrip

/-!
# The records of the wire

Every record has names of its own for its fields and is made of what its fields say, so its codec
round-trips (`Codec.Present`); each instance takes those of the records that it is made of.

The main statement `records_round_trip` says that every value of every record is read back from the
text that it is written as.  The records are listed in `WireRecord`.
-/

namespace SparkFleet

open Wire

/-! ### Identifiers and names -/

instance : ClusterId.codec.Present :=
  .refined fun id => by
    rw [ClusterId.ofText, dif_pos id.notBlank]
    rfl

instance : JobId.codec.Present := .refined fun _ => rfl

instance : RunId.codec.Present := .refined fun _ => rfl

instance : ClusterState.codec.Present := .enumeration fun s => by cases s <;> rfl

instance : RunLifeCycle.codec.Present := .enumeration fun s => by cases s <;> rfl

instance : RunResult.codec.Present := .enumeration fun s => by cases s <;> rfl

instance : InstallStatus.codec.Present := .enumeration fun s => by cases s <;> rfl

instance : ObjectType.codec.Present := .enumeration fun t => by cases t <;> rfl

instance : Language.codec.Present := .enumeration fun l => by cases l <;> rfl

instance : ExportFormat.codec.Present := .enumeration fun f => by cases f <;> rfl

/-! ### Clusters -/

instance : AutoScale.codec.Present := .record (by decide) fun _ => rfl

instance : AwsAttributes.codec.Present := .record (by decide) fun _ => rfl

instance : DbfsLocation.codec.Present := .record (by decide) fun _ => rfl

instance : S3Location.codec.Present := .record (by decide) fun _ => rfl

instance : InitScript.codec.Present := .record (by decide) fun _ => rfl

instance : ClusterSpec.codec.Present := .record (by decide) fun _ => rfl

instance : SparkNode.codec.Present := .record (by decide) fun _ => rfl

instance : ClusterRecord.codec.Present := .record (by decide) fun _ => rfl

instance : ClusterId.recordCodec.Present := .record (by decide) fun _ => rfl

instance : ClusterRecord.listCodec.Present := .record (by decide) fun _ => rfl

instance : ResizeRequest.codec.Present := .record (by decide) fun _ => rfl

instance : SparkVersion.codec.Present := .record (by decide) fun _ => rfl

instance : SparkVersionOffer.codec.Present := .record (by decide) fun _ => rfl

instance : ZoneOffer.codec.Present := .record (by decide) fun _ => rfl

/-! ### Libraries -/

instance : PyPiPackage.codec.Present := .record (by decide) fun _ => rfl

instance : MavenArtifact.codec.Present := .record (by decide) fun _ => rfl

instance : CranPackage.codec.Present := .record (by decide) fun _ => rfl

instance : LibrarySpec.codec.Present := .record (by decide) fun _ => rfl

instance : LibraryEntry.codec.Present := .record (by decide) fun _ => rfl

instance : ClusterLibraries.codec.Present := .record (by decide) fun _ => rfl

instance : LibrariesRequest.codec.Present := .record (by decide) fun _ => rfl

/-! ### Jobs and runs -/

instance : NotebookTaskSettings.codec.Present := .record (by decide) fun _ => rfl

instance : JarTaskSettings.codec.Present := .record (by decide) fun _ => rfl

instance : PythonTaskSettings.codec.Present := .record (by decide) fun _ => rfl

instance : SubmitTaskSettings.codec.Present := .record (by decide) fun _ => rfl

instance : CronSchedule.codec.Present := .record (by decide) fun _ => rfl

instance : JobSettings.codec.Present := .record (by decide) fun _ => rfl

instance : JobRecord.codec.Present := .record (by decide) fun _ => rfl

instance : JobId.recordCodec.Present := .record (by decide) fun _ => rfl

instance : RunRequest.codec.Present := .record (by decide) fun _ => rfl

instance : StartedRun.codec.Present := .record (by decide) fun _ => rfl

instance : RunState.codec.Present := .record (by decide) fun _ => rfl

instance : RunTarget.codec.Present := .record (by decide) fun _ => rfl

instance : ClusterInstance.codec.Present := .record (by decide) fun _ => rfl

instance : RunTask.codec.Present := .record (by decide) fun _ => rfl

instance : RunRecord.codec.Present := .record (by decide) fun _ => rfl

instance : NotebookOutput.codec.Present := .record (by decide) fun _ => rfl

instance : RunOutput.codec.Present := .record (by decide) fun _ => rfl

/-! ### The workspace and the file store -/

instance : ObjectRecord.codec.Present := .record (by decide) fun _ => rfl

instance : ObjectRecord.listCodec.Present := .record (by decide) fun _ => rfl

instance : ImportRequest.codec.Present := .record (by decide) fun _ => rfl

instance : exportCodec.Present := .record (by decide) fun _ => rfl

instance : pathCodec.Present := .record (by decide) fun _ => rfl

instance : deletionCodec.Present := .record (by decide) fun _ => rfl

instance : FileRecord.codec.Present := .record (by decide) fun _ => rfl

instance : FileRecord.listCodec.Present := .record (by decide) fun _ => rfl

instance : openingCodec.Present := .record (by decide) fun _ => rfl

instance : handleCodec.Present := .record (by decide) fun _ => rfl

instance : blockCodec.Present := .record (by decide) fun _ => rfl

instance : windowCodec.Present := .record (by decide) fun _ => rfl

instance : moveCodec.Present := .record (by decide) fun _ => rfl

/-! ### All records -/

/-- The records of requests and answers, and those that they are made of, apart from the offer of
node types, which holds doubles. -/
inductive WireRecord where
  | autoScale | awsAttributes | dbfsLocation | s3Location | initScript
  | clusterSpec | sparkNode | cluster
  /-- The answer where a cluster is created, and the body of a request about one. -/
  | clusterReference
  /-- The answer that lists clusters. -/
  | clusters
  | resizeRequest | sparkVersion | sparkVersionOffer | zoneOffer | pyPiPackage
  | mavenArtifact | cranPackage | librarySpec | libraryEntry | clusterLibraries
  | librariesRequest | notebookTask | jarTask | pythonTask | submitTask
  | cronSchedule | jobSettings | job
  /-- The answer where a job is created, and the body of a request about one. -/
  | jobReference
  | runRequest | startedRun | runState | runTarget | clusterInstance | runTask
  | run | notebookOutput | runOutput | object
  /-- The answer that lists objects of the workspace. -/
  | objects
  | importRequest
  /-- The answer with the content of a notebook. -/
  | exportedContent
  /-- The body of a request about a path. -/
  | pathReference
  /-- The body of a request to delete what is at a path. -/
  | deletion
  | file
  /-- The answer that lists files. -/
  | files
  /-- The body of a request to open a path for writing. -/
  | opening
  /-- The answer with an open handle, and the body of a request about one. -/
  | handleReference
  /-- The body of a request to append a block. -/
  | block
  /-- The answer to a read. -/
  | window
  /-- The body of a request to move a file. -/
  | move
  deriving DecidableEq

namespace WireRecord

/-- What a record says. -/
@[reducible] def Value : WireRecord → Type
  | .autoScale => AutoScale
  | .awsAttributes => AwsAttributes
  | .dbfsLocation => DbfsLocation
  | .s3Location => S3Location
  | .initScript => InitScript
  | .clusterSpec => ClusterSpec
  | .sparkNode => SparkNode
  | .cluster => ClusterRecord
  | .clusterReference => ClusterId
  | .clusters => List ClusterRecord
  | .resizeRequest => ResizeRequest
  | .sparkVersion => SparkVersion
  | .sparkVersionOffer => SparkVersionOffer
  | .zoneOffer => ZoneOffer
  | .pyPiPackage => PyPiPackage
  | .mavenArtifact => MavenArtifact
  | .cranPackage => CranPackage
  | .librarySpec => LibrarySpec
  | .libraryEntry => LibraryEntry
  | .clusterLibraries => ClusterLibraries
  | .librariesRequest => LibrariesRequest
  | .notebookTask => NotebookTaskSettings
  | .jarTask => JarTaskSettings
  | .pythonTask => PythonTaskSettings
  | .submitTask => SubmitTaskSettings
  | .cronSchedule => CronSchedule
  | .jobSettings => JobSettings
  | .job => JobRecord
  | .jobReference => JobId
  | .runRequest => RunRequest
  | .startedRun => StartedRun
  | .runState => RunState
  | .runTarget => RunTarget
  | .clusterInstance => ClusterInstance
  | .runTask => RunTask
  | .run => RunRecord
  | .notebookOutput => NotebookOutput
  | .runOutput => RunOutput
  | .object => ObjectRecord
  | .objects => List ObjectRecord
  | .importRequest => ImportRequest
  | .exportedContent | .pathReference => String
  | .deletion | .opening => String × Bool
  | .file => FileRecord
  | .files => List FileRecord
  | .handleReference => Int64
  | .block => Int64 × String
  | .window => UInt64 × String
  | .move => String × String

/-- How a record is written. -/
@[reducible] def codec : (record : WireRecord) → Codec record.Value
  | .autoScale => AutoScale.codec
  | .awsAttributes => AwsAttributes.codec
  | .dbfsLocation => DbfsLocation.codec
  | .s3Location => S3Location.codec
  | .initScript => InitScript.codec
  | .clusterSpec => ClusterSpec.codec
  | .sparkNode => SparkNode.codec
  | .cluster => ClusterRecord.codec
  | .clusterReference => ClusterId.recordCodec
  | .clusters => ClusterRecord.listCodec
  | .resizeRequest => ResizeRequest.codec
  | .sparkVersion => SparkVersion.codec
  | .sparkVersionOffer => SparkVersionOffer.codec
  | .zoneOffer => ZoneOffer.codec
  | .pyPiPackage => PyPiPackage.codec
  | .mavenArtifact => MavenArtifact.codec
  | .cranPackage => CranPackage.codec
  | .librarySpec => LibrarySpec.codec
  | .libraryEntry => LibraryEntry.codec
  | .clusterLibraries => ClusterLibraries.codec
  | .librariesRequest => LibrariesRequest.codec
  | .notebookTask => NotebookTaskSettings.codec
  | .jarTask => JarTaskSettings.codec
  | .pythonTask => PythonTaskSettings.codec
  | .submitTask => SubmitTaskSettings.codec
  | .cronSchedule => CronSchedule.codec
  | .jobSettings => JobSettings.codec
  | .job => JobRecord.codec
  | .jobReference => JobId.recordCodec
  | .runRequest => RunRequest.codec
  | .startedRun => StartedRun.codec
  | .runState => RunState.codec
  | .runTarget => RunTarget.codec
  | .clusterInstance => ClusterInstance.codec
  | .runTask => RunTask.codec
  | .run => RunRecord.codec
  | .notebookOutput => NotebookOutput.codec
  | .runOutput => RunOutput.codec
  | .object => ObjectRecord.codec
  | .objects => ObjectRecord.listCodec
  | .importRequest => ImportRequest.codec
  | .exportedContent => exportCodec
  | .pathReference => pathCodec
  | .deletion => deletionCodec
  | .file => FileRecord.codec
  | .files => FileRecord.listCodec
  | .opening => openingCodec
  | .handleReference => handleCodec
  | .block => blockCodec
  | .window => windowCodec
  | .move => moveCodec

theorem present_codec (record : WireRecord) : record.codec.Present := by
  cases record <;> exact inferInstance

/-- The text that a value of a record is written as, in UTF-8. -/
def text (record : WireRecord) (value : record.Value) : List UInt8 :=
  (Json.render (record.codec.encode value)).toUTF8.data.toList

/-- The value of a record that a text denotes. -/
def ofText? (record : WireRecord) (text : List UInt8) : Option record.Value :=
  (Json.parse? text).bind record.codec.decode

end WireRecord

/-- Every value of every record is read back from its text. -/
theorem records_round_trip (record : WireRecord) (value : record.Value) :
    record.ofText? (record.text value) = some value := by
  have hText : Json.parse? (record.text value) = some (record.codec.encode value) :=
    Json.parse?_render _
  rw [WireRecord.ofText?, hText]
  exact record.present_codec.decode_encode value

end SparkFleet
