import SparkFleet.ApiError
import SparkFleet.Cluster.Offer
import SparkFleet.FileStore.Record
import SparkFleet.Run.Record
import SparkFleet.Workspace.Record

/-!
# Calls of the platform

The platform offers five families of calls.  A call is a value that says what is asked; the type of
its answer depends on it, and its endpoint is the name under which the platform counts and refuses
calls.
-/

namespace SparkFleet

/-- A call about clusters. -/
inductive ClusterCall where
  | create (spec : ClusterSpec)
  | get (cluster : ClusterId)
  | list
  | resize (request : ResizeRequest)
  | restart (cluster : ClusterId)
  | terminate (cluster : ClusterId)
  | permanentDelete (cluster : ClusterId)
  | sparkVersions
  | nodeTypes
  | zones
  deriving DecidableEq

/-- A call about jobs and their runs. -/
inductive JobCall where
  | create (settings : JobSettings)
  | get (job : JobId)
  | runNow (request : RunRequest)
  | getRun (run : RunId)
  | getRunOutput (run : RunId)
  | delete (job : JobId)
  deriving DecidableEq

/-- A call about the libraries of a cluster. -/
inductive LibraryCall where
  | install (cluster : ClusterId) (libraries : List LibrarySpec)
  | uninstall (cluster : ClusterId) (libraries : List LibrarySpec)
  | clusterStatus (cluster : ClusterId)
  deriving DecidableEq

/-- A call about the workspace. -/
inductive WorkspaceCall where
  /-- Read the record of the object at a path. -/
  | getStatus (path : String)
  /-- Read the records of the objects directly below a path. -/
  | list (path : String)
  | mkdirs (path : String)
  | delete (path : String) (recursive : Bool)
  | exportNotebook (path : String) (format : ExportFormat)
  | importNotebook (notebook : NotebookImport)

/-- A call about the file store. -/
inductive FileCall where
  | create (path : String) (overwrite : Bool)
  /-- Append a block to what is being written. -/
  | addBlock (handle : Int64) (data : ByteArray)
  | close (handle : Int64)
  | read (path : String) (offset length : UInt64)
  /-- Read the record of the entry at a path. -/
  | getStatus (path : String)
  | delete (path : String) (recursive : Bool)
  | move (source destination : String)
  | mkdirs (path : String)
  /-- Read the records of the entries directly below a path. -/
  | list (path : String)

/-- A call of the platform. -/
inductive Call where
  | clusters (call : ClusterCall)
  | jobs (call : JobCall)
  | libraries (call : LibraryCall)
  | workspace (call : WorkspaceCall)
  | files (call : FileCall)

/-! ### Answers -/

/-- What a call about clusters answers. -/
@[reducible] def ClusterCall.Answer : ClusterCall → Type
  | .create _ => ClusterId
  | .get _ => ClusterRecord
  | .list => List ClusterRecord
  | .resize _ | .restart _ | .terminate _ | .permanentDelete _ => Unit
  | .sparkVersions => SparkVersionOffer
  | .nodeTypes => NodeTypeOffer
  | .zones => ZoneOffer

/-- What a call about jobs answers. -/
@[reducible] def JobCall.Answer : JobCall → Type
  | .create _ => JobId
  | .get _ => JobRecord
  | .runNow _ => StartedRun
  | .getRun _ => RunRecord
  | .getRunOutput _ => RunOutput
  | .delete _ => Unit

/-- What a call about libraries answers. -/
@[reducible] def LibraryCall.Answer : LibraryCall → Type
  | .install _ _ | .uninstall _ _ => Unit
  | .clusterStatus _ => ClusterLibraries

/-- What a call about the workspace answers. -/
@[reducible] def WorkspaceCall.Answer : WorkspaceCall → Type
  | .getStatus _ => ObjectRecord
  | .list _ => List ObjectRecord
  | .mkdirs _ | .delete _ _ | .importNotebook _ => Unit
  | .exportNotebook _ _ => ByteArray

/-- What a call about the file store answers. -/
@[reducible] def FileCall.Answer : FileCall → Type
  | .create _ _ => Int64
  | .read _ _ _ => ByteArray
  | .getStatus _ => FileRecord
  | .list _ => List FileRecord
  | .addBlock _ _ | .close _ | .delete _ _ | .move _ _ | .mkdirs _ => Unit

/-- What a call answers. -/
@[reducible] def Call.Answer : Call → Type
  | .clusters call => call.Answer
  | .jobs call => call.Answer
  | .libraries call => call.Answer
  | .workspace call => call.Answer
  | .files call => call.Answer

/-! ### Endpoints -/

/-- The endpoint of a call about clusters. -/
def ClusterCall.endpoint : ClusterCall → String
  | .create _ => "clusters/create"
  | .get _ => "clusters/get"
  | .list => "clusters/list"
  | .resize _ => "clusters/resize"
  | .restart _ => "clusters/restart"
  | .terminate _ => "clusters/delete"
  | .permanentDelete _ => "clusters/permanent-delete"
  | .sparkVersions => "clusters/spark-versions"
  | .nodeTypes => "clusters/list-node-types"
  | .zones => "clusters/list-zones"

/-- The endpoint of a call about jobs. -/
def JobCall.endpoint : JobCall → String
  | .create _ => "jobs/create"
  | .get _ => "jobs/get"
  | .runNow _ => "jobs/run-now"
  | .getRun _ => "jobs/runs/get"
  | .getRunOutput _ => "jobs/runs/get-output"
  | .delete _ => "jobs/delete"

/-- The endpoint of a call about libraries. -/
def LibraryCall.endpoint : LibraryCall → String
  | .install _ _ => "libraries/install"
  | .uninstall _ _ => "libraries/uninstall"
  | .clusterStatus _ => "libraries/cluster-status"

/-- The endpoint of a call about the workspace. -/
def WorkspaceCall.endpoint : WorkspaceCall → String
  | .getStatus _ => "workspace/get-status"
  | .list _ => "workspace/list"
  | .mkdirs _ => "workspace/mkdirs"
  | .delete _ _ => "workspace/delete"
  | .exportNotebook _ _ => "workspace/export"
  | .importNotebook _ => "workspace/import"

/-- The endpoint of a call about the file store. -/
def FileCall.endpoint : FileCall → String
  | .create _ _ => "dbfs/create"
  | .addBlock _ _ => "dbfs/add-block"
  | .close _ => "dbfs/close"
  | .read _ _ _ => "dbfs/read"
  | .getStatus _ => "dbfs/get-status"
  | .delete _ _ => "dbfs/delete"
  | .move _ _ => "dbfs/move"
  | .mkdirs _ => "dbfs/mkdirs"
  | .list _ => "dbfs/list"

/-- The endpoint of a call. -/
def Call.endpoint : Call → String
  | .clusters call => call.endpoint
  | .jobs call => call.endpoint
  | .libraries call => call.endpoint
  | .workspace call => call.endpoint
  | .files call => call.endpoint

end SparkFleet
