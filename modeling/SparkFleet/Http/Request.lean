import SparkFleet.Call
import SparkFleet.Credentials
import SparkFleet.Http.Base64
import SparkFleet.Http.Form
import SparkFleet.Http.Host
import SparkFleet.Json.Tree

/-!
# Requests

A call is sent as one HTTP request.  Calls that only read are sent with GET and their arguments as
parameters of the query; all others are sent with POST and their arguments as a JSON body.  Each
request carries the credentials in its `Authorization` header.
-/

namespace SparkFleet.Http

/-- The arguments of a call as they are sent. -/
inductive Arguments where
  /-- Parameters of the query, in their order. -/
  | query (parameters : List (String × String))
  | body (value : Json)

/-- An HTTP request. -/
structure Request where
  endpoint : String
  target : String
  authorization : String
  /-- The JSON body of a request that is sent with POST. -/
  body : Option Json

/-- The method: what has a body is posted. -/
def Request.method (r : Request) : String := if r.body.isSome then "POST" else "GET"

/-- The `Content-Type` header, which only a body needs. -/
def Request.contentType (r : Request) : Option String := r.body.map fun _ => "application/json"

/-- What the paths of all endpoints begin with. -/
def apiPath : String := "/api/2.0/"

/-! ### The base path -/

/-- The characters after the authority of a base URL. -/
def afterAuthority (base : List Char) : List Char :=
  let rest := base.dropWhile (· ≠ ':')
  (rest.drop schemeMark.length).dropWhile (· ≠ '/')

/-- Whether a byte of a path stands for itself. -/
def isPathByte (b : UInt8) : Bool :=
  32 < b && b < 127 && !("\"#<>?`\x7b\x7d".toList.contains (Char.ofNat b.toNat))

/-- How a byte of a path is written. -/
def writePathByte (b : UInt8) : List Char :=
  if isPathByte b then [Char.ofNat b.toNat] else Form.percent b

/-- The path of a base URL as it is sent. -/
def basePath (base : String) : List Char :=
  (String.ofList (afterAuthority base.toList)).toUTF8.toList.flatMap writePathByte

/-- The path and the query of a request. -/
def target (base endpoint : String) (arguments : Arguments) : String :=
  let path := basePath base ++ (apiPath ++ endpoint).toList
  match arguments with
  | .query (p :: ps) => String.ofList (path ++ '?' :: Form.write (p :: ps))
  | .query [] | .body _ => String.ofList path

/-! ### Credentials -/

/-- Whether a byte may stand in a header. -/
def isHeaderByte (b : UInt8) : Bool := b == 9 || (32 ≤ b && b ≠ 127)

/-- The `Authorization` header; a token with a control character has none. -/
def authorization? : Credentials → Option String
  | .token token =>
    if token.toUTF8.toList.all isHeaderByte then some ("Bearer " ++ token) else none
  | .basic username password =>
    some ("Basic " ++ Base64.ofBytes (username ++ ":" ++ password).toUTF8)

end Http

/-! ### Arguments -/

open Http

/-- The arguments of a call about clusters. -/
def ClusterCall.arguments : ClusterCall → Arguments
  | .create spec => .body (ClusterSpec.codec.encode spec)
  | .get id => .query [("cluster_id", id.text)]
  | .resize request => .body (ResizeRequest.codec.encode request)
  | .restart id | .terminate id | .permanentDelete id => .body (ClusterId.recordCodec.encode id)
  | .list | .sparkVersions | .nodeTypes | .zones => .query []

/-- The arguments of a call about jobs. -/
def JobCall.arguments : JobCall → Arguments
  | .create settings => .body (JobSettings.codec.encode settings)
  | .get id => .query [("job_id", id.text)]
  | .runNow request => .body (RunRequest.codec.encode request)
  | .getRun id | .getRunOutput id => .query [("run_id", id.text)]
  | .delete id => .body (JobId.recordCodec.encode id)

/-- The arguments of a call about libraries. -/
def LibraryCall.arguments : LibraryCall → Arguments
  | .install id libraries | .uninstall id libraries =>
    .body (LibrariesRequest.codec.encode ⟨id, libraries⟩)
  | .clusterStatus id => .query [("cluster_id", id.text)]

/-- A notebook import as it is sent. -/
def ImportRequest.ofImport (n : NotebookImport) : ImportRequest where
  path := n.path
  format := n.format
  language := n.language
  content := Base64.ofBytes n.content
  overwrite := n.overwrite

/-- The arguments of a call about the workspace. -/
def WorkspaceCall.arguments : WorkspaceCall → Arguments
  | .getStatus path | .list path => .query [("path", path)]
  | .mkdirs path => .body (pathCodec.encode path)
  | .delete path recursive => .body (deletionCodec.encode (path, recursive))
  | .exportNotebook path format => .query [("path", path), ("format", format.name)]
  | .importNotebook n => .body (ImportRequest.codec.encode (.ofImport n))

/-- The arguments of a call about the file store. -/
def FileCall.arguments : FileCall → Arguments
  | .create path overwrite => .body (openingCodec.encode (path, overwrite))
  | .addBlock handle data => .body (blockCodec.encode (handle, Base64.ofBytes data))
  | .close handle => .body (handleCodec.encode handle)
  | .read path offset length =>
    .query [("path", path), ("offset", toString offset.toNat), ("length", toString length.toNat)]
  | .getStatus path | .list path => .query [("path", path)]
  | .delete path recursive => .body (deletionCodec.encode (path, recursive))
  | .move source destination => .body (moveCodec.encode (source, destination))
  | .mkdirs path => .body (pathCodec.encode path)

/-- The arguments of a call. -/
def Call.arguments : Call → Arguments
  | .clusters call => call.arguments
  | .jobs call => call.arguments
  | .libraries call => call.arguments
  | .workspace call => call.arguments
  | .files call => call.arguments

/-- The request of a call; there is none if the credentials cannot be sent. -/
def Call.request? (call : Call) (base : String) (credentials : Credentials) : Option Request := do
  let arguments := call.arguments
  return {
    endpoint := call.endpoint
    target := target base call.endpoint arguments
    authorization := ← authorization? credentials
    body := match arguments with
      | .body value => some value
      | .query _ => none }

end SparkFleet
