import SparkFleet.Http.Base64
import SparkFleet.Call
import SparkFleet.Json.Tree

/-!
# Responses

A response of a status from 200 to 299 is an answer, and its body is read as JSON; a body of white
space counts as an empty object, and where nothing is answered only the syntax matters.  Any other
status is a failure, whatever the body: 401 and 403 are failures of their own, and for the others
the body may tell a code and a message.
-/

namespace SparkFleet.Http

open Wire

/-- An HTTP response. -/
structure Response where
  status : UInt16
  body : List UInt8

/-- Whether a status says that the request succeeded. -/
def isSuccess (status : UInt16) : Bool := 200 ≤ status && status < 300

/-! ### Failures -/

/-- What the body of a failure may tell: a code and a message. -/
def failureCodec : Codec (Option String × Option String) :=
  .record Prod.mk <|
    .field "error_code" (·.1) (.option .text) .optional <|
    .field "message" (·.2) (.option .text) .optional .done

/-- The code and message of a body; a body that is not of the form tells nothing. -/
def failureParts (body : List UInt8) : Option String × Option String :=
  ((Json.parse? body).bind failureCodec.decode).getD (none, none)

/-- The failure of a status that is no success. -/
def failure (endpoint : String) (r : Response) : ApiError :=
  if r.status = 401 then .unauthenticated
  else if r.status = 403 then .unauthorized
  else
    let parts := failureParts r.body
    .status r.status parts.1 (parts.2.getD ("request to " ++ endpoint ++ " failed"))

/-! ### Answers -/

/-- Whether a byte is white space in ASCII. -/
def isAsciiBlank (b : UInt8) : Bool := b == 32 || b == 9 || b == 10 || b == 12 || b == 13

/-- The JSON value of the body of a success. -/
def bodyValue (body : List UInt8) : Except ApiError Json :=
  if body.all isAsciiBlank then
    .ok (.obj [])
  else
    match Json.parse? body with
    | some value => .ok value
    | none => .error (.decode "the body is not one JSON value")

/-- What a codec reads from a value. -/
def readAs {α : Type} (codec : Codec α) (value : Json) : Except ApiError α :=
  match codec.decode value with
  | some a => .ok a
  | none => .error (.decode "the body is not of the expected form")

/-- The content that a text in Base64 stands for. -/
def readContent (text : String) : Except ApiError ByteArray :=
  match Base64.toBytes? text with
  | some content => .ok content
  | none => .error (.decode "invalid base64 content: not the encoding of any bytes")

end Http

open Http

/-- The answer of a call about clusters that a value denotes. -/
def ClusterCall.readAnswer : (c : ClusterCall) → Json → Except ApiError c.Answer
  | .create _, j => readAs ClusterId.recordCodec j
  | .get _, j => readAs ClusterRecord.codec j
  | .list, j => readAs ClusterRecord.listCodec j
  | .resize _, _ | .restart _, _ | .terminate _, _ | .permanentDelete _, _ => .ok ()
  | .sparkVersions, j => readAs SparkVersionOffer.codec j
  | .nodeTypes, j => readAs NodeTypeOffer.codec j
  | .zones, j => readAs ZoneOffer.codec j

/-- The answer of a call about jobs that a value denotes. -/
def JobCall.readAnswer : (c : JobCall) → Json → Except ApiError c.Answer
  | .create _, j => readAs JobId.recordCodec j
  | .get _, j => readAs JobRecord.codec j
  | .runNow _, j => readAs StartedRun.codec j
  | .getRun _, j => readAs RunRecord.codec j
  | .getRunOutput _, j => readAs RunOutput.codec j
  | .delete _, _ => .ok ()

/-- The answer of a call about libraries that a value denotes. -/
def LibraryCall.readAnswer : (c : LibraryCall) → Json → Except ApiError c.Answer
  | .install _ _, _ | .uninstall _ _, _ => .ok ()
  | .clusterStatus _, j => readAs ClusterLibraries.codec j

/-- The answer of a call about the workspace that a value denotes. -/
def WorkspaceCall.readAnswer : (c : WorkspaceCall) → Json → Except ApiError c.Answer
  | .getStatus _, j => readAs ObjectRecord.codec j
  | .list _, j => readAs ObjectRecord.listCodec j
  | .mkdirs _, _ | .delete _ _, _ | .importNotebook _, _ => .ok ()
  | .exportNotebook _ _, j => readAs exportCodec j >>= readContent

/-- The answer of a call about the file store that a value denotes. -/
def FileCall.readAnswer : (c : FileCall) → Json → Except ApiError c.Answer
  | .create _ _, j => readAs handleCodec j
  | .read _ _ _, j => readAs windowCodec j >>= fun window => readContent window.2
  | .getStatus _, j => readAs FileRecord.codec j
  | .list _, j => readAs FileRecord.listCodec j
  | .addBlock _ _, _ | .close _, _ | .delete _ _, _ | .move _ _, _ | .mkdirs _, _ => .ok ()

/-- The answer of a call that a value denotes; where nothing is answered every value will do. -/
def Call.readAnswer : (c : Call) → Json → Except ApiError c.Answer
  | .clusters call => call.readAnswer
  | .jobs call => call.readAnswer
  | .libraries call => call.readAnswer
  | .workspace call => call.readAnswer
  | .files call => call.readAnswer

/-- What a response to a call comes to. -/
def Call.readResponse (c : Call) (r : Response) : Except ApiError c.Answer :=
  if isSuccess r.status then
    bodyValue r.body >>= c.readAnswer
  else
    .error (failure c.endpoint r)

end SparkFleet
