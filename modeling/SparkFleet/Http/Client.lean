import SparkFleet.Config
import SparkFleet.Http.Request
import SparkFleet.Http.Response

/-!
# The HTTP client

A client makes each call by one request and reads the response.  A call whose request cannot be made
or is not answered has failed; no call is made twice.
-/

namespace SparkFleet.Http

/-- A client for a workspace. -/
structure Client where
  base : String
  credentials : Credentials

/-- The client of a connection. -/
def Client.ofConnection (c : Connection) : Client := ⟨baseUrl c.host, c.credentials⟩

/-- What takes requests: it responds, or gives the reason why there is no response. -/
abbrev Server (σ : Type) := Request → σ → Except String Response × σ

/-- Make a call. -/
def Client.answer {σ : Type} (client : Client) (server : Server σ) (c : Call) (s : σ) :
    Except ApiError c.Answer × σ :=
  match c.request? client.base client.credentials with
  -- No request has been made, so the server has seen nothing.
  | none => (.error (.request "the credentials cannot be sent in a header"), s)
  | some request =>
    match server request s with
    | (.ok response, s) => (c.readResponse response, s)
    | (.error reason, s) => (.error (.request reason), s)

end SparkFleet.Http
