/-!
# Failed calls

Why a call of the platform failed: the platform refused it with a status, or it could not be made,
or its answer could not be read.  The statuses 401 and 403 are failures of their own.
-/

namespace SparkFleet

/-- Why a call of the platform failed. -/
inductive ApiError where
  | unauthenticated
  | unauthorized
  /-- The platform refused with another status, perhaps with a code of its own. -/
  | status (code : UInt16) (errorCode : Option String) (message : String)
  /-- The request could not be sent, or there was no answer. -/
  | request (reason : String)
  | decode (reason : String)
  deriving DecidableEq

namespace ApiError

/-- The code that says that a named resource does not exist. -/
def missingResource : String := "RESOURCE_DOES_NOT_EXIST"

/-- The message of a failure. -/
def message : ApiError → String
  | .unauthenticated => "HTTP 401 Unauthorized: not authenticated"
  | .unauthorized => "HTTP 403 Forbidden: not authorized"
  | .status code _ message => "HTTP " ++ toString code.toNat ++ ": " ++ message
  | .request reason => "request failed: " ++ reason
  | .decode reason => "invalid response: " ++ reason

/-- The status of the answer, if there was one. -/
def statusCode : ApiError → Option UInt16
  | .unauthenticated => some 401
  | .unauthorized => some 403
  | .status code _ _ => some code
  | .request _ | .decode _ => none

/-- Whether the platform says that the resource does not exist. -/
def isNotFound : ApiError → Bool
  | .status code errorCode _ => code == 404 || errorCode == some missingResource
  | _ => false

/-- Whether the credentials are at fault. -/
def isAuthFailure : ApiError → Bool
  | .unauthenticated | .unauthorized => true
  | _ => false

end ApiError

end SparkFleet
