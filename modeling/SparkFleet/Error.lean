import SparkFleet.ApiError
import SparkFleet.Cluster.State
import SparkFleet.Id
import SparkFleet.Span

/-!
# Errors

Every operation reports an `Error`.  A configuration error belongs to the family of resources that
the failed operation is about; an error of another family, or of none, is wrapped where it leaves
an operation, so that the caller meets one family and can still look for the root cause.
-/

namespace SparkFleet

/-- The family of resources that a configuration error belongs to. -/
inductive Family where
  | cluster | job | run | library | workspace | session
  deriving DecidableEq

/-- The name of a family in messages. -/
def Family.name : Family → String
  | .cluster => "cluster"
  | .job => "job"
  | .run => "run"
  | .library => "library"
  | .workspace => "workspace"
  | .session => "session"

/-- Every family. -/
def Family.all : List Family := [.cluster, .job, .run, .library, .workspace, .session]

/-- Why an operation failed. -/
inductive Error where
  | transport (cause : ApiError)
  | config (family : Family) (message : String)
  /-- An error that was wrapped for a family. -/
  | wrapped (family : Family) (message : String) (source : Error)
  | missingField (family : Family) (field : String)
  /-- A record describes none of the kinds of job. -/
  | unsupportedType (family : Family) (detail : String)
  /-- The state of a cluster does not allow an operation, which goes by its name in messages. -/
  | invalidState (cluster : ClusterId) (state : ClusterState) (operation : String)
  /-- Something that a record refers to is not what it should be. -/
  | resource (message : String)
  /-- Something that a record refers to could not be found, for a reason. -/
  | unresolved (message : String) (source : Error)
  | io (message : String)
  | timeout (what : String) (waited : Span)
  deriving DecidableEq

namespace Error

/-- What messages of a family begin with. -/
def heading (family : Family) : String := family.name ++ " configuration error: "

/-- The message of an error. -/
def message : Error → String
  | .transport cause => "transport error: " ++ cause.message
  | .config family message | .wrapped family message _ => heading family ++ message
  | .missingField family field => heading family ++ "required field `" ++ field ++ "` is missing"
  | .unsupportedType family detail => heading family ++ "unsupported job type: " ++ detail
  | .invalidState cluster state operation =>
    heading .cluster ++ "cannot " ++ operation ++ " cluster " ++ cluster.text ++
      " in state " ++ state.name
  | .resource message | .unresolved message _ => "resource error: " ++ message
  | .io message => "I/O error: " ++ message
  | .timeout what waited => "timed out after " ++ waited.text ++ " waiting for " ++ what

/-- The family of a configuration error. -/
def family : Error → Option Family
  | .config family _ | .wrapped family _ _ | .missingField family _ | .unsupportedType family _ =>
    some family
  | .invalidState _ _ _ => some .cluster
  | .transport _ | .resource _ | .unresolved _ _ | .io _ | .timeout _ _ => none

/-- The error as one of a family: itself if it belongs to it, and wrapped otherwise. -/
def within (f : Family) (e : Error) : Error :=
  if e.family = some f then e else .wrapped f e.message e

/-- The error that this one wraps. -/
def source : Error → Option Error
  | .wrapped _ _ source | .unresolved _ source => some source
  | _ => none

/-- The innermost wrapped error. -/
def rootCause : Error → Error
  | .wrapped _ _ source | .unresolved _ source => source.rootCause
  | e => e

/-- The failed call at the root of the error. -/
def transport? (e : Error) : Option ApiError :=
  match e.rootCause with
  | .transport cause => some cause
  | _ => none

end Error

end SparkFleet
