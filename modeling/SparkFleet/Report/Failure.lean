import SparkFleet.Credentials
import SparkFleet.Error
import SparkFleet.Report.Content

/-!
# Reports of failures

A failure is reported with its message and with what a caller may ask about it, down to its root
cause.  The reason of a request that was not answered or of an answer that could not be read is for
people only, and a report may leave it out.
-/

namespace SparkFleet.Report

/-! ### Reasons -/

/-- The text with everything after the first occurrence of a mark left out, if it occurs. -/
def cutAfter? (mark : List Char) : List Char → Option (List Char)
  | [] => none
  | c :: rest =>
    if mark.isPrefixOf (c :: rest) then some (mark ++ ['*'])
    else (cutAfter? mark rest).map (c :: ·)

/-- What the reason of a failed call comes after in messages; the first mark that occurs counts. -/
def reasonMarks : ApiError → List String
  | .decode _ => ["invalid response: invalid base64 content: ", "invalid response: "]
  | .request _ => ["request failed: "]
  | _ => []

/-- A message without the reason of the failed call at its root. -/
def withoutReason (cause : ApiError) (message : String) : String :=
  match (reasonMarks cause).findSome? fun mark => cutAfter? mark.toList message.toList with
  | some cut => String.ofList cut
  | none => message

/-- A message as it is reported: in full, or without the reason of the failed call at its root. -/
def message (inFull : Bool) (cause : Option ApiError) (message : String) : Json :=
  text <|
    match inFull, cause with
    | false, some cause => withoutReason cause message
    | _, _ => message

/-! ### Failures -/

/-- The name of a failed call, and what only some of them have. -/
def apiErrorName : ApiError → String × Members
  | .unauthenticated => ("Unauthenticated", [])
  | .unauthorized => ("Unauthorized", [])
  | .status _ code _ => ("Status", [("error_code", optionalText code)])
  | .request _ => ("Request", [])
  | .decode _ => ("Decode", [])

/-- A failed call. -/
def apiError (inFull : Bool) (e : ApiError) : Members :=
  [("error", text (apiErrorName e).1), ("message", message inFull (some e) e.message),
    ("status_code", optional (fun code => nat code.toNat) e.statusCode),
    ("not_found", .bool e.isNotFound), ("auth_failure", .bool e.isAuthFailure)] ++
    (apiErrorName e).2

/-- What every error is reported with. -/
def errorHead (inFull : Bool) (e : Error) (name : String) : Members :=
  [("error", text name), ("message", message inFull e.transport? e.message),
    ("family", optionalText (e.family.map Family.name))]

/-- An error and those that it wraps. -/
def error (inFull : Bool) : Error → Members
  | .transport cause =>
    errorHead inFull (.transport cause) "Transport" ++
      [("source", .record (apiError inFull cause))]
  | .config f m => errorHead inFull (.config f m) "Config" ++ [("source", .null)]
  | .wrapped f m source =>
    errorHead inFull (.wrapped f m source) "Config" ++ [("source", .record (error inFull source))]
  | .missingField f field =>
    errorHead inFull (.missingField f field) "MissingField" ++ [("field", text field)]
  | .unsupportedType f detail =>
    errorHead inFull (.unsupportedType f detail) "UnsupportedType" ++ [("detail", text detail)]
  | .invalidState cluster state operation =>
    errorHead inFull (.invalidState cluster state operation) "InvalidState" ++
      [("cluster_id", text cluster.text), ("state", text state.name),
        ("operation", text operation)]
  | .resource m => errorHead inFull (.resource m) "Resource" ++ [("source", .null)]
  | .unresolved m source =>
    errorHead inFull (.unresolved m source) "Resource" ++
      [("source", .record (error inFull source))]
  | .io m => errorHead inFull (.io m) "Io"
  | .timeout what waited =>
    errorHead inFull (.timeout what waited) "Timeout" ++ [("what", text what)]

/-- An identifier error. -/
def idError (e : IdError) : Members :=
  [("error", text (if e = .empty then "Empty" else "InvalidNumber")), ("message", text e.message)]

/-- A credentials error. -/
def credentialsError (e : CredentialsError) : Members :=
  [("error", text (if e = .missing then "Missing" else "MissingPassword")),
    ("message", text e.message)]

/-- A result: the report of its value, or of its error without reasons. -/
def result {α : Type} (report : α → Json) : Except Error α → Json
  | .ok a => report a
  | .error e => .record (error false e)

end SparkFleet.Report
