import SparkFleet.Credentials
import SparkFleet.Error
import SparkFleet.Wire.Codec

/-!
# Configuration

How a session reaches its workspace.  A configuration is read from a record or from environment
variables, or is put together.  Nothing in it is checked before a connection is made of it: then a
host must be given and the credentials must be complete, the host being looked at first.
-/

namespace SparkFleet

open Wire

/-- The configuration of a session. -/
structure SessionConfig where
  host : String := ""
  token : Option String := none
  username : Option String := none
  password : Option String := none
  requestTimeoutSeconds : UInt64 := 60
  connectTimeoutSeconds : UInt64 := 10
  deriving DecidableEq

/-- How the requests of a session are sent. -/
structure Connection where
  host : String
  credentials : Credentials
  requestTimeout : Span := .seconds 60
  connectTimeout : Span := .seconds 10
  deriving DecidableEq

namespace SessionConfig

/-- Every field may be left out. -/
def codec : Codec SessionConfig :=
  .record SessionConfig.mk <|
    .field "host" host .text (.defaultsTo "") <|
    .field "token" token (.option .text) (.defaultsTo none) <|
    .field "username" username (.option .text) (.defaultsTo none) <|
    .field "password" password (.option .text) (.defaultsTo none) <|
    .field "request_timeout_seconds" requestTimeoutSeconds uint64 (.defaultsTo 60) <|
    .field "connect_timeout_seconds" connectTimeoutSeconds uint64 (.defaultsTo 10) .done

/-- The configuration with a token. -/
def withToken (c : SessionConfig) (token : String) : SessionConfig := { c with token := some token }

/-- The configuration with a user name and a password. -/
def withBasicAuth (c : SessionConfig) (username password : String) : SessionConfig :=
  { c with username := some username, password := some password }

/-- The configuration that environment variables describe.  A timeout that is no number does not
count. -/
def ofEnvironment (lookup : String → Option String) : SessionConfig where
  host := (lookup "SPARKDECK_HOST").getD ""
  token := lookup "SPARKDECK_TOKEN"
  username := lookup "SPARKDECK_USERNAME"
  password := lookup "SPARKDECK_PASSWORD"
  requestTimeoutSeconds :=
    ((lookup "SPARKDECK_REQUEST_TIMEOUT_SECONDS").bind Text.uint64?).getD 60

/-- The credentials that the configuration describes. -/
def credentials (c : SessionConfig) : Except Error Credentials :=
  match Credentials.ofParts c.token c.username c.password with
  | .ok credentials => .ok credentials
  | .error e => .error (.config .session e.message)

/-- How long one request may take. -/
def requestTimeout (c : SessionConfig) : Span := .seconds c.requestTimeoutSeconds.toNat

/-- How long it may take to connect. -/
def connectTimeout (c : SessionConfig) : Span := .seconds c.connectTimeoutSeconds.toNat

/-- The connection that the configuration describes. -/
def connection (c : SessionConfig) : Except Error Connection := do
  if Text.isBlank c.host then
    throw (.config .session "host is not set")
  return ⟨c.host, ← c.credentials, c.requestTimeout, c.connectTimeout⟩

/-- The form that shows no secret. -/
def debug (c : SessionConfig) : String :=
  let hidden (secret : Option String) := Text.quotedOption (secret.map fun _ => "<redacted>")
  "SessionConfig \x7b host: " ++ Text.quoted c.host ++ ", token: " ++ hidden c.token ++
    ", username: " ++ Text.quotedOption c.username ++ ", password: " ++ hidden c.password ++
    ", request_timeout_seconds: " ++ toString c.requestTimeoutSeconds.toNat ++
    ", connect_timeout_seconds: " ++ toString c.connectTimeoutSeconds.toNat ++ " \x7d"

end SessionConfig

end SparkFleet
