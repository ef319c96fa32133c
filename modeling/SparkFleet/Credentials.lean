import SparkFleet.Text.Quoted

/-!
# Credentials

A request carries either a token or a user name with a password.  The choice is made once: a token
comes first, and an empty text counts as one that is missing.
-/

namespace SparkFleet

/-- What a request is authenticated with. -/
inductive Credentials where
  | token (token : String)
  | basic (username password : String)
  deriving DecidableEq

/-- Why there are no credentials. -/
inductive CredentialsError where
  /-- There is neither a token nor a user name. -/
  | missing
  /-- There is a user name without a password. -/
  | missingPassword (username : String)
  deriving DecidableEq

/-- The message of a credentials error. -/
def CredentialsError.message : CredentialsError → String
  | .missing => "neither token nor username supplied"
  | .missingPassword username => "password not supplied for username " ++ Text.quoted username

namespace Credentials

/-- A text that is given and not empty. -/
def given (value : Option String) : Option String := value.filter (· ≠ "")

/-- The credentials that the given parts make up. -/
def ofParts (token username password : Option String) : Except CredentialsError Credentials :=
  match given token, given username, given password with
  | some token, _, _ => .ok (.token token)
  | none, some username, some password => .ok (.basic username password)
  | none, some username, none => .error (.missingPassword username)
  | none, none, _ => .error .missing

/-- The form that shows no secret. -/
def debug : Credentials → String
  | .token _ => "Credentials::Token(<redacted>)"
  | .basic username _ => "Credentials::Basic(" ++ username ++ ", <redacted>)"

end Credentials

end SparkFleet
