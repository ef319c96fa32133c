import SparkFleet.Json.Number

/-!
# JSON values

A value keeps what its text says, member order and repeated member names included.  A string whose
escapes or bytes do not form a text (a lone surrogate, say) is kept as unreadable: it is valid
syntax, and may stand wherever a value is skipped.
-/

namespace SparkFleet

open Json in
/-- A JSON value. -/
inductive Json where
  | null
  | bool (b : Bool)
  | num (n : Number)
  | str (s : String)
  | unreadable
  | arr (items : List Json)
  /-- An object: its members in the order of the text, a name being `none` if it denotes no
  text. -/
  | obj (members : List (Option String × Json))
  deriving Inhabited

namespace Json

/-- An object whose members are all named. -/
def record (members : List (String × Json)) : Json :=
  .obj (members.map fun m => (some m.1, m.2))

/-- The number of a whole number. -/
def int (n : Int) : Json := .num (.ofInt n)

/-- The first member of a name of an object. -/
def member? : Json → String → Option Json
  | .obj members, name => members.lookup (some name)
  | _, _ => none

end Json

end SparkFleet
