import SparkFleet.Json.Basic
import SparkFleet.Json.Scan

/-!
# Values and their tokens

A value is read from its tokens by a machine that keeps the arrays and objects around it on a
list, so that a text may nest to any depth.  `Json.tokens` is the way back.
-/

namespace SparkFleet.Json

/-- An array or object that is being read. -/
inductive Frame where
  /-- An array: its items, last first. -/
  | array (items : List Json)
  /-- An object: its members, last first, and the name whose value comes next. -/
  | object (members : List (Option String × Json)) (name : Option String)

/-- What may come next, inside the given frames, innermost first. -/
inductive Reading where
  | value (frames : List Frame)
  /-- A value or the end of an array without items. -/
  | firstItem (frames : List Frame)
  | nextName (members : List (Option String × Json)) (frames : List Frame)
  /-- The name of a member or the end of an object without members. -/
  | firstName (frames : List Frame)
  | colon (members : List (Option String × Json)) (name : Option String) (frames : List Frame)
  /-- A comma or the end of the innermost frame. -/
  | more (frame : Frame) (frames : List Frame)
  | done (value : Json)

namespace Reading

/-- Go on after a complete value. -/
def deliver (value : Json) : List Frame → Reading
  | [] => .done value
  | .array items :: frames => .more (.array (value :: items)) frames
  | .object members name :: frames => .more (.object ((name, value) :: members) name) frames

/-- Take a token where a value must come. -/
def begin? (frames : List Frame) : Token → Option Reading
  | .null => some (deliver .null frames)
  | .bool b => some (deliver (.bool b) frames)
  | .num n => some (deliver (.num n) frames)
  | .str s => some (deliver (.str s) frames)
  | .unreadable => some (deliver .unreadable frames)
  | .openBracket => some (.firstItem frames)
  | .openBrace => some (.firstName frames)
  | _ => none

/-- The member name that a token denotes. -/
def name? : Token → Option (Option String)
  | .str s => some (some s)
  | .unreadable => some none
  | _ => none

/-- Take one token. -/
def step : Reading → Token → Option Reading
  | .value frames, t => begin? frames t
  | .firstItem frames, .closeBracket => some (deliver (.arr []) frames)
  | .firstItem frames, t => begin? (.array [] :: frames) t
  | .firstName frames, .closeBrace => some (deliver (.obj []) frames)
  | .firstName frames, t => (name? t).map fun n => .colon [] n frames
  | .nextName members frames, t => (name? t).map fun n => .colon members n frames
  | .colon members n frames, .colon => some (.value (.object members n :: frames))
  | .more (.array items) frames, .comma => some (.value (.array items :: frames))
  | .more (.array items) frames, .closeBracket => some (deliver (.arr items.reverse) frames)
  | .more (.object members _) frames, .comma => some (.nextName members frames)
  | .more (.object members _) frames, .closeBrace => some (deliver (.obj members.reverse) frames)
  | _, _ => none

end Reading

/-- The value that a list of tokens denotes. -/
def ofTokens? (tokens : List Token) : Option Json :=
  match tokens.foldlM Reading.step (.value []) with
  | some (.done value) => some value
  | _ => none

/-- The value that a text denotes: one value with blanks around it. -/
def parse? (bytes : List UInt8) : Option Json := do ofTokens? (← scan? bytes)

/-- The token of a member name. -/
def nameToken : Option String → Token
  | some s => .str s
  | none => .unreadable

mutual

/-- The tokens of a value. -/
def tokens : Json → List Token
  | .null => [.null]
  | .bool b => [.bool b]
  | .num n => [.num n]
  | .str s => [.str s]
  | .unreadable => [.unreadable]
  | .arr items => .openBracket :: (itemTokens items ++ [.closeBracket])
  | .obj members => .openBrace :: (memberTokens members ++ [.closeBrace])

/-- The tokens of an array's items. -/
def itemTokens : List Json → List Token
  | [] => []
  | [item] => item.tokens
  | item :: rest => item.tokens ++ .comma :: itemTokens rest

/-- The tokens of an object's members. -/
def memberTokens : List (Option String × Json) → List Token
  | [] => []
  | [(name, value)] => nameToken name :: .colon :: value.tokens
  | (name, value) :: rest =>
    nameToken name :: .colon :: (value.tokens ++ .comma :: memberTokens rest)

end

/-- The text of a value, without blanks. -/
def render (value : Json) : String := String.join (value.tokens.map Token.text)

end SparkFleet.Json
