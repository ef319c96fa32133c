import SparkFleet.Json.Basic
import SparkFleet.Json.Double
import SparkFleet.TextMap

/-!
# How records are written as JSON

A `Codec α` describes how the values of a type are written.  It is data, so one description gives
the writer `Codec.encode` and the reader `Codec.decode`, and statements about all records are
inductions on it.

A record is an object with one member for each field; the order of the members and members of
other names do not matter, but no field may be given twice.  A record may also be written as the
array of its fields in their order.  The value of an enumeration is its name, or an object whose
single member has that name and the value `null`.
-/

namespace SparkFleet.Wire

/-- What stands for a field that is not written. -/
structure Presence (β : Type) where
  /-- The value of a field that an object lacks; without one the field is required. -/
  absent : Option β := none
  /-- The value of a field that an array ends before; without one the array must reach it. -/
  trailing : Option β := none
  /-- Which values are left out when the record is written. -/
  omits : β → Bool := fun _ => false

namespace Presence

variable {β : Type}

/-- A field that must be given. -/
def required : Presence β := {}

/-- A field that has a value of its own where it is not given, and is always written. -/
def defaultsTo (value : β) : Presence β := { absent := some value, trailing := some value }

/-- A field that is `none` where an object lacks it, but that an array must reach. -/
def optional : Presence (Option β) := { absent := some none }

/-- A field that is left out where it is `none`. -/
def whenSome : Presence (Option β) :=
  { absent := some none, trailing := some none, omits := Option.isNone }

/-- A list that is left out where it is empty. -/
def whenFilled : Presence (List β) :=
  { absent := some [], trailing := some [], omits := List.isEmpty }

/-- A map that is left out where it is empty. -/
def whenMapFilled : Presence TextMap :=
  { absent := some .empty, trailing := some .empty, omits := SortedMap.isEmpty }

end Presence

mutual

/-- A description of how the values of a type are written. -/
inductive Codec : Type → Type 1 where
  | text : Codec String
  /-- A truth value is written as one of the two literals. -/
  | flag : Codec Bool
  /-- A bounded whole number is written as a literal without point and exponent. -/
  | integer {α : Type} (least greatest : Int) (ofInt : Int → α) (toInt : α → Int) : Codec α
  /-- A double is read from any number literal and written with its exact value. -/
  | double : Codec Float
  /-- A value of a narrower type is written as one of a wider type. -/
  | refined {α β : Type} (base : Codec α) (make : α → Option β) (raw : β → α) : Codec β
  | option {α : Type} (item : Codec α) : Codec (Option α)
  | list {α : Type} (item : Codec α) : Codec (List α)
  /-- A map from text to text is written as an object; the last of equal keys wins. -/
  | textMap : Codec TextMap
  /-- An enumeration: its names, the value that stands for all other names, and the name of each
  value. -/
  | enumeration {α : Type} (names : List (String × α)) (other : Option α) (nameOf : α → String) :
      Codec α
  /-- A record: how it is made of its fields, and the fields. -/
  | record {ρ F : Type} (make : F) (fields : Fields ρ F) : Codec ρ

/-- The fields of a record of type `ρ` that the arguments of `F` stand for. -/
inductive Fields : Type → Type → Type 1 where
  | done {ρ : Type} : Fields ρ ρ
  | field {ρ β γ : Type} (name : String) (get : ρ → β) (codec : Codec β) (presence : Presence β)
      (rest : Fields ρ γ) : Fields ρ (β → γ)

end

/-- The names of the fields in their order. -/
def Fields.names {ρ F : Type} : Fields ρ F → List String
  | .done => []
  | .field name _ _ _ rest => name :: rest.names

/-! ### Objects -/

/-- A member of an object that is read as a record or a map: its name must denote a text. -/
def namedMembers? (members : List (Option String × Json)) : Option (List (String × Json)) :=
  members.mapM fun m => m.1.map fun name => (name, m.2)

/-- The value of the member of a name. -/
def member? (members : List (String × Json)) (name : String) : Option Json :=
  (members.find? fun m => m.1 == name).map (·.2)

/-- Whether no name of the list is given twice. -/
def givenOnce (members : List (String × Json)) (names : List String) : Bool :=
  names.all fun name => (members.filter fun m => m.1 == name).length ≤ 1

/-- The text that a JSON value denotes. -/
def text? : Json → Option String
  | .str s => some s
  | _ => none

/-- The entries of a map that an object denotes. -/
def textEntries? (members : List (String × Json)) : Option (List (String × String)) :=
  members.mapM fun m => (text? m.2).map fun value => (m.1, value)

/-- The name that a value of an enumeration is written with. -/
def enumerationName? : Json → Option String
  | .str s => some s
  | .obj [(some s, .null)] => some s
  | _ => none

/-- The value that a name stands for. -/
def named? {α : Type} (names : List (String × α)) (other : Option α) (name : String) : Option α :=
  match names.lookup name with
  | some a => some a
  | none => other

/-! ### Writing -/

mutual

/-- The JSON value that a value is written as. -/
def Codec.encode {α : Type} : Codec α → α → Json
  | .text, s => .str s
  | .flag, b => .bool b
  | .integer _ _ _ toInt, a => .int (toInt a)
  | .double, f => .num (.ofDouble f)
  | .refined base _ raw, b => base.encode (raw b)
  | .option _, none => .null
  | .option item, some a => item.encode a
  | .list item, items => .arr (items.map item.encode)
  | .textMap, m => .record (m.entries.map fun e => (e.1, .str e.2))
  | .enumeration _ _ nameOf, a => .str (nameOf a)
  | .record _ fields, r => .record (fields.encode r)

/-- The members that a record is written with. -/
def Fields.encode {ρ F : Type} : Fields ρ F → ρ → List (String × Json)
  | .done, _ => []
  | .field name get codec presence rest, r =>
    if presence.omits (get r) then rest.encode r
    else (name, codec.encode (get r)) :: rest.encode r

end

/-! ### Reading -/

mutual

/-- The value that a JSON value denotes. -/
def Codec.decode {α : Type} : Codec α → Json → Option α
  | .text, j => text? j
  | .flag, .bool b => some b
  | .integer least greatest ofInt _, .num n => do
    let i ← n.int?
    if least ≤ i ∧ i ≤ greatest then some (ofInt i) else none
  | .double, .num n => n.double?
  | .refined base make _, j => do make (← base.decode j)
  | .option _, .null => some none
  | .option item, j => (item.decode j).map some
  | .list item, .arr items => items.mapM item.decode
  | .textMap, .obj members => do
    return SortedMap.ofList (← textEntries? (← namedMembers? members))
  | .enumeration names other _, j => do named? names other (← enumerationName? j)
  | .record make fields, .obj members => do
    let members ← namedMembers? members
    if givenOnce members fields.names then fields.decodeMembers make (member? members) else none
  | .record make fields, .arr items => fields.decodeItems make items
  | _, _ => none

/-- The record that the members of an object denote. -/
def Fields.decodeMembers {ρ F : Type} : Fields ρ F → F → (String → Option Json) → Option ρ
  | .done, r, _ => some r
  | .field name _ codec presence rest, make, given => do
    let b ←
      match given name with
      | some j => codec.decode j
      | none => presence.absent
    rest.decodeMembers (make b) given

/-- The record that the items of an array denote. -/
def Fields.decodeItems {ρ F : Type} : Fields ρ F → F → List Json → Option ρ
  | .done, r, [] => some r
  | .done, _, _ :: _ => none
  | .field _ _ codec _ rest, make, item :: items => do
    rest.decodeItems (make (← codec.decode item)) items
  | .field _ _ _ presence rest, make, [] => do
    rest.decodeItems (make (← presence.trailing)) []

end

/-! ### Records of a single field -/

/-- A value that is written as the only field of a record, which must be given. -/
def wrapped {α : Type} (name : String) (codec : Codec α) : Codec α :=
  .record id (.field name id codec .required .done)

/-- A value that is written as the only field of a record and has a value of its own where it is
not given. -/
def wrappedOr {α : Type} (name : String) (codec : Codec α) (value : α) : Codec α :=
  .record id (.field name id codec (.defaultsTo value) .done)

/-! ### Numbers -/

/-- A 32-bit unsigned number. -/
def uint32 : Codec UInt32 :=
  .integer 0 4294967295 (fun i => .ofNat i.toNat) (fun n => Int.ofNat n.toNat)

/-- A 64-bit unsigned number. -/
def uint64 : Codec UInt64 :=
  .integer 0 18446744073709551615 (fun i => .ofNat i.toNat) (fun n => Int.ofNat n.toNat)

/-- A 32-bit signed number. -/
def int32 : Codec Int32 := .integer (-2147483648) 2147483647 Int32.ofInt Int32.toInt

/-- A 64-bit signed number. -/
def int64 : Codec Int64 :=
  .integer (-9223372036854775808) 9223372036854775807 Int64.ofInt Int64.toInt

end SparkFleet.Wire
