import SparkFleet.Text.Blank
import SparkFleet.Text.Integer
import SparkFleet.Text.Quoted
import SparkFleet.Wire.Codec

/-!
# Identifiers

The platform names each resource itself: a cluster by an opaque text that is not blank, a job and a
run by a 64-bit number.  A number is read with white space around it; a cluster's text is kept as
it is.
-/

namespace SparkFleet

open Wire

/-- Why a text is no identifier. -/
inductive IdError where
  | empty
  /-- The text is not a number of the right range; it is kept as it was given. -/
  | invalidNumber (text : String)
  deriving DecidableEq

/-- The message of an identifier error. -/
def IdError.message : IdError → String
  | .empty => "identifier is empty"
  | .invalidNumber text => "invalid numeric identifier: " ++ Text.quoted text

/-! ### Clusters -/

/-- The identifier of a cluster. -/
structure ClusterId where
  text : String
  notBlank : Text.isBlank text = false
  deriving DecidableEq

namespace ClusterId

instance : Ord ClusterId := ⟨fun a b => compare a.text b.text⟩

instance : Std.TransOrd ClusterId := inferInstanceAs (Std.TransCmp (compareOn ClusterId.text))

instance : Std.LawfulEqOrd ClusterId where
  compare_self {a} := Std.ReflOrd.compare_self (a := a.text)
  eq_of_compare {a b} h := by
    have h : compare a.text b.text = .eq := h
    have := Std.LawfulEqOrd.eq_of_compare h
    cases a; cases b; simp_all

/-- Read an identifier: any text that is not blank. -/
def ofText (text : String) : Except IdError ClusterId :=
  if h : Text.isBlank text = false then .ok ⟨text, h⟩ else .error .empty

/-- The form that shows the type of the identifier. -/
def debug (id : ClusterId) : String := "ClusterId(" ++ id.text ++ ")"

/-- An identifier is written as its text. -/
def codec : Codec ClusterId := .refined .text (fun s => (ofText s).toOption) text

end ClusterId

/-! ### Jobs and runs -/

/-- The number that a text denotes, white space around it apart. -/
def idNumber (text : String) : Except IdError Int64 :=
  match Text.int64? (Text.trim text) with
  | some n => .ok n
  | none => .error (.invalidNumber text)

/-- The identifier of a job. -/
structure JobId where
  number : Int64
  deriving DecidableEq

namespace JobId

instance : Ord JobId := ⟨fun a b => compare a.number b.number⟩

instance : Std.TransOrd JobId := inferInstanceAs (Std.TransCmp (compareOn JobId.number))

instance : Std.LawfulEqOrd JobId where
  compare_self {a} := Std.ReflOrd.compare_self (a := a.number)
  eq_of_compare {a b} h := by
    have h : compare a.number b.number = .eq := h
    have := Std.LawfulEqOrd.eq_of_compare h
    cases a; cases b; simp_all

/-- Read an identifier. -/
def ofText (text : String) : Except IdError JobId := (idNumber text).map .mk

/-- The identifier in decimal. -/
def text (id : JobId) : String := toString id.number.toInt

/-- The form that shows the type of the identifier. -/
def debug (id : JobId) : String := "JobId(" ++ id.text ++ ")"

/-- An identifier is written as its number. -/
def codec : Codec JobId := .refined int64 (some ∘ .mk) number

end JobId

/-- The identifier of a run. -/
structure RunId where
  number : Int64
  deriving DecidableEq

namespace RunId

instance : Ord RunId := ⟨fun a b => compare a.number b.number⟩

instance : Std.TransOrd RunId := inferInstanceAs (Std.TransCmp (compareOn RunId.number))

instance : Std.LawfulEqOrd RunId where
  compare_self {a} := Std.ReflOrd.compare_self (a := a.number)
  eq_of_compare {a b} h := by
    have h : compare a.number b.number = .eq := h
    have := Std.LawfulEqOrd.eq_of_compare h
    cases a; cases b; simp_all

/-- Read an identifier. -/
def ofText (text : String) : Except IdError RunId := (idNumber text).map .mk

/-- The identifier in decimal. -/
def text (id : RunId) : String := toString id.number.toInt

/-- The form that shows the type of the identifier. -/
def debug (id : RunId) : String := "RunId(" ++ id.text ++ ")"

/-- An identifier is written as its number. -/
def codec : Codec RunId := .refined int64 (some ∘ .mk) number

end RunId

end SparkFleet
