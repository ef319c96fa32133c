/-!
# Number literals

A JSON number is kept as its literal says it: sign, whole part, digits after the point and
exponent.  What it means is decided by the reader: a whole number has neither a point nor an
exponent, and `-0` is not one.
-/

namespace SparkFleet.Json

/-- A decimal digit. -/
abbrev Digit := Fin 10

/-- A number literal. -/
structure Number where
  negative : Bool
  whole : Nat
  /-- The digits after the point; none if there is no point. -/
  fraction : List Digit := []
  /-- The exponent, if one is written. -/
  exponent : Option Int := none
  deriving DecidableEq, Inhabited

namespace Number

/-- The literal of a whole number. -/
def ofInt (n : Int) : Number := ⟨n < 0, n.natAbs, [], none⟩

/-- The whole number that a literal without point and exponent denotes; `-0` denotes none. -/
def int? (n : Number) : Option Int :=
  match n.fraction, n.exponent with
  | [], none =>
    if n.negative then
      if n.whole = 0 then none else some (-(n.whole : Int))
    else
      some (n.whole : Int)
  | _, _ => none

/-- The literal of a whole number denotes it. -/
@[simp] theorem int?_ofInt (n : Int) : (ofInt n).int? = some n := by
  simp only [ofInt, int?]
  by_cases h : n < 0
  · have : n.natAbs ≠ 0 := by omega
    simp only [h, decide_true, ite_true, this, ite_false, Option.some.injEq]
    omega
  · simp only [h, decide_false, Bool.false_eq_true, ite_false, Option.some.injEq]
    omega

end Number

end SparkFleet.Json
