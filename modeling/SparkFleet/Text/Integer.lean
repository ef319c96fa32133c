/-!
# Whole numbers in decimal

A whole number is written as an optional sign and at least one of the digits `0` to `9`; leading
zeros are allowed.  A reader for a bounded range refuses what lies outside it, and one for
unsigned numbers refuses the minus sign, also before zero.
-/

namespace SparkFleet.Text

/-- The value of an ASCII decimal digit. -/
def digitValue (c : Char) : Option Nat :=
  if '0' ≤ c ∧ c ≤ '9' then some (c.toNat - '0'.toNat) else none

/-- Read digits after those already read. -/
def naturalAfter : Nat → List Char → Option Nat
  | n, [] => some n
  | n, c :: rest => do naturalAfter (10 * n + (← digitValue c)) rest

/-- At least one digit and nothing else. -/
def natural? : List Char → Option Nat
  | [] => none
  | c :: rest => do naturalAfter (← digitValue c) rest

/-- An optional sign before a natural number. -/
def integer? : List Char → Option Int
  | '-' :: rest => do return -(Int.ofNat (← natural? rest))
  | '+' :: rest => do return Int.ofNat (← natural? rest)
  | rest => do return Int.ofNat (← natural? rest)

/-- A whole number of the range of 64-bit signed numbers. -/
def int64? (s : String) : Option Int64 := do
  let n ← integer? s.toList
  if Int64.minValue.toInt ≤ n ∧ n ≤ Int64.maxValue.toInt then some (Int64.ofInt n) else none

/-- A natural number, which may have a plus sign, of the range of 64-bit unsigned numbers. -/
def uint64? (s : String) : Option UInt64 := do
  let n ←
    match s.toList with
    | '+' :: rest => natural? rest
    | rest => natural? rest
  if n < UInt64.size then some (UInt64.ofNat n) else none

end SparkFleet.Text
