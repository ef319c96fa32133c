import SparkFleet.Json.Number

/-!
# Reading a number literal as a double

The significand takes the literal's digits for as long as it fits into 64 bits.  Whole digits that
no longer fit count as factors of ten, and once a digit after the point does not fit, it and all
later ones are dropped.  The significand is rounded to a double once and is then multiplied or
divided by a power of ten, in steps of `10 ^ 308` if the power is smaller than that, so the last
place may differ from the nearest double.  A literal whose magnitude exceeds every double is
refused; one that is too small reads as zero with its sign.
-/

namespace SparkFleet.Json.Number

/-- Digits read so far: the significand and the power of ten that belongs to it. -/
structure Significand where
  digits : Nat
  power : Int

/-- Whether one more digit fits into 64 bits. -/
def Significand.fits (s : Significand) (d : Nat) : Bool := s.digits * 10 + d < UInt64.size

/-- Read the digits before the point.  After the first digit that does not fit, each digit counts
as a factor of ten. -/
def Significand.readWhole (s : Significand) : List Nat → Significand
  | [] => s
  | d :: rest =>
    if s.fits d then
      Significand.readWhole { s with digits := s.digits * 10 + d } rest
    else
      { s with power := s.power + Int.ofNat (rest.length + 1) }

/-- Read the digits after the point, up to the first that does not fit. -/
def Significand.readFraction (s : Significand) : List Nat → Significand
  | [] => s
  | d :: rest =>
    if s.fits d then
      Significand.readFraction ⟨s.digits * 10 + d, s.power - 1⟩ rest
    else
      s

/-- The significand of a literal, without its exponent. -/
def significand (n : Number) : Significand :=
  let whole := (Nat.toDigits 10 n.whole).map fun c => c.toNat - '0'.toNat
  Significand.readFraction (Significand.readWhole ⟨0, 0⟩ whole) (n.fraction.map (·.val))

/-- The double nearest to `10 ^ e`, for `e` up to 308. -/
def powerOfTen (e : Nat) : Float := Float.ofScientific 1 false e

/-- Multiply or divide by a power of ten; `none` if the result is too large. -/
def scaled (f : Float) (power : Int) : Nat → Option Float
  | 0 => if f == 0 then some f else none
  | steps + 1 =>
    if power.natAbs ≤ 308 then
      if 0 ≤ power then
        let product := f * powerOfTen power.natAbs
        if product.isInf then none else some product
      else
        some (f / powerOfTen power.natAbs)
    else if f == 0 then
      some f
    else if 0 ≤ power then
      none
    else
      scaled (f / powerOfTen 308) (power + 308) steps

/-- The largest exponent that is read; a larger one is decided by its sign alone. -/
def exponentLimit : Nat := 2147483647

/-- The last `count` decimal digits of a number, first digit first. -/
def lastDigits (n : Nat) : Nat → List Digit
  | 0 => []
  | count + 1 => lastDigits (n / 10) count ++ [Fin.ofNat 10 n]

/-- The literal of a finite double's exact value: its significand times a power of two, which has a
finite decimal expansion. -/
def ofDouble (f : Float) : Number :=
  let bits := f.toBits.toNat
  let negative := bits >>> 63 == 1
  let biased := (bits >>> 52) % 2048
  -- The leading bit of a normal number is not stored.
  let hidden := 0x10000000000000
  let stored := bits % hidden
  let significand := if biased == 0 then stored else stored + hidden
  let power : Int := (if biased == 0 then 1 else Int.ofNat biased) - 1075
  if 0 ≤ power then
    ⟨negative, significand <<< power.natAbs, [], none⟩
  else
    let places := power.natAbs
    -- A half is five tenths, so as many places are needed as there are halvings.
    let scaled := significand * Nat.pow 5 places
    let unit := Nat.pow 10 places
    ⟨negative, scaled / unit, lastDigits (scaled % unit) places, none⟩

/-- The double that a literal reads as; `none` if its magnitude is too large. -/
def double? (n : Number) : Option Float := do
  let s := n.significand
  let e := n.exponent.getD 0
  let magnitude ←
    if e.natAbs ≤ exponentLimit then
      let power := s.power + e
      scaled (UInt64.ofNat s.digits).toFloat power (power.natAbs + 1)
    else if s.digits ≠ 0 ∧ 0 < e then
      none
    else
      some 0
  return if n.negative then -magnitude else magnitude

end SparkFleet.Json.Number
