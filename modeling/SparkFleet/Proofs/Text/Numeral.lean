import Mathlib.Data.Nat.Digits.Defs
import SparkFleet.Text.Blank
import SparkFleet.Text.Integer

/-!
# Numerals

`IsNumeral` says which texts are numerals and of which numbers: an optional sign before decimal
digits, each of which counts by its place.  The readers of whole numbers accept just these texts,
each as its number (`integer?_eq_some_iff`), and the text in which a number is written is a numeral
of it (`isNumeral_toString`).

The main statement is `int64?_eq_some_iff`: a text is read as a number of 64 bits exactly if it is a
numeral of it.
-/

namespace SparkFleet.Text

variable {c : Char} {digits s : List Char} {n : Int}

/-- The value of decimal digits, each of which counts by its place. -/
def placeValue (digits : List Char) : Nat :=
  Nat.ofDigits 10 (digits.reverse.map fun c => c.toNat - '0'.toNat)

/-- One or more decimal digits. -/
def AreDigits (digits : List Char) : Prop := digits ≠ [] ∧ ∀ c ∈ digits, c.isDigit = true

/-- A text is a numeral of a number. -/
inductive IsNumeral : List Char → Int → Prop where
  | unsigned {digits : List Char} (hDigits : AreDigits digits) :
    IsNumeral digits (placeValue digits)
  | plus {digits : List Char} (hDigits : AreDigits digits) :
    IsNumeral ('+' :: digits) (placeValue digits)
  | minus {digits : List Char} (hDigits : AreDigits digits) :
    IsNumeral ('-' :: digits) (-(placeValue digits : Int))

/-- A number of the range of 64-bit signed numbers. -/
def InRange (n : Int) : Prop := -2 ^ 63 ≤ n ∧ n ≤ 2 ^ 63 - 1

/-! ### Digits -/

/-- Counting each digit by its place comes to the same as reading them from the first one on. -/
theorem ofDigitChars_eq_placeValue (digits : List Char) :
    Nat.ofDigitChars 10 digits 0 = placeValue digits := by
  induction digits with
  | nil => rfl
  | cons c rest ih =>
    rw [Nat.ofDigitChars_cons, Nat.ofDigitChars_eq_ofDigitChars_zero, ih, placeValue, placeValue,
      List.reverse_cons, List.map_append, Nat.ofDigits_append, List.length_map, List.length_reverse,
      List.map_singleton, Nat.ofDigits_singleton, Nat.mul_zero, Nat.zero_add, Nat.add_comm]

theorem digitValue_eq (c : Char) :
    digitValue c = if c.isDigit then some (c.toNat - '0'.toNat) else none := by
  simp [digitValue, Char.isDigit, Char.le_def, UInt32.le_iff_toNat_le]

theorem naturalAfter_eq (n : Nat) (digits : List Char) :
    naturalAfter n digits =
      if digits.all Char.isDigit then some (Nat.ofDigitChars 10 digits n) else none := by
  induction digits generalizing n with
  | nil => rfl
  | cons c rest ih =>
    rw [naturalAfter, digitValue_eq, List.all_cons, Nat.ofDigitChars_cons]
    cases c.isDigit with
    | false => rfl
    | true => exact ih _

/-- Digits are read, as their value, and nothing else is. -/
theorem natural?_eq_some_iff {m : Nat} :
    natural? digits = some m ↔ AreDigits digits ∧ placeValue digits = m := by
  cases digits with
  | nil => simp [natural?, AreDigits]
  | cons c rest =>
    -- No digits are no number, which the reader looks at first; apart from that it begins at zero.
    have hRead : natural? (c :: rest) = naturalAfter 0 (c :: rest) := by
      simp only [natural?, naturalAfter, Nat.mul_zero, Nat.zero_add]
    rw [hRead, naturalAfter_eq, ofDigitChars_eq_placeValue, Option.ite_none_right_eq_some,
      Option.some.injEq, List.all_eq_true, AreDigits, and_iff_right (List.cons_ne_nil c rest)]

theorem natural?_of_digits (hDigits : AreDigits digits) :
    natural? digits = some (placeValue digits) :=
  natural?_eq_some_iff.2 ⟨hDigits, rfl⟩

/-! ### Reading a numeral -/

/-- Digits do not begin with a sign. -/
theorem integer?_of_digits (hDigits : AreDigits digits) :
    integer? digits = (natural? digits).bind fun m => some (Int.ofNat m) := by
  refine integer?.eq_3 digits ?_ ?_ <;>
  · rintro rest rfl
    exact nomatch hDigits.2 _ List.mem_cons_self

/-- Numerals are read, each as its number, and nothing else is. -/
theorem integer?_eq_some_iff : integer? s = some n ↔ IsNumeral s n := by
  constructor
  · intro hRead
    -- What comes after the sign, if there is one, is read in the same way.
    have hNatural {rest : List Char} {f : Nat → Int}
        (hBind : (natural? rest).bind (fun m => some (f m)) = some n) :
        AreDigits rest ∧ f (placeValue rest) = n := by
      obtain ⟨m, hNat, hValue⟩ := Option.bind_eq_some_iff.1 hBind
      obtain ⟨hDigits, rfl⟩ := natural?_eq_some_iff.1 hNat
      exact ⟨hDigits, Option.some.inj hValue⟩
    unfold integer? at hRead
    split at hRead
    · obtain ⟨hDigits, rfl⟩ := hNatural hRead
      exact .minus hDigits
    · obtain ⟨hDigits, rfl⟩ := hNatural hRead
      exact .plus hDigits
    · obtain ⟨hDigits, rfl⟩ := hNatural hRead
      exact .unsigned hDigits
  · intro hNumeral
    cases hNumeral with
    | unsigned hDigits =>
      rw [integer?_of_digits hDigits, natural?_of_digits hDigits]
      rfl
    | plus hDigits | minus hDigits =>
      rw [integer?, natural?_of_digits hDigits]
      rfl

theorem inRange_toInt (number : Int64) : InRange number.toInt :=
  ⟨number.le_toInt, number.toInt_le⟩

theorem toInt_ofInt (hRange : InRange n) : (Int64.ofInt n).toInt = n :=
  Int64.toInt_ofInt_of_le hRange.1 (Int.lt_of_le_sub_one hRange.2)

/-- The numerals of a number of 64 bits are read as it, and nothing else is. -/
theorem int64?_eq_some_iff {text : String} {number : Int64} :
    int64? text = some number ↔ IsNumeral text.toList number.toInt := by
  unfold int64?
  rw [Option.bind_eq_bind, Option.bind_eq_some_iff, Int64.toInt_minValue, Int64.toInt_maxValue]
  constructor
  · rintro ⟨n, hRead, hNumber⟩
    obtain ⟨hRange, hEq⟩ := Option.ite_none_right_eq_some.1 hNumber
    rw [← Option.some.inj hEq, toInt_ofInt hRange]
    exact integer?_eq_some_iff.1 hRead
  · intro hNumeral
    refine ⟨_, integer?_eq_some_iff.2 hNumeral, ?_⟩
    exact (if_pos (inRange_toInt number)).trans (congrArg some (Int64.ofInt_toInt number))

/-! ### White space -/

theorem isWhite_of_isDigit (hDigit : c.isDigit = true) : isWhite c = false := by
  have hRange : 48 ≤ c.toNat ∧ c.toNat ≤ 57 := by
    simpa [Char.isDigit, UInt32.le_iff_toNat_le] using hDigit
  simp only [isWhite]
  grind

theorem IsNumeral.ne_nil (hNumeral : IsNumeral s n) : s ≠ [] := by
  cases hNumeral with
  | unsigned hDigits => exact hDigits.1
  | plus | minus => exact List.cons_ne_nil _ _

/-- There is no white space in a numeral. -/
theorem IsNumeral.not_white (hNumeral : IsNumeral s n) : ∀ c ∈ s, isWhite c = false := by
  have hAll {digits : List Char} (hDigits : AreDigits digits) : ∀ c ∈ digits, isWhite c = false :=
    fun c hMem => isWhite_of_isDigit (hDigits.2 c hMem)
  cases hNumeral with
  | unsigned hDigits => exact hAll hDigits
  | plus hDigits | minus hDigits => exact List.forall_mem_cons.2 ⟨by decide, hAll hDigits⟩

/-! ### Writing a number -/

theorem areDigits_toDigits (m : Nat) : AreDigits (Nat.toDigits 10 m) :=
  ⟨Nat.toDigits_ne_nil, fun _ => Nat.isDigit_of_mem_toDigits (by decide) (by decide)⟩

theorem placeValue_toDigits (m : Nat) : placeValue (Nat.toDigits 10 m) = m := by
  rw [← ofDigitChars_eq_placeValue, Nat.ofDigitChars_ten_toDigits]

/-- The text in which a number is written is a numeral of it. -/
theorem isNumeral_toString (n : Int) : IsNumeral (toString n).toList n := by
  cases n with
  | ofNat m =>
    have hText : (toString (Int.ofNat m)).toList = Nat.toDigits 10 m := Nat.toList_repr
    have hNumeral := IsNumeral.unsigned (areDigits_toDigits m)
    rw [placeValue_toDigits] at hNumeral
    exact hText ▸ hNumeral
  | negSucc m =>
    have hText : (toString (Int.negSucc m)).toList = '-' :: Nat.toDigits 10 (m + 1) := by
      rw [← Nat.toList_repr]
      exact String.toList_append
    have hNumeral := IsNumeral.minus (areDigits_toDigits (m + 1))
    rw [placeValue_toDigits] at hNumeral
    exact hText ▸ hNumeral

end SparkFleet.Text
