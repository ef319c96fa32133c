import Mathlib.Data.List.Chain
import SparkFleet.Json.Tree

/-!
# Scanning what has been written

`Reads s bs t` says that bytes take the scanner from one state to another.  What is written for a
string is read as the string (`reads_stringText`), character by character.  What is written for a
number takes the scanner to a state in which the number may end (`reads_numberText`): a number has
no end of its own, so the token is complete only once another byte comes.

The main statement `scan?_text` says that tokens are scanned from their text, as long as a number is
followed by nothing but a mark that ends a value (`Token.MayFollow`).
-/

namespace SparkFleet.Json

/-! ### Bytes -/

/-- The bytes of a text in UTF-8. -/
def bytes (s : String) : List UInt8 := s.toUTF8.data.toList

theorem bytes_append (s t : String) : bytes (s ++ t) = bytes s ++ bytes t := by
  rw [bytes, String.toUTF8, String.toByteArray_append]
  exact ByteArray.toList_data_append

theorem bytes_ofList (l : List Char) :
    bytes (String.ofList l) = l.flatMap String.utf8EncodeChar := by
  rw [bytes, String.toUTF8, String.toByteArray_ofList]
  exact List.toList_data_toByteArray

theorem bytes_singleton (c : Char) : bytes (String.singleton c) = String.utf8EncodeChar c := by
  rw [String.singleton_eq_ofList, bytes_ofList, List.flatMap_singleton]

theorem bytes_join (l : List String) : bytes (String.join l) = l.flatMap bytes := by
  induction l with
  | nil => rfl
  | cons s l ih => rw [String.join_cons, bytes_append, ih, List.flatMap_cons]

/-- The text of its bytes is the text. -/
theorem fromUTF8?_bytes (s : String) : String.fromUTF8? ⟨(bytes s).toArray⟩ = some s :=
  dif_pos s.isValidUTF8

/-- A character below 128 is a byte of its own. -/
theorem utf8EncodeChar_of_lt {c : Char} (h : c.toNat < 128) :
    String.utf8EncodeChar c = [UInt8.ofNat c.toNat] := by
  have hLe : c.val.toNat ≤ 127 := Nat.le_of_lt_succ h
  rw [String.utf8EncodeChar, if_pos hLe]
  rfl

/-- The bytes of a character from 128 on are from 128 on. -/
theorem le_utf8EncodeChar {c : Char} (h : 128 ≤ c.toNat) {b : UInt8}
    (hb : b ∈ String.utf8EncodeChar c) : 128 ≤ b.toNat := by
  have hLe : ¬c.val.toNat ≤ 127 := Nat.not_le_of_lt h
  have hByte (n : Nat) (hn : 128 ≤ n ∧ n < 256) : 128 ≤ (UInt8.ofNat n).toNat := by
    rw [UInt8.toNat_ofNat_of_lt' hn.2]
    exact hn.1
  -- Two, three or four bytes, each with its highest bit set.
  rw [String.utf8EncodeChar, if_neg hLe] at hb
  split at hb
  · simp only [List.mem_cons, List.not_mem_nil, or_false] at hb
    rcases hb with rfl | rfl <;> exact hByte _ (by omega)
  · split at hb
    · simp only [List.mem_cons, List.not_mem_nil, or_false] at hb
      rcases hb with rfl | rfl | rfl <;> exact hByte _ (by omega)
    · simp only [List.mem_cons, List.not_mem_nil, or_false] at hb
      rcases hb with rfl | rfl | rfl | rfl <;> exact hByte _ (by omega)

/-! ### Machines -/

/-- A machine comes from one state to another by taking the items of a list. -/
def Leads {σ α : Type} (step : σ → α → Option σ) (s : σ) (l : List α) (t : σ) : Prop :=
  l.foldlM step s = some t

namespace Leads

variable {σ α : Type} {step : σ → α → Option σ} {s t u : σ} {a : α} {l m : List α}

theorem refl (s : σ) : Leads step s [] s := rfl

theorem cons (hStep : step s a = some t) (hRest : Leads step t l u) : Leads step s (a :: l) u := by
  show (step s a >>= fun t => l.foldlM step t) = some u
  rw [hStep]
  exact hRest

theorem single (hStep : step s a = some t) : Leads step s [a] t := cons hStep (refl t)

theorem append (hFirst : Leads step s l t) (hSecond : Leads step t m u) :
    Leads step s (l ++ m) u := by
  unfold Leads at *
  rw [List.foldlM_append, hFirst]
  exact hSecond

end Leads

/-- Bytes take the scanner from one state to another. -/
abbrev Reads : Scanner → List UInt8 → Scanner → Prop := Leads Scanner.step

/-! ### Strings -/

/-- A string literal after the opening quote and some of its text. -/
def PartialString.after (read : List UInt8) : PartialString := ⟨.plain, read.reverse, none, true⟩

variable {tokens : List Token}

/-- Bytes other than the quote, the backslash and control characters stand for themselves. -/
theorem reads_plain {bs : List UInt8} (read : List UInt8)
    (hPlain : ∀ b ∈ bs, b ≠ 34 ∧ b ≠ 92 ∧ 32 ≤ b.toNat) :
    Reads ⟨tokens, .string (.after read)⟩ bs ⟨tokens, .string (.after (read ++ bs))⟩ := by
  induction bs generalizing read with
  | nil =>
    rw [List.append_nil]
    exact .refl _
  | cons b bs ih =>
    obtain ⟨hQuote, hBackslash, hControl⟩ := hPlain b List.mem_cons_self
    -- The byte is added to what has been read, and the state stays that of plain text.
    have hPush : (PartialString.after read).push b = some (.after (read ++ [b])) := by
      have hNot : ¬b.toNat < 0x20 := Nat.not_lt_of_le hControl
      simp [PartialString.push, PartialString.after, PartialString.pushByte, PartialString.settle,
        hBackslash, hNot]
    have hRest := ih (read ++ [b]) fun b' hMem => hPlain b' (List.mem_cons_of_mem b hMem)
    rw [List.append_assoc, List.singleton_append] at hRest
    refine .cons ?_ hRest
    show (if b == 34 && true then _ else ((PartialString.after read).push b).map _) = _
    rw [hPush]
    simp [hQuote]

/-- The value of a hexadecimal digit. -/
theorem hexValue_hexDigit {n : Nat} (h : n < 16) :
    hexValue (UInt8.ofNat (Token.hexDigit n).toNat) = some n := by
  decide +revert

theorem toNat_hexDigit_lt {n : Nat} (h : n < 16) : (Token.hexDigit n).toNat < 128 := by
  decide +revert

/-- A byte of a string literal that is not its last. -/
theorem step_string {p q : PartialString} {b : UInt8} (hNotEnd : b ≠ 34 ∨ p.mayEnd = false)
    (hPush : p.push b = some q) :
    Scanner.step ⟨tokens, .string p⟩ b = some ⟨tokens, .string q⟩ := by
  have hTest : (b == 34 && p.mayEnd) = false := by
    rcases hNotEnd with h | h <;> simp [h]
  show (if b == 34 && p.mayEnd then _ else (p.push b).map _) = _
  rw [hTest, if_neg Bool.false_ne_true, hPush]
  rfl

/-- A one-letter escape stands for a byte. -/
theorem reads_escape {b e : UInt8} (read : List UInt8) (hUnit : b ≠ 117)
    (hEscape : escapeByte b = some e) :
    Reads ⟨tokens, .string (.after read)⟩ [92, b] ⟨tokens, .string (.after (read ++ [e]))⟩ := by
  have hNext : PartialString.push ⟨.escape, read.reverse, none, true⟩ b =
      some (.after (read ++ [e])) := by
    simp [PartialString.push, PartialString.after, PartialString.pushByte, PartialString.settle,
      hUnit, hEscape]
  refine .cons (step_string (q := ⟨.escape, read.reverse, none, true⟩) (.inl (by decide)) rfl) ?_
  exact .single (step_string (.inr rfl) hNext)

/-- A digit of an escape that is not its last. -/
theorem step_hex {missing value d : Nat} {read : List UInt8} {b : UInt8} (hMissing : 1 < missing)
    (hDigit : hexValue b = some d) :
    Scanner.step ⟨tokens, .string ⟨.hex missing value, read, none, true⟩⟩ b =
      some ⟨tokens, .string ⟨.hex (missing - 1) (16 * value + d), read, none, true⟩⟩ := by
  refine step_string (.inr rfl) ?_
  simp [PartialString.push, hDigit, Nat.not_le_of_lt hMissing]

/-- The last digit of an escape for a character below the surrogates. -/
theorem step_lastHex {value d : Nat} {read : List UInt8} {b : UInt8} {c : Char}
    (hDigit : hexValue b = some d) (hNumber : 16 * value + d = c.toNat)
    (hSmall : c.toNat < 0xD800) :
    Scanner.step ⟨tokens, .string ⟨.hex 1 value, read.reverse, none, true⟩⟩ b =
      some ⟨tokens, .string (.after (read ++ String.utf8EncodeChar c))⟩ := by
  refine step_string (.inr rfl) ?_
  have hBytes : codePointBytes c.toNat = (String.utf8EncodeChar c).reverse := by
    rw [codePointBytes, Char.ofNat_toNat]
    exact congrArg List.reverse (bytes_singleton c)
  -- Below the surrogates the number is a character of its own, and no other half is waited for.
  have hNotLead : ¬0xD800 ≤ c.toNat := Nat.not_le_of_lt hSmall
  have hNotTrail : ¬0xDC00 ≤ c.toNat := by omega
  simp [PartialString.push, PartialString.pushUnit, PartialString.after, hDigit, hNumber,
    hNotLead, hNotTrail, hBytes]

/-- An escape of four digits stands for the character with this number. -/
theorem reads_control (read : List UInt8) {c : Char} (hControl : c.toNat < 32) :
    Reads ⟨tokens, .string (.after read)⟩
      [92, 117, 48, 48, UInt8.ofNat (Token.hexDigit (c.toNat / 16)).toNat,
        UInt8.ofNat (Token.hexDigit (c.toNat % 16)).toNat]
      ⟨tokens, .string (.after (read ++ String.utf8EncodeChar c))⟩ := by
  have hHigh := hexValue_hexDigit (n := c.toNat / 16) (by omega)
  have hLow := hexValue_hexDigit (n := c.toNat % 16) (by omega)
  have hZero : hexValue 48 = some 0 := by decide
  have hNumber : 16 * (16 * (16 * (16 * 0 + 0) + 0) + c.toNat / 16) + c.toNat % 16 = c.toNat := by
    omega
  -- The backslash, the letter, two zeros and two digits, one step each.
  refine .cons (step_string (q := ⟨.escape, read.reverse, none, true⟩) (.inl (by decide)) rfl) ?_
  refine .cons (step_string (q := ⟨.hex 4 0, read.reverse, none, true⟩) (.inr rfl) rfl) ?_
  refine .cons (step_hex (by decide) hZero) (.cons (step_hex (by decide) hZero) ?_)
  exact .cons (step_hex (by decide) hHigh)
    (.single (step_lastHex hLow hNumber (by omega)))

/-- The bytes of two hexadecimal digits. -/
theorem bytes_hexDigits {m n : Nat} (hm : m < 16) (hn : n < 16) :
    bytes (String.ofList [Token.hexDigit m, Token.hexDigit n]) =
      [UInt8.ofNat (Token.hexDigit m).toNat, UInt8.ofNat (Token.hexDigit n).toNat] := by
  rw [bytes_ofList, List.flatMap_cons, List.flatMap_singleton,
    utf8EncodeChar_of_lt (toNat_hexDigit_lt hm), utf8EncodeChar_of_lt (toNat_hexDigit_lt hn)]
  rfl

/-- No byte of a character is the quote, the backslash or a control character, unless the character
is one. -/
theorem plain_utf8EncodeChar {c : Char} (hQuote : c ≠ '"') (hBackslash : c ≠ '\\')
    (hControl : ¬c.toNat < 32) {b : UInt8} (hb : b ∈ String.utf8EncodeChar c) :
    b ≠ 34 ∧ b ≠ 92 ∧ 32 ≤ b.toNat := by
  by_cases hLt : c.toNat < 128
  · rw [utf8EncodeChar_of_lt hLt, List.mem_singleton] at hb
    have hByte : b.toNat = c.toNat := by
      rw [hb, UInt8.toNat_ofNat_of_lt' (Nat.lt_trans hLt (by decide))]
    refine ⟨?_, ?_, by omega⟩
    · rintro rfl
      exact hQuote (Char.toNat_inj.1 hByte.symm)
    · rintro rfl
      exact hBackslash (Char.toNat_inj.1 hByte.symm)
  · -- The bytes that are excluded are all below 128.
    have hLe := le_utf8EncodeChar (Nat.le_of_not_lt hLt) hb
    refine ⟨?_, ?_, by omega⟩ <;>
      · rintro rfl
        exact absurd hLe (by decide)

/-- What is written for a character is read as its bytes. -/
theorem reads_stringChar (read : List UInt8) (c : Char) :
    Reads ⟨tokens, .string (.after read)⟩ (bytes (Token.stringChar c))
      ⟨tokens, .string (.after (read ++ String.utf8EncodeChar c))⟩ := by
  unfold Token.stringChar
  split
  -- Seven characters have an escape of one letter.
  iterate 7 exact reads_escape read (by decide) rfl
  · next hQuote hBackslash _ _ _ _ _ =>
    split
    · next hControl =>
      rw [bytes_append, bytes_hexDigits (by omega) (by omega)]
      exact reads_control read hControl
    · next hControl =>
      rw [bytes_singleton]
      exact reads_plain read fun b hb => plain_utf8EncodeChar hQuote hBackslash hControl hb

/-- A string literal is read as its text. -/
theorem reads_stringText (s : String) :
    Reads ⟨tokens, .between⟩ (bytes (Token.stringText s)) ⟨.str s :: tokens, .between⟩ := by
  have hChars (read : List UInt8) (l : List Char) :
      Reads ⟨tokens, .string (.after read)⟩ (l.flatMap fun c => bytes (Token.stringChar c))
        ⟨tokens, .string (.after (read ++ l.flatMap String.utf8EncodeChar))⟩ := by
    induction l generalizing read with
    | nil =>
      rw [List.flatMap_nil, List.flatMap_nil, List.append_nil]
      exact .refl _
    | cons c l ih =>
      rw [List.flatMap_cons, List.flatMap_cons, ← List.append_assoc]
      exact .append (reads_stringChar read c) (ih _)
  have hBytes : s.toList.flatMap String.utf8EncodeChar = bytes s := by
    rw [← bytes_ofList, String.ofList_toList]
  have hToken : (PartialString.after (bytes s)).token = .str s := by
    have hText : String.fromUTF8? ⟨(bytes s).reverse.reverse.toArray⟩ = some s := by
      rw [List.reverse_reverse, fromUTF8?_bytes]
    have hSettle : (PartialString.after (bytes s)).settle = .after (bytes s) := rfl
    rw [PartialString.token, hSettle]
    simp only [PartialString.after, hText]
  rw [Token.stringText, bytes_append, bytes_append, bytes_join, List.flatMap_map]
  refine .append (.append (.single rfl) (hBytes ▸ hChars [] s.toList)) (.single ?_)
  show some (⟨(PartialString.after ([] ++ bytes s)).token :: tokens, .between⟩ : Scanner) = _
  rw [List.nil_append, hToken]

/-! ### Numbers -/

/-- The byte of a decimal digit. -/
def digitByte (d : Nat) : UInt8 := UInt8.ofNat (48 + d)

theorem utf8EncodeChar_digitChar {d : Nat} (h : d < 10) :
    String.utf8EncodeChar (Nat.digitChar d) = [digitByte d] := by
  have hNat := Nat.toNat_digitChar_of_lt_ten h
  rw [utf8EncodeChar_of_lt (by omega), hNat, digitByte]

theorem bytes_toString_of_lt {n : Nat} (h : n < 10) : bytes (toString n) = [digitByte n] := by
  rw [Nat.toString_eq_ofList_toDigits, Nat.toDigits_of_lt_base h, bytes_ofList,
    List.flatMap_singleton, utf8EncodeChar_digitChar h]

/-- The digits of a number are those of its tenth and its last one. -/
theorem bytes_toString_of_le {n : Nat} (h : 10 ≤ n) :
    bytes (toString n) = bytes (toString (n / 10)) ++ [digitByte (n % 10)] := by
  have hLast : n % 10 < 10 := Nat.mod_lt n (by decide)
  rw [Nat.toString_eq_ofList_toDigits, Nat.toDigits_of_base_le (by decide) h, bytes_ofList,
    List.flatMap_append, List.flatMap_singleton, utf8EncodeChar_digitChar hLast, ← bytes_ofList,
    ← Nat.toString_eq_ofList_toDigits]

/-- A positive number is read digit by digit, each state saying what has been read of it. -/
theorem reads_toString {s : Scanner} (state : Nat → Scanner)
    (hFirst : ∀ d, 0 < d → d < 10 → s.step (digitByte d) = some (state d))
    (hNext : ∀ m d, 0 < m → d < 10 → (state m).step (digitByte d) = some (state (10 * m + d)))
    {n : Nat} (hPos : 0 < n) : Reads s (bytes (toString n)) (state n) := by
  induction n using Nat.strongRecOn with
  | ind n ih =>
    -- What comes before the last digit is the text of the tenth.
    by_cases hLt : n < 10
    · rw [bytes_toString_of_lt hLt]
      exact .single (hFirst n hPos hLt)
    · have hTenth : 0 < n / 10 := Nat.div_pos (Nat.le_of_not_lt hLt) (by decide)
      have hStep := hNext (n / 10) (n % 10) hTenth (Nat.mod_lt n (by decide))
      rw [Nat.div_add_mod] at hStep
      rw [bytes_toString_of_le (Nat.le_of_not_lt hLt)]
      exact .append (ih (n / 10) (Nat.div_lt_self hPos (by decide)) hTenth) (.single hStep)

theorem digit?_digitByte {d : Nat} (h : d < 10) : digit? (digitByte d) = some ⟨d, h⟩ := by
  decide +revert

/-- A digit goes on with a number. -/
theorem step_digit {p q : PartialNumber} {d : Nat} (h : d < 10)
    (hPush : p.pushDigit ⟨d, h⟩ = some q) :
    Scanner.step ⟨tokens, .number p⟩ (digitByte d) = some ⟨tokens, .number q⟩ := by
  show Scanner.afterNumber tokens p (digitByte d) = _
  rw [Scanner.afterNumber, digit?_digitByte h]
  show (p.pushDigit ⟨d, h⟩).map _ = _
  rw [hPush]
  rfl

/-- A byte that is no digit may go on with a number. -/
theorem step_mark {p q : PartialNumber} {b : UInt8} (hDigit : digit? b = none)
    (hPush : p.pushMark b = some q) :
    Scanner.step ⟨tokens, .number p⟩ b = some ⟨tokens, .number q⟩ := by
  show Scanner.afterNumber tokens p b = _
  rw [Scanner.afterNumber, hDigit, hPush]

/-- The literal of a number after its whole part. -/
def PartialNumber.ofWhole (negative : Bool) (n : Nat) : PartialNumber :=
  ⟨if n = 0 then .zero else .whole, negative, n, [], false, 0⟩

theorem step_whole {negative : Bool} {m d : Nat} (hPos : 0 < m) (h : d < 10) :
    Scanner.step ⟨tokens, .number (.ofWhole negative m)⟩ (digitByte d) =
      some ⟨tokens, .number (.ofWhole negative (10 * m + d))⟩ := by
  have hNe : m ≠ 0 := Nat.ne_of_gt hPos
  have hNe' : 10 * m + d ≠ 0 := by omega
  refine step_digit h ?_
  rw [PartialNumber.ofWhole, PartialNumber.ofWhole, if_neg hNe, if_neg hNe']
  rfl

theorem step_first {d : Nat} (h : d < 10) :
    Scanner.step ⟨tokens, .between⟩ (digitByte d) =
      some ⟨tokens, .number (.ofWhole false d)⟩ := by
  have hBlank : Scanner.isBlank (digitByte d) = false := by decide +revert
  have hQuote : (digitByte d == 34) = false := by decide +revert
  have hMark : Scanner.mark? (digitByte d) = none := by decide +revert
  have hSign : (digitByte d == 45) = false := by decide +revert
  have hStart : PartialNumber.start? (digitByte d) = some (.ofWhole false d) := by
    rw [PartialNumber.start?, hSign, if_neg Bool.false_ne_true, digit?_digitByte h]
    simp [PartialNumber.ofWhole]
  show Scanner.begin? tokens (digitByte d) = _
  simp only [Scanner.begin?, hBlank, hQuote, hMark, hStart, Bool.false_eq_true, if_false]

theorem step_afterSign {d : Nat} (h : d < 10) :
    Scanner.step ⟨tokens, .number ⟨.sign, true, 0, [], false, 0⟩⟩ (digitByte d) =
      some ⟨tokens, .number (.ofWhole true d)⟩ :=
  step_digit h rfl

/-- The digits before the point. -/
theorem reads_wholeDigits {s : Scanner} {negative : Bool}
    (hFirst : ∀ d, d < 10 → s.step (digitByte d) = some ⟨tokens, .number (.ofWhole negative d)⟩)
    (n : Nat) : Reads s (bytes (toString n)) ⟨tokens, .number (.ofWhole negative n)⟩ := by
  rcases Nat.eq_zero_or_pos n with rfl | hPos
  · exact .single (hFirst 0 (by decide))
  · exact reads_toString (fun n => ⟨tokens, .number (.ofWhole negative n)⟩)
      (fun d _ h => hFirst d h) (fun m d hPos h => step_whole hPos h) hPos

/-- A sign and the digits before the point. -/
theorem reads_whole (tokens : List Token) (negative : Bool) (n : Nat) :
    Reads ⟨tokens, .between⟩ (bytes ((if negative then "-" else "") ++ toString n))
      ⟨tokens, .number (.ofWhole negative n)⟩ := by
  rw [bytes_append]
  cases negative with
  | false => exact reads_wholeDigits (fun d h => step_first h) n
  | true => exact .append (.single rfl) (reads_wholeDigits (fun d h => step_afterSign h) n)

/-- The literal after its digits after the point, last first. -/
def PartialNumber.withFraction (p : PartialNumber) (fraction : List Digit) : PartialNumber :=
  { p with part := .fraction, fraction := fraction }

theorem flatMap_digitChar (ds : List Digit) :
    bytes (String.ofList (ds.map fun d => Nat.digitChar d.val)) =
      ds.map fun d => digitByte d.val := by
  rw [bytes_ofList, List.flatMap_map]
  induction ds with
  | nil => rfl
  | cons d ds ih => rw [List.flatMap_cons, utf8EncodeChar_digitChar d.isLt, ih]; rfl

/-- Further digits after the point. -/
theorem reads_fractionDigits (p : PartialNumber) (read ds : List Digit) :
    Reads ⟨tokens, .number (p.withFraction read)⟩ (ds.map fun d => digitByte d.val)
      ⟨tokens, .number (p.withFraction (ds.reverse ++ read))⟩ := by
  induction ds generalizing read with
  | nil => exact .refl _
  | cons d ds ih =>
    rw [List.map_cons, List.reverse_cons, List.append_assoc]
    exact .cons (step_digit d.isLt rfl) (ih (d :: read))

/-- The point and the digits after it. -/
theorem reads_fraction (tokens : List Token) (negative : Bool) (n : Nat) {fraction : List Digit}
    (hFilled : fraction ≠ []) :
    Reads ⟨tokens, .number (.ofWhole negative n)⟩
      (bytes ("." ++ String.ofList (fraction.map fun d => Nat.digitChar d.val)))
      ⟨tokens, .number ((PartialNumber.ofWhole negative n).withFraction fraction.reverse)⟩ := by
  cases fraction with
  | nil => exact absurd rfl hFilled
  | cons d ds =>
    have hPoint : (PartialNumber.ofWhole negative n).pushMark 46 =
        some { PartialNumber.ofWhole negative n with part := .point } := by
      rcases Nat.eq_zero_or_pos n with rfl | hPos
      · rfl
      · rw [PartialNumber.ofWhole, if_neg (Nat.ne_of_gt hPos)]
        rfl
    rw [bytes_append, flatMap_digitChar, List.map_cons, List.reverse_cons]
    exact .cons (step_mark (by decide) hPoint)
      (.cons (step_digit d.isLt rfl) (reads_fractionDigits _ [d] ds))

/-- The literal after its exponent. -/
def PartialNumber.withExponent (p : PartialNumber) (e : Int) : PartialNumber :=
  { p with part := .exponent, exponentNegative := e < 0, exponent := e.natAbs }

/-- The digits of an exponent, after what comes before them. -/
theorem reads_exponentDigits {p : PartialNumber} (hPart : p.part = .mark ∨ p.part = .markSign)
    (n : Nat) :
    Reads ⟨tokens, .number p⟩ (bytes (toString n))
      ⟨tokens, .number { p with part := .exponent, exponent := n }⟩ := by
  have hFirst (d : Nat) (h : d < 10) : Scanner.step ⟨tokens, .number p⟩ (digitByte d) =
      some ⟨tokens, .number { p with part := .exponent, exponent := d }⟩ := by
    refine step_digit h ?_
    rcases hPart with hPart | hPart <;> rw [PartialNumber.pushDigit, hPart]
  rcases Nat.eq_zero_or_pos n with rfl | hPos
  · exact .single (hFirst 0 (by decide))
  · exact reads_toString
      (fun n => ⟨tokens, .number { p with part := .exponent, exponent := n }⟩)
      (fun d _ h => hFirst d h) (fun m d _ h => step_digit h rfl) hPos

/-- The mark of an exponent, its sign and its digits. -/
theorem reads_exponent {p : PartialNumber} (hNone : p.exponentNegative = false)
    (hMark : p.pushMark 101 = some { p with part := .mark }) (e : Int) :
    Reads ⟨tokens, .number p⟩ (bytes ("e" ++ toString e)) ⟨tokens, .number (p.withExponent e)⟩ := by
  rw [bytes_append]
  refine .append (.single (step_mark (b := 101) (by decide) hMark)) ?_
  cases e with
  | ofNat n =>
    -- No sign is written, and the exponent is read as positive from the start.
    have hEnd : p.withExponent (.ofNat n) = { p with part := .exponent, exponent := n } := by
      simp [PartialNumber.withExponent, hNone]
    rw [hEnd]
    exact reads_exponentDigits (.inl rfl) n
  | negSucc n =>
    have hText : toString (Int.negSucc n) = "-" ++ toString (n + 1) := rfl
    have hSign : Scanner.step ⟨tokens, .number { p with part := .mark }⟩ 45 =
        some ⟨tokens, .number { p with part := .markSign, exponentNegative := true }⟩ :=
      step_mark (by decide) rfl
    have hEnd : p.withExponent (.negSucc n) =
        { p with part := .exponent, exponentNegative := true, exponent := n + 1 } := by
      simp [PartialNumber.withExponent, Int.negSucc_lt_zero]
    rw [hText, bytes_append, hEnd]
    exact .append (.single hSign) (reads_exponentDigits (.inr rfl) (n + 1))

/-- A literal that may end may have an exponent. -/
theorem finish?_withExponent {p : PartialNumber} {negative : Bool} {whole : Nat}
    {fraction : List Digit} (hEnd : p.finish? = some ⟨negative, whole, fraction, none⟩) (e : Int) :
    (p.withExponent e).finish? = some ⟨negative, whole, fraction, some e⟩ := by
  have hExponent : (if decide (e < 0) then -(Int.ofNat e.natAbs) else Int.ofNat e.natAbs) = e := by
    simp only [decide_eq_true_eq, Int.ofNat_eq_natCast]
    split <;> omega
  have hParts : p.negative = negative ∧ p.whole = whole ∧ p.fraction.reverse = fraction := by
    unfold PartialNumber.finish? at hEnd
    split at hEnd <;> cases hEnd <;> exact ⟨rfl, rfl, rfl⟩
  obtain ⟨rfl, rfl, rfl⟩ := hParts
  let literal (i : Int) : Number := ⟨p.negative, p.whole, p.fraction.reverse, some i⟩
  exact congrArg (fun i => some (literal i)) hExponent

/-- The literal up to the exponent, which may end there or go on with an exponent. -/
theorem reads_significand (tokens : List Token) (negative : Bool) (whole : Nat)
    (fraction : List Digit) :
    ∃ p : PartialNumber,
      Reads ⟨tokens, .between⟩
        (bytes ((if negative then "-" else "") ++ toString whole ++
          if fraction.isEmpty then ""
          else "." ++ String.ofList (fraction.map fun d => Nat.digitChar d.val)))
        ⟨tokens, .number p⟩ ∧
      p.finish? = some ⟨negative, whole, fraction, none⟩ ∧
      p.pushMark 101 = some { p with part := .mark } ∧ p.exponentNegative = false := by
  have hWhole := reads_whole tokens negative whole
  rw [bytes_append]
  cases fraction with
  | nil =>
    refine ⟨_, .append hWhole (.refl _), ?_⟩
    rcases Nat.eq_zero_or_pos whole with rfl | hPos
    · -- A zero before the point is a state of its own, since no digit may follow it.
      exact ⟨rfl, rfl, rfl⟩
    · rw [PartialNumber.ofWhole, if_neg (Nat.ne_of_gt hPos)]
      exact ⟨rfl, rfl, rfl⟩
  | cons d ds =>
    have hFraction := reads_fraction tokens negative whole (List.cons_ne_nil d ds)
    refine ⟨_, .append hWhole hFraction, ?_, rfl, rfl⟩
    show some _ = _
    rw [PartialNumber.withFraction, List.reverse_reverse]
    rfl

/-- A number literal is read up to a state in which it may end. -/
theorem reads_numberText (tokens : List Token) (n : Number) : ∃ p : PartialNumber,
    Reads ⟨tokens, .between⟩ (bytes (Token.numberText n)) ⟨tokens, .number p⟩ ∧
      p.finish? = some n := by
  obtain ⟨negative, whole, fraction, exponent⟩ := n
  obtain ⟨p, hReads, hEnd, hMark, hNone⟩ :=
    reads_significand tokens negative whole fraction
  rw [Token.numberText, bytes_append]
  cases exponent with
  | none => exact ⟨p, .append hReads (.refl _), hEnd⟩
  | some e =>
    exact ⟨p.withExponent e, .append hReads (reads_exponent hNone hMark e),
      finish?_withExponent hEnd e⟩

/-! ### Tokens -/

/-- The scanner is at the end of the tokens, which are listed last first: it is between two tokens,
or in a number that may end. -/
inductive AtEnd : List Token → Scanner → Prop where
  | between (tokens : List Token) : AtEnd tokens ⟨tokens, .between⟩
  | number (tokens : List Token) {p : PartialNumber} {n : Number} (hEnd : p.finish? = some n) :
      AtEnd (.num n :: tokens) ⟨tokens, .number p⟩

/-- What is written for a token is read as the token. -/
theorem reads_text (t : Token) :
    ∃ s, AtEnd (t :: tokens) s ∧ Reads ⟨tokens, .between⟩ (bytes t.text) s := by
  cases t with
  | num n =>
    obtain ⟨p, hReads, hEnd⟩ := reads_numberText tokens n
    exact ⟨_, .number tokens hEnd, hReads⟩
  | str s => exact ⟨_, .between _, reads_stringText s⟩
  | bool b => cases b <;> exact ⟨_, .between _, rfl⟩
  | openBrace | closeBrace | openBracket | closeBracket | colon | comma | null | unreadable =>
    exact ⟨_, .between _, rfl⟩

/-- The marks that may follow a value. -/
def Token.endsValue : Token → Bool
  | .closeBrace | .closeBracket | .comma => true
  | _ => false

/-- Whether the text of a token ends only with what follows it. -/
def Token.isOpenEnded : Token → Bool
  | .num _ => true
  | _ => false

/-- A token may be written directly after another. -/
def Token.MayFollow (t u : Token) : Prop := t.isOpenEnded = true → u.endsValue = true

/-- A byte that cannot belong to a number ends it. -/
theorem step_endNumber {p : PartialNumber} {n : Number} (hEnd : p.finish? = some n) {b : UInt8}
    (hDigit : digit? b = none) (hMark : b ∉ [46, 101, 69, 43, 45]) :
    Scanner.step ⟨tokens, .number p⟩ b = Scanner.begin? (.num n :: tokens) b := by
  -- In whatever part of a number the scanner is, no other byte goes on with it.
  have hPush : p.pushMark b = none := by
    simp only [List.mem_cons, List.not_mem_nil, or_false, not_or] at hMark
    obtain ⟨hPoint, hLower, hUpper, hPlus, hMinus⟩ := hMark
    unfold PartialNumber.pushMark
    split <;> simp [hPoint, hLower, hUpper, hPlus, hMinus]
  show Scanner.afterNumber tokens p b = _
  rw [Scanner.afterNumber, hDigit, hPush]
  show (p.finish? >>= fun n => Scanner.begin? (.num n :: tokens) b) = _
  rw [hEnd]
  rfl

/-- What is written for a token is read as the token also after others that it may follow. -/
theorem AtEnd.reads_text {s : Scanner} (hEnd : AtEnd tokens s) {t : Token}
    (hFollow : ∀ u ∈ tokens.head?, u.MayFollow t) :
    ∃ s', AtEnd (t :: tokens) s' ∧ Reads s (bytes t.text) s' := by
  cases hEnd with
  | between => exact Json.reads_text t
  | number tokens hNumber =>
    -- Only a mark that ends a value may follow, and it ends the number.
    have hEnds : t.endsValue = true := hFollow _ rfl rfl
    refine ⟨_, .between _, ?_⟩
    cases t with
    | closeBrace => exact .single (step_endNumber hNumber (b := 125) (by decide) (by decide))
    | closeBracket => exact .single (step_endNumber hNumber (b := 93) (by decide) (by decide))
    | comma => exact .single (step_endNumber hNumber (b := 44) (by decide) (by decide))
    | _ => exact nomatch hEnds

/-- What is written for tokens is read as them. -/
theorem AtEnd.reads_texts {s : Scanner} (hEnd : AtEnd tokens s) {ts : List Token}
    (hChain : ts.IsChain Token.MayFollow)
    (hFollow : ∀ t ∈ tokens.head?, ∀ u ∈ ts.head?, t.MayFollow u) :
    ∃ s', AtEnd (ts.reverse ++ tokens) s' ∧ Reads s (ts.flatMap fun t => bytes t.text) s' := by
  induction ts generalizing tokens s with
  | nil => exact ⟨s, hEnd, .refl s⟩
  | cons t ts ih =>
    -- The scanner is at the end of the tokens again, so the next one may be a number too.
    obtain ⟨hNext, hRest⟩ := List.isChain_cons.1 hChain
    obtain ⟨s₁, hEnd₁, hReads₁⟩ := hEnd.reads_text fun u hu => hFollow u hu t rfl
    have hFollow₁ : ∀ u ∈ (t :: tokens).head?, ∀ v ∈ ts.head?, u.MayFollow v := by
      rintro u ⟨⟩ v hv
      exact hNext v hv
    obtain ⟨s₂, hEnd₂, hReads₂⟩ := ih hEnd₁ hRest hFollow₁
    refine ⟨s₂, ?_, hReads₁.append hReads₂⟩
    rwa [List.reverse_cons, List.append_assoc]

theorem AtEnd.finish? {s : Scanner} (hEnd : AtEnd tokens s) : s.finish? = some tokens.reverse := by
  cases hEnd with
  | between => rfl
  | number tokens hNumber =>
    show (_ >>= fun n => some (Token.num n :: tokens).reverse) = _
    rw [hNumber]
    rfl

/-- Tokens that may follow one another are scanned from their text. -/
theorem scan?_text {ts : List Token} (hChain : ts.IsChain Token.MayFollow) :
    scan? (bytes (String.join (ts.map Token.text))) = some ts := by
  obtain ⟨s, hEnd, hReads⟩ := (AtEnd.between []).reads_texts hChain (fun _ h => nomatch h)
  rw [List.append_nil] at hEnd
  have hFold : (ts.flatMap fun t => bytes t.text).foldlM Scanner.step .start = some s := hReads
  rw [bytes_join, List.flatMap_map, scan?, hFold]
  exact hEnd.finish?.trans (congrArg some (List.reverse_reverse ts))

end SparkFleet.Json
