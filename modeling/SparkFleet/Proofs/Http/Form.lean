import SparkFleet.Http.Form
import SparkFleet.Proofs.Http.Base64
import SparkFleet.Proofs.Json.Text

/-!
# Reading form-encoded parameters

A query in the form `application/x-www-form-urlencoded` is read as the standard says: it is split at
the ampersands, each piece that is not empty at its first equals sign; plus signs stand for spaces,
and two hexadecimal digits after a percent sign for a byte.  Any other character stands for its
bytes in UTF-8, a percent sign without two digits too.

Nothing that is written for a name or a value is one of the marks at which a query is split
(`isSafe_of_mem_writeText`), and its bytes are read back one by one (`readBytes_writeByte`).  The
main statement `read_write` says that parameters are read as they were written.
-/

namespace SparkFleet.Http.Form

/-! ### Reading -/

/-- The number of a hexadecimal digit. -/
def hexValue? (c : Char) : Option Nat :=
  if '0' ≤ c ∧ c ≤ '9' then some (c.toNat - '0'.toNat)
  else if 'A' ≤ c ∧ c ≤ 'F' then some (c.toNat - 'A'.toNat + 10)
  else if 'a' ≤ c ∧ c ≤ 'f' then some (c.toNat - 'a'.toNat + 10)
  else none

/-- The byte that two hexadecimal digits stand for. -/
def hexByte? (c d : Char) : Option UInt8 := do
  return UInt8.ofNat (16 * (← hexValue? c) + (← hexValue? d))

/-- The bytes that a name or a value stands for. -/
def readBytes : List Char → List UInt8
  | [] => []
  | '+' :: rest => 32 :: readBytes rest
  | '%' :: c :: d :: rest =>
    match hexByte? c d with
    | some b => b :: readBytes rest
    | none => 37 :: readBytes (c :: d :: rest)
  | c :: rest => String.utf8EncodeChar c ++ readBytes rest

/-- Read a name or a value, which must be in UTF-8. -/
def readText (written : List Char) : Option String :=
  String.fromUTF8? ⟨(readBytes written).toArray⟩

/-- Read a parameter; one without an equals sign is a name without a value. -/
def readPair (written : List Char) : Option (String × String) := do
  let name ← readText (written.takeWhile (· ≠ '='))
  let value ← readText ((written.dropWhile (· ≠ '=')).drop 1)
  return (name, value)

/-- Read the parameters of a query. -/
def read (query : List Char) : Option (List (String × String)) :=
  ((query.splitOn '&').filter (· ≠ [])).mapM readPair

/-! ### Bytes -/

theorem hexDigit_spec : ∀ n < 16,
    hexValue? (hexDigit n) = some n ∧ (hexDigit n).isAlphanum = true := by
  decide

theorem hexByte?_hexDigit (b : UInt8) :
    hexByte? (hexDigit (b.toNat / 16)) (hexDigit (b.toNat % 16)) = some b := by
  have hHigh : b.toNat / 16 < 16 := Nat.div_lt_of_lt_mul b.toNat_lt
  have hLow : b.toNat % 16 < 16 := Nat.mod_lt _ (by decide)
  rw [hexByte?, (hexDigit_spec _ hHigh).1, (hexDigit_spec _ hLow).1]
  simp only [Option.bind_eq_bind, Option.bind_some, Nat.div_add_mod, UInt8.ofNat_toNat]
  rfl

/-- A character that is neither a plus nor a percent sign stands for itself. -/
theorem readBytes_cons {c : Char} (hPlus : c ≠ '+') (hPercent : c ≠ '%') (rest : List Char) :
    readBytes (c :: rest) = String.utf8EncodeChar c ++ readBytes rest := by
  rw [readBytes]
  · exact hPlus
  · exact fun d e rest hStart _ => hPercent hStart

theorem ne_of_isPlain {b : UInt8} (hPlain : isPlain b = true) {c : Char}
    (hMark : (c.isAlphanum || c == '*' || c == '-' || c == '.' || c == '_') = false) :
    Char.ofNat b.toNat ≠ c := by
  rintro rfl
  rw [isPlain, hMark, Bool.and_false] at hPlain
  exact Bool.false_ne_true hPlain

/-- A byte is read as it was written. -/
theorem readBytes_writeByte (b : UInt8) (rest : List Char) :
    readBytes (writeByte b ++ rest) = b :: readBytes rest := by
  rw [writeByte]
  split
  · -- A plain byte is a character of ASCII, which is encoded as this byte alone.
    rename_i hPlain
    have hAscii : b.toNat < 128 := by
      rw [isPlain, Bool.and_eq_true, decide_eq_true_eq] at hPlain
      exact hPlain.1
    have hValid : b.toNat.isValidChar := .inl (hAscii.trans (by decide))
    have hChar : (Char.ofNat b.toNat).toNat = b.toNat := by
      rw [Char.ofNat, dif_pos hValid]
      rfl
    rw [List.singleton_append, readBytes_cons (ne_of_isPlain hPlain rfl) (ne_of_isPlain hPlain rfl),
      Json.utf8EncodeChar_of_lt (hChar.symm ▸ hAscii), hChar, UInt8.ofNat_toNat]
    rfl
  · split
    · rename_i hSpace
      rw [hSpace]
      rfl
    · -- Every other byte is two digits after a percent sign, and the digits are read as the byte.
      simp only [percent, List.cons_append, List.nil_append, readBytes, hexByte?_hexDigit]

theorem readBytes_flatMap (bytes : List UInt8) : readBytes (bytes.flatMap writeByte) = bytes := by
  induction bytes with
  | nil => rfl
  | cons b rest ih => rw [List.flatMap_cons, readBytes_writeByte, ih]

/-- A text is read as it was written. -/
theorem readText_writeText (s : String) : readText (writeText s) = some s := by
  rw [readText, writeText, readBytes_flatMap, Base64.toList_eq]
  exact Json.fromUTF8?_bytes s

/-! ### Parameters -/

/-- Whether a character may be written for a name or a value. -/
def isSafe (c : Char) : Bool := c.isAlphanum || "*-._+%".toList.contains c

theorem isSafe_of_mem_writeByte {b : UInt8} {c : Char} (hMem : c ∈ writeByte b) :
    isSafe c = true := by
  rw [writeByte] at hMem
  split at hMem
  · rename_i hPlain
    obtain rfl := List.mem_singleton.1 hMem
    rw [isPlain, Bool.and_eq_true] at hPlain
    simp only [Bool.or_eq_true, beq_iff_eq] at hPlain
    rcases hPlain.2 with (((hKind | hKind) | hKind) | hKind) | hKind
    · rw [isSafe, hKind, Bool.true_or]
    all_goals
      rw [hKind]
      decide
  · split at hMem
    · obtain rfl := List.mem_singleton.1 hMem
      decide
    · have hHigh : b.toNat / 16 < 16 := Nat.div_lt_of_lt_mul b.toNat_lt
      have hLow : b.toNat % 16 < 16 := Nat.mod_lt _ (by decide)
      simp only [percent, List.mem_cons, List.not_mem_nil, or_false] at hMem
      rcases hMem with rfl | rfl | rfl
      · decide
      · rw [isSafe, (hexDigit_spec _ hHigh).2, Bool.true_or]
      · rw [isSafe, (hexDigit_spec _ hLow).2, Bool.true_or]

/-- What is written for a text is safe. -/
theorem isSafe_of_mem_writeText {s : String} {c : Char} (hMem : c ∈ writeText s) :
    isSafe c = true := by
  obtain ⟨b, -, hMem⟩ := List.mem_flatMap.1 hMem
  exact isSafe_of_mem_writeByte hMem

/-- No mark that is not safe is written for a text. -/
theorem not_mem_writeText {c : Char} (hMark : isSafe c = false) (s : String) : c ∉ writeText s :=
  fun hMem => Bool.false_ne_true (hMark.symm.trans (isSafe_of_mem_writeText hMem))

theorem not_mem_writePair (p : String × String) : '&' ∉ writePair p := by
  rw [writePair, List.mem_append, List.mem_cons]
  rintro (hName | hEqual | hValue)
  · exact not_mem_writeText rfl _ hName
  · cases hEqual
  · exact not_mem_writeText rfl _ hValue

theorem readPair_writePair (p : String × String) : readPair (writePair p) = some p := by
  -- The first equals sign is the one between the two, as none is written for a name.
  have hName : ∀ c ∈ writeText p.1, decide (c ≠ '=') = true := by
    rintro c hMem
    exact decide_eq_true fun hEqual => not_mem_writeText rfl _ (hEqual ▸ hMem)
  rw [readPair, writePair, List.takeWhile_append_of_pos hName, List.dropWhile_append_of_pos hName]
  simp [readText_writeText]

/-- Parameters are read as they were written. -/
theorem read_write (parameters : List (String × String)) :
    read (write parameters) = some parameters := by
  have hPieces : ((write parameters).splitOn '&').filter (· ≠ []) = parameters.map writePair := by
    by_cases hNone : parameters = []
    · rw [hNone]
      rfl
    -- A piece has an equals sign, so it is not empty, and there is no ampersand in it.
    · rw [write, List.splitOn_intercalate]
      · refine List.filter_eq_self.2 fun piece hMem => ?_
        obtain ⟨p, -, rfl⟩ := List.mem_map.1 hMem
        simp [writePair]
      · intro piece hMem
        obtain ⟨p, -, rfl⟩ := List.mem_map.1 hMem
        exact not_mem_writePair p
      · simpa using hNone
  have hRead : readPair ∘ writePair = fun p => pure (id p) := funext readPair_writePair
  rw [read, hPieces, List.mapM_map, hRead, List.mapM_pure, List.map_id]
  rfl

/-- Nothing but safe characters and the marks between parameters stands in a query. -/
theorem isSafe_of_mem_write {parameters : List (String × String)} {c : Char}
    (hMem : c ∈ write parameters) : isSafe c = true ∨ c = '&' ∨ c = '=' := by
  have hPair : ∀ p, c ∈ writePair p → isSafe c = true ∨ c = '&' ∨ c = '=' := by
    intro p hMem
    rw [writePair, List.mem_append, List.mem_cons] at hMem
    rcases hMem with hName | hEqual | hValue
    · exact .inl (isSafe_of_mem_writeText hName)
    · exact .inr (.inr hEqual)
    · exact .inl (isSafe_of_mem_writeText hValue)
  induction parameters with
  | nil => cases hMem
  | cons p rest ih =>
    cases rest with
    | nil =>
      rw [write, List.map_singleton, List.intercalate_singleton] at hMem
      exact hPair p hMem
    | cons q rest =>
      rw [write, List.map_cons, List.map_cons, List.intercalate_cons_cons, ← List.map_cons, ← write,
        List.mem_append, List.mem_append, List.mem_singleton] at hMem
      rcases hMem with (hMem | hMark) | hMem
      · exact hPair p hMem
      · exact .inr (.inl hMark)
      · exact ih hMem

end SparkFleet.Http.Form
