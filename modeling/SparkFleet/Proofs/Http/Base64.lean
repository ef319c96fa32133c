import Mathlib.Tactic.Ring
import SparkFleet.Http.Response

/-!
# The standard encoding of bytes as text

Bytes are written and read in groups of three, where the standard speaks of all their bits at once:
they are put in a row, zeros fill the row up to whole groups of six bits, each group is written by
its character, and equals signs fill the text up to a multiple of four characters (`standard`).

The main statements are `encode_eq_standard`, that this is what is written, and
`decode?_eq_some_iff`, that it is all that is read; `readContent_eq` says so of the content in a
response.
-/

namespace SparkFleet.Http.Base64

/-! ### The standard -/

/-- The characters of the numbers below 64. -/
def alphabet : String := "ABCDEFGHIJKLMNOPQRSTUVWXYZabcdefghijklmnopqrstuvwxyz0123456789+/"

/-- Bytes as one number, the first byte in the highest place. -/
def number : List UInt8 → Nat
  | [] => 0
  | b :: rest => b.toNat * 256 ^ rest.length + number rest

/-- The last groups of six bits of a number, the highest first. -/
def sextets : Nat → Nat → List Nat
  | 0, _ => []
  | count + 1, n => sextets count (n / 64) ++ [n % 64]

/-- How many groups of six bits hold the bits of so many bytes. -/
def sextetCount (bytes : Nat) : Nat := (8 * bytes + 5) / 6

/-- Bytes as one number, with zeros behind them up to whole groups of six bits. -/
def filled (bytes : List UInt8) : Nat :=
  number bytes * 2 ^ (6 * sextetCount bytes.length - 8 * bytes.length)

/-- The text of bytes: a character for each group of six bits, and equals signs up to a multiple of
four characters. -/
def standard (bytes : List UInt8) : List Char :=
  let count := sextetCount bytes.length
  (sextets count (filled bytes)).map (fun n => alphabet.toList.getD n '=') ++
    List.replicate ((4 - count % 4) % 4) '='

/-! ### Characters -/

theorem getD_alphabet {n : Nat} (hn : n < 64) : alphabet.toList.getD n '=' = digit n := by
  revert n
  decide

theorem value?_digit {n : Nat} (hn : n < 64) : value? (digit n) = some n := by
  revert n
  decide

theorem digit_ne_pad {n : Nat} (hn : n < 64) : digit n ≠ '=' := by
  revert n
  decide

/-- The characters of a range are told by their distance from the first. -/
theorem of_mem_range {first last c : Char} (hRange : first ≤ c ∧ c ≤ last) :
    first.toNat ≤ c.toNat ∧ c.toNat ≤ last.toNat ∧
      Char.ofNat (first.toNat + (c.toNat - first.toNat)) = c := by
  have hFirst : first.toNat ≤ c.toNat := UInt32.le_iff_toNat_le.1 hRange.1
  refine ⟨hFirst, UInt32.le_iff_toNat_le.1 hRange.2, ?_⟩
  rw [Nat.add_sub_cancel' hFirst, Char.ofNat_toNat]

/-- A character that has a number is that of the number. -/
theorem eq_digit_of_value? {c : Char} {n : Nat} (hValue : value? c = some n) :
    n < 64 ∧ c = digit n := by
  -- The four ranges of the alphabet do not meet, so each is told from those before it by numbers.
  have hUpper : 'A'.toNat = 65 ∧ 'Z'.toNat = 90 := ⟨rfl, rfl⟩
  have hLower : 'a'.toNat = 97 ∧ 'z'.toNat = 122 := ⟨rfl, rfl⟩
  have hDecimal : '0'.toNat = 48 ∧ '9'.toNat = 57 := ⟨rfl, rfl⟩
  unfold value? at hValue
  split at hValue
  · next hRange =>
    obtain ⟨hFirst, hLast, hChar⟩ := of_mem_range hRange
    obtain rfl := Option.some.inj hValue
    refine ⟨by omega, ?_⟩
    rw [digit, if_pos (by omega), hChar]
  split at hValue
  · next hRange =>
    obtain ⟨hFirst, hLast, hChar⟩ := of_mem_range hRange
    obtain rfl := Option.some.inj hValue
    refine ⟨by omega, ?_⟩
    rw [digit, if_neg (by omega), if_pos (by omega), Nat.add_sub_cancel, hChar]
  split at hValue
  · next hRange =>
    obtain ⟨hFirst, hLast, hChar⟩ := of_mem_range hRange
    obtain rfl := Option.some.inj hValue
    refine ⟨by omega, ?_⟩
    rw [digit, if_neg (by omega), if_neg (by omega), if_pos (by omega), Nat.add_sub_cancel, hChar]
  split at hValue
  · next hPlus =>
    cases hValue
    exact ⟨by decide, hPlus⟩
  split at hValue
  · next hSlash =>
    cases hValue
    exact ⟨by decide, hSlash⟩
  · cases hValue

/-! ### Writing -/

/-- The groups of a number that is put before another are followed by those of the other. -/
theorem sextets_append (before count high : Nat) {low : Nat} (hLow : low < 64 ^ count) :
    sextets (before + count) (high * 64 ^ count + low) =
      sextets before high ++ sextets count low := by
  induction count generalizing low with
  | zero =>
    obtain rfl : low = 0 := by omega
    rw [pow_zero, Nat.mul_one, Nat.add_zero, Nat.add_zero, sextets, List.append_nil]
  | succ count ih =>
    -- The last group is split off: it belongs to the lower number alone.
    have hDiv : (high * 64 ^ (count + 1) + low) / 64 = high * 64 ^ count + low / 64 := by
      rw [pow_succ, ← Nat.mul_assoc]
      omega
    have hMod : (high * 64 ^ (count + 1) + low) % 64 = low % 64 := by
      rw [pow_succ, ← Nat.mul_assoc]
      omega
    have hNext : low / 64 < 64 ^ count := by
      rw [pow_succ] at hLow
      omega
    rw [← Nat.add_assoc, sextets, hDiv, hMod, ih hNext, sextets, List.append_assoc]

theorem number_lt (bytes : List UInt8) : number bytes < 256 ^ bytes.length := by
  induction bytes with
  | nil => decide
  | cons b rest ih =>
    have hByte : b.toNat + 1 ≤ 256 := b.toNat_lt
    calc b.toNat * 256 ^ rest.length + number rest
        < b.toNat * 256 ^ rest.length + 256 ^ rest.length := Nat.add_lt_add_left ih _
      _ = (b.toNat + 1) * 256 ^ rest.length := (Nat.succ_mul ..).symm
      _ ≤ 256 * 256 ^ rest.length := Nat.mul_le_mul_right _ hByte
      _ = 256 ^ (rest.length + 1) := (Nat.pow_succ').symm

/-- The zeros fill the bits of bytes up to whole groups. -/
theorem pow_length (bytes : List UInt8) :
    256 ^ bytes.length * 2 ^ (6 * sextetCount bytes.length - 8 * bytes.length) =
      64 ^ sextetCount bytes.length := by
  -- The groups hold all the bits, so the difference of their numbers is what the zeros fill.
  have hLe : 8 * bytes.length ≤ 6 * sextetCount bytes.length := by
    unfold sextetCount
    omega
  rw [show 256 = 2 ^ 8 from rfl, show 64 = 2 ^ 6 from rfl, ← pow_mul, ← pow_mul, ← pow_add,
    Nat.add_sub_cancel' hLe]

theorem filled_lt (bytes : List UInt8) : filled bytes < 64 ^ sextetCount bytes.length := by
  rw [← pow_length]
  exact Nat.mul_lt_mul_of_pos_right (number_lt bytes) (Nat.two_pow_pos _)

/-- Three bytes are four whole groups, before those of the rest. -/
theorem filled_group (a b c : UInt8) (rest : List UInt8) :
    filled (a :: b :: c :: rest) =
      ((a.toNat * 256 + b.toNat) * 256 + c.toNat) * 64 ^ sextetCount rest.length +
        filled rest := by
  have hZeros : 6 * sextetCount (rest.length + 1 + 1 + 1) - 8 * (rest.length + 1 + 1 + 1) =
      6 * sextetCount rest.length - 8 * rest.length := by
    unfold sextetCount
    omega
  rw [filled, filled, ← pow_length]
  simp only [number, List.length_cons, hZeros]
  ring

/-- Groups of six bits are written by the alphabet. -/
theorem map_sextets (count n : Nat) :
    (sextets count n).map (fun n => alphabet.toList.getD n '=') = (sextets count n).map digit := by
  induction count generalizing n with
  | zero => rfl
  | succ count ih =>
    have hLast : alphabet.toList.getD (n % 64) '=' = digit (n % 64) :=
      getD_alphabet (Nat.mod_lt _ (by decide))
    rw [sextets, List.map_append, List.map_append, ih, List.map_singleton, List.map_singleton,
      hLast]

theorem standard_group (a b c : UInt8) (rest : List UInt8) :
    let n := (a.toNat * 256 + b.toNat) * 256 + c.toNat
    standard (a :: b :: c :: rest) =
      digit (n / 262144) :: digit (n / 4096 % 64) :: digit (n / 64 % 64) :: digit (n % 64) ::
        standard rest := by
  intro n
  have hCount : sextetCount (a :: b :: c :: rest).length = 4 + sextetCount rest.length := by
    simp only [sextetCount, List.length_cons]
    omega
  -- Four characters more do not change what is missing to a multiple of four.
  have hPad : (4 - (4 + sextetCount rest.length) % 4) % 4 =
      (4 - sextetCount rest.length % 4) % 4 := by
    rw [Nat.add_mod_left]
  have hHigh : n / 262144 < 64 := by
    have hFirst := a.toNat_lt
    have hSecond := b.toNat_lt
    have hThird := c.toNat_lt
    omega
  have hGroups : sextets 4 n = [n / 262144, n / 4096 % 64, n / 64 % 64, n % 64] := by
    simp only [sextets, List.nil_append, List.cons_append, Nat.div_div_eq_div_mul]
    rw [Nat.mod_eq_of_lt hHigh]
  rw [standard, hCount, filled_group, sextets_append 4 _ _ (filled_lt rest), List.map_append,
    map_sextets 4, hGroups, hPad, List.append_assoc]
  rfl

theorem standard_one (a : UInt8) :
    let n := a.toNat * 16
    standard [a] = [digit (n / 64), digit (n % 64), '=', '='] := by
  intro n
  have hFilled : filled [a] = n := by simp [filled, number, sextetCount, n]
  have hHigh : n / 64 < 64 := by
    have hByte := a.toNat_lt
    omega
  have hGroups : sextets 2 n = [n / 64, n % 64] := by
    simp only [sextets, List.nil_append, List.cons_append]
    rw [Nat.mod_eq_of_lt hHigh]
  have hCount : sextetCount [a].length = 2 := by simp [sextetCount]
  rw [standard, hFilled, map_sextets, hCount, hGroups]
  rfl

theorem standard_two (a b : UInt8) :
    let n := (a.toNat * 256 + b.toNat) * 4
    standard [a, b] = [digit (n / 4096), digit (n / 64 % 64), digit (n % 64), '='] := by
  intro n
  have hFilled : filled [a, b] = n := by simp [filled, number, sextetCount, n]
  have hHigh : n / 4096 < 64 := by
    have hFirst := a.toNat_lt
    have hSecond := b.toNat_lt
    omega
  have hGroups : sextets 3 n = [n / 4096, n / 64 % 64, n % 64] := by
    simp only [sextets, List.nil_append, List.cons_append, Nat.div_div_eq_div_mul]
    rw [Nat.mod_eq_of_lt hHigh]
  have hCount : sextetCount [a, b].length = 3 := by simp [sextetCount]
  rw [standard, hFilled, map_sextets, hCount, hGroups]
  rfl

/-- What is written is the standard encoding. -/
theorem encode_eq_standard (bytes : List UInt8) : encode bytes = standard bytes := by
  induction bytes using encode.induct with
  | case1 => rfl
  | case2 a => exact (standard_one a).symm
  | case3 a b => exact (standard_two a b).symm
  | case4 a b c rest ih => rw [encode, ih, standard_group]

/-! ### Reading -/

theorem toNat_ofNat {n : Nat} (hn : n < 256) : (UInt8.ofNat n).toNat = n :=
  UInt8.toNat_ofNat_of_lt' hn

/-- A last group of two characters is read as the byte that it is written for, and as no other. -/
theorem lastOne?_eq_some_iff {w x : Nat} (hw : w < 64) (hx : x < 64) {bytes : List UInt8} :
    lastOne? w x = some bytes ↔
      ∃ a : UInt8, bytes = [a] ∧ w = a.toNat * 16 / 64 ∧ x = a.toNat * 16 % 64 := by
  simp only [lastOne?]
  constructor
  · intro hBytes
    split at hBytes
    · -- The four bits behind the byte must be zeros, as they are written.
      next hZero =>
      have hByte : (UInt8.ofNat ((w * 64 + x) / 16)).toNat = (w * 64 + x) / 16 :=
        toNat_ofNat (by omega)
      refine ⟨_, (Option.some.inj hBytes).symm, ?_, ?_⟩ <;> rw [hByte] <;> omega
    · cases hBytes
  · rintro ⟨a, rfl, hHigh, hLow⟩
    have hNumber : w * 64 + x = a.toNat * 16 := by omega
    rw [hNumber, if_pos (Nat.mul_mod_left ..), Nat.mul_div_cancel _ (by decide), UInt8.ofNat_toNat]

/-- A last group of three characters is read as the bytes that it is written for. -/
theorem lastTwo?_eq_some_iff {w x y : Nat} (hw : w < 64) (hx : x < 64) (hy : y < 64)
    {bytes : List UInt8} :
    lastTwo? w x y = some bytes ↔
      ∃ a b : UInt8, bytes = [a, b] ∧
        w = (a.toNat * 256 + b.toNat) * 4 / 4096 ∧ x = (a.toNat * 256 + b.toNat) * 4 / 64 % 64 ∧
          y = (a.toNat * 256 + b.toNat) * 4 % 64 := by
  simp only [lastTwo?]
  constructor
  · intro hBytes
    split at hBytes
    · next hZero =>
      have hFirst : (UInt8.ofNat (((w * 64 + x) * 64 + y) / 1024)).toNat =
          ((w * 64 + x) * 64 + y) / 1024 := toNat_ofNat (by omega)
      have hSecond : (UInt8.ofNat (((w * 64 + x) * 64 + y) / 4 % 256)).toNat =
          ((w * 64 + x) * 64 + y) / 4 % 256 := toNat_ofNat (by omega)
      refine ⟨_, _, (Option.some.inj hBytes).symm, ?_, ?_, ?_⟩ <;> rw [hFirst, hSecond] <;> omega
    · cases hBytes
  · rintro ⟨a, b, rfl, hHigh, hMiddle, hLow⟩
    have hByte := b.toNat_lt
    have hNumber : (w * 64 + x) * 64 + y = (a.toNat * 256 + b.toNat) * 4 := by omega
    have hFirst : (a.toNat * 256 + b.toNat) * 4 / 1024 = a.toNat := by omega
    have hSecond : (a.toNat * 256 + b.toNat) * 4 / 4 % 256 = b.toNat := by omega
    rw [hNumber, if_pos (Nat.mul_mod_left ..), hFirst, hSecond, UInt8.ofNat_toNat,
      UInt8.ofNat_toNat]

/-- A full group is read as the bytes that it is written for. -/
theorem three_eq_iff {w x y z : Nat} (hw : w < 64) (hx : x < 64) (hy : y < 64) (hz : z < 64)
    {a b c : UInt8} :
    three w x y z = [a, b, c] ↔
      w = ((a.toNat * 256 + b.toNat) * 256 + c.toNat) / 262144 ∧
        x = ((a.toNat * 256 + b.toNat) * 256 + c.toNat) / 4096 % 64 ∧
        y = ((a.toNat * 256 + b.toNat) * 256 + c.toNat) / 64 % 64 ∧
        z = ((a.toNat * 256 + b.toNat) * 256 + c.toNat) % 64 := by
  have hFirst := a.toNat_lt
  have hSecond := b.toNat_lt
  have hThird := c.toNat_lt
  simp only [three, List.cons.injEq, and_true, ← UInt8.toNat_inj]
  rw [toNat_ofNat (by omega), toNat_ofNat (by omega), toNat_ofNat (by omega)]
  omega

/-- What is written is read back. -/
theorem decode?_encode (bytes : List UInt8) : decode? (encode bytes) = some bytes := by
  induction bytes using encode.induct with
  | case1 => rfl
  | case2 a =>
    have hByte := a.toNat_lt
    have hHigh : a.toNat * 16 / 64 < 64 := by omega
    have hLow : a.toNat * 16 % 64 < 64 := Nat.mod_lt _ (by decide)
    rw [encode, decode?.eq_2, value?_digit hHigh, value?_digit hLow]
    exact (lastOne?_eq_some_iff hHigh hLow).2 ⟨a, rfl, rfl, rfl⟩
  | case3 a b =>
    have hFirst := a.toNat_lt
    have hSecond := b.toNat_lt
    have hHigh : (a.toNat * 256 + b.toNat) * 4 / 4096 < 64 := by omega
    have hMiddle : (a.toNat * 256 + b.toNat) * 4 / 64 % 64 < 64 := Nat.mod_lt _ (by decide)
    have hLow : (a.toNat * 256 + b.toNat) * 4 % 64 < 64 := Nat.mod_lt _ (by decide)
    rw [encode, decode?.eq_3 _ _ _ (digit_ne_pad hLow), value?_digit hHigh, value?_digit hMiddle,
      value?_digit hLow]
    exact (lastTwo?_eq_some_iff hHigh hMiddle hLow).2 ⟨a, b, rfl, rfl, rfl, rfl⟩
  | case4 a b c rest ih =>
    have hFirst := a.toNat_lt
    have hSecond := b.toNat_lt
    have hThird := c.toNat_lt
    let n := (a.toNat * 256 + b.toNat) * 256 + c.toNat
    have hHigh : n / 262144 < 64 := by omega
    have hSecondValue : n / 4096 % 64 < 64 := Nat.mod_lt _ (by decide)
    have hThirdValue : n / 64 % 64 < 64 := Nat.mod_lt _ (by decide)
    have hLow : n % 64 < 64 := Nat.mod_lt _ (by decide)
    -- An equals sign in the last place would make the group a shorter one.
    have hPlain : digit (n % 64) ≠ '=' := digit_ne_pad hLow
    have hGroup : three (n / 262144) (n / 4096 % 64) (n / 64 % 64) (n % 64) = [a, b, c] :=
      (three_eq_iff hHigh hSecondValue hThirdValue hLow).2 ⟨rfl, rfl, rfl, rfl⟩
    rw [encode, decode?.eq_4 _ _ _ _ _ (fun _ hPad _ => hPlain hPad) (fun hPad _ => hPlain hPad),
      value?_digit hHigh, value?_digit hSecondValue, value?_digit hThirdValue, value?_digit hLow,
      ih]
    exact congrArg (fun group => some (group ++ rest)) hGroup

/-- Nothing else is read. -/
theorem eq_encode_of_decode? {text : List Char} {bytes : List UInt8}
    (hDecode : decode? text = some bytes) : text = encode bytes := by
  induction text using decode?.induct generalizing bytes with
  | case1 =>
    cases hDecode
    rfl
  | case2 w x =>
    rw [decode?.eq_2] at hDecode
    simp only [Option.bind_eq_bind, Option.bind_eq_some_iff] at hDecode
    obtain ⟨high, hHigh, low, hLow, hBytes⟩ := hDecode
    obtain ⟨hw, rfl⟩ := eq_digit_of_value? hHigh
    obtain ⟨hx, rfl⟩ := eq_digit_of_value? hLow
    obtain ⟨a, rfl, rfl, rfl⟩ := (lastOne?_eq_some_iff hw hx).1 hBytes
    rfl
  | case3 w x y hPlain =>
    rw [decode?.eq_3 _ _ _ hPlain] at hDecode
    simp only [Option.bind_eq_bind, Option.bind_eq_some_iff] at hDecode
    obtain ⟨high, hHigh, middle, hMiddle, low, hLow, hBytes⟩ := hDecode
    obtain ⟨hw, rfl⟩ := eq_digit_of_value? hHigh
    obtain ⟨hx, rfl⟩ := eq_digit_of_value? hMiddle
    obtain ⟨hy, rfl⟩ := eq_digit_of_value? hLow
    obtain ⟨a, b, rfl, rfl, rfl, rfl⟩ := (lastTwo?_eq_some_iff hw hx hy).1 hBytes
    rfl
  | case4 w x y z rest hTwo hOne ih =>
    -- A group is read on its own, and the induction is on the text behind it.
    rw [decode?.eq_4 _ _ _ _ _ hTwo hOne] at hDecode
    simp only [Option.bind_eq_bind, Option.bind_eq_some_iff] at hDecode
    obtain ⟨first, hFirst, second, hSecond, third, hThird, fourth, hFourth, later, hRest, hBytes⟩ :=
      hDecode
    obtain ⟨hw, rfl⟩ := eq_digit_of_value? hFirst
    obtain ⟨hx, rfl⟩ := eq_digit_of_value? hSecond
    obtain ⟨hy, rfl⟩ := eq_digit_of_value? hThird
    obtain ⟨hz, rfl⟩ := eq_digit_of_value? hFourth
    obtain ⟨h1, h2, h3, h4⟩ := (three_eq_iff hw hx hy hz).1 rfl
    obtain rfl := Option.some.inj hBytes
    rw [ih hRest]
    change _ = encode (_ :: _ :: _ :: later)
    rw [encode, ← h1, ← h2, ← h3, ← h4]
  | case5 text hEmpty hTwo hOne hFull =>
    rw [decode?.eq_5 _ hEmpty hTwo hOne hFull] at hDecode
    cases hDecode

/-- Exactly the standard encoding of bytes is read, as the bytes. -/
theorem decode?_eq_some_iff {text : List Char} {bytes : List UInt8} :
    decode? text = some bytes ↔ text = standard bytes := by
  rw [← encode_eq_standard]
  exact ⟨eq_encode_of_decode?, fun hText => hText ▸ decode?_encode bytes⟩

/-! ### Content -/

theorem toList_loop (content : ByteArray) (i : Nat) (before : List UInt8) :
    ByteArray.toList.loop content i before = before.reverse ++ content.data.toList.drop i := by
  induction i, before using ByteArray.toList.loop.induct content with
  | case1 i before hMore ih =>
    have hIndex : i < content.data.toList.length := by simpa using hMore
    have hByte : content.get! i = content.data.toList[i] := getElem!_pos content.data i hMore
    rw [ByteArray.toList.loop, if_pos hMore, ih, List.drop_eq_getElem_cons hIndex,
      List.reverse_cons, List.append_assoc, hByte]
    rfl
  | case2 i before hEnd =>
    have hDone : content.data.toList.length ≤ i := by simpa using hEnd
    rw [ByteArray.toList.loop, if_neg hEnd, List.drop_eq_nil_of_le hDone, List.append_nil]

theorem toList_eq (content : ByteArray) : content.toList = content.data.toList :=
  toList_loop content 0 []

/-- The standard encoding of some content. -/
def standardText (content : ByteArray) : String := String.ofList (standard content.data.toList)

theorem ofBytes_eq (content : ByteArray) : ofBytes content = standardText content := by
  rw [ofBytes, encode_eq_standard, toList_eq, standardText]

/-- Exactly the standard encoding of some content is read, as the content. -/
theorem toBytes?_eq_some_iff {text : String} {content : ByteArray} :
    toBytes? text = some content ↔ text = standardText content := by
  rw [toBytes?, Option.map_eq_some_iff, standardText]
  constructor
  · rintro ⟨bytes, hDecode, rfl⟩
    rw [← decode?_eq_some_iff.1 hDecode, String.ofList_toList]
  · rintro rfl
    refine ⟨content.data.toList, decode?_eq_some_iff.2 String.toList_ofList, ?_⟩
    rfl

end SparkFleet.Http.Base64

namespace SparkFleet.Http

/-- A text is read as some content exactly if it is its standard encoding, and every other text is
refused as one that cannot be decoded. -/
theorem readContent_eq (text : String) :
    (∀ content, readContent text = .ok content ↔ text = Base64.standardText content) ∧
      ∀ e, readContent text = .error e →
        ∃ reason, e = .decode ("invalid base64 content: " ++ reason) := by
  unfold readContent
  cases hRead : Base64.toBytes? text with
  | some content =>
    refine ⟨fun content' => ?_, nofun⟩
    rw [← Base64.toBytes?_eq_some_iff, hRead, Except.ok.injEq, Option.some.injEq]
  | none =>
    refine ⟨fun content' => ?_, fun e hError => ⟨"not the encoding of any bytes", ?_⟩⟩
    · rw [← Base64.toBytes?_eq_some_iff, hRead]
      exact iff_of_false nofun nofun
    · rw [← Except.error.inj hError]
      decide

end SparkFleet.Http
