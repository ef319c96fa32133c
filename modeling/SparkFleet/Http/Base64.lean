/-!
# Base64

Bytes are written in the standard alphabet, three bytes in four characters; an equals sign takes
the place of each character that the last group lacks.  Only what writing produces is read: groups
of four, with padding at the end and nowhere else, and without stray bits before it.
-/

namespace SparkFleet.Http.Base64

/-- The character of a number below 64. -/
def digit (n : Nat) : Char :=
  if n < 26 then Char.ofNat ('A'.toNat + n)
  else if n < 52 then Char.ofNat ('a'.toNat + (n - 26))
  else if n < 62 then Char.ofNat ('0'.toNat + (n - 52))
  else if n = 62 then '+'
  else '/'

/-- The number of a character. -/
def value? (c : Char) : Option Nat :=
  if 'A' ≤ c ∧ c ≤ 'Z' then some (c.toNat - 'A'.toNat)
  else if 'a' ≤ c ∧ c ≤ 'z' then some (c.toNat - 'a'.toNat + 26)
  else if '0' ≤ c ∧ c ≤ '9' then some (c.toNat - '0'.toNat + 52)
  else if c = '+' then some 62
  else if c = '/' then some 63
  else none

/-- Write bytes. -/
def encode : List UInt8 → List Char
  | [] => []
  | [a] =>
    let n := a.toNat * 16
    [digit (n / 64), digit (n % 64), '=', '=']
  | [a, b] =>
    let n := (a.toNat * 256 + b.toNat) * 4
    [digit (n / 4096), digit (n / 64 % 64), digit (n % 64), '=']
  | a :: b :: c :: rest =>
    let n := (a.toNat * 256 + b.toNat) * 256 + c.toNat
    digit (n / 262144) :: digit (n / 4096 % 64) :: digit (n / 64 % 64) :: digit (n % 64) ::
      encode rest

/-- The byte of a last group of two characters. -/
def lastOne? (w x : Nat) : Option (List UInt8) :=
  -- The last four bits belong to no byte.
  let n := w * 64 + x
  if n % 16 = 0 then some [.ofNat (n / 16)] else none

/-- The bytes of a last group of three characters. -/
def lastTwo? (w x y : Nat) : Option (List UInt8) :=
  -- The last two bits belong to no byte.
  let n := (w * 64 + x) * 64 + y
  if n % 4 = 0 then some [.ofNat (n / 1024), .ofNat (n / 4 % 256)] else none

/-- The bytes of a full group. -/
def three (w x y z : Nat) : List UInt8 :=
  let n := ((w * 64 + x) * 64 + y) * 64 + z
  [.ofNat (n / 65536), .ofNat (n / 256 % 256), .ofNat (n % 256)]

/-- Read bytes. -/
def decode? : List Char → Option (List UInt8)
  | [] => some []
  | [w, x, '=', '='] => do lastOne? (← value? w) (← value? x)
  | [w, x, y, '='] => do lastTwo? (← value? w) (← value? x) (← value? y)
  | w :: x :: y :: z :: rest => do
    let group := three (← value? w) (← value? x) (← value? y) (← value? z)
    return group ++ (← decode? rest)
  | _ => none

/-- Some content as text. -/
def ofBytes (content : ByteArray) : String := String.ofList (encode content.toList)

/-- The content that a text stands for. -/
def toBytes? (text : String) : Option ByteArray :=
  (decode? text.toList).map fun bytes => ⟨bytes.toArray⟩

end SparkFleet.Http.Base64
