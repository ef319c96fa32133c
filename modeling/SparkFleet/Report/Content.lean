import SparkFleet.Json.Basic

/-!
# Reports of values and content

What reports are made of: texts, numbers and values that may be missing.  Content is shown in
hexadecimal if it is short, and otherwise by its length and its FNV-1a hash.
-/

namespace SparkFleet.Report

/-- The members of a report. -/
abbrev Members := List (String × Json)

/-- A text. -/
def text (s : String) : Json := .str s

/-- A natural number. -/
def nat (n : Nat) : Json := .int (Int.ofNat n)

/-- A value that may be missing. -/
def optional {α : Type} (report : α → Json) : Option α → Json
  | some a => report a
  | none => .null

/-- A text that may be missing. -/
def optionalText : Option String → Json := optional text

/-- A number that may be missing. -/
def optionalInt : Option Int64 → Json := optional fun n => .int n.toInt

/-- A list of texts. -/
def texts (l : List String) : Json := .arr (l.map text)

/-! ### Content -/

/-- A number in hexadecimal with so many digits at least. -/
def hex (digits n : Nat) : String :=
  let number := Nat.toDigits 16 n
  String.ofList (List.replicate (digits - number.length) '0' ++ number)

/-- One step of the FNV-1a hash. -/
def hashStep (hash : UInt64) (b : UInt8) : UInt64 := (hash ^^^ b.toUInt64) * 0x100000001b3

/-- The FNV-1a hash of 64 bits. -/
def hash (content : ByteArray) : UInt64 := content.foldl hashStep 0xcbf29ce484222325

/-- The most bytes that are shown in full. -/
def shownInFull : Nat := 1024

/-- Content: in full if it is short, and otherwise by length and hash. -/
def content (c : ByteArray) : Json :=
  if c.size ≤ shownInFull then
    .record [("hex", text (String.join (c.toList.map fun b => hex 2 b.toNat)))]
  else
    .record [("len", nat c.size), ("fnv1a64", text (hex 16 (hash c).toNat))]

/-- A double by its bits, which no decimal text could lose. -/
def double (f : Float) : Json := .record [("f64", text (hex 16 f.toBits.toNat))]

end SparkFleet.Report
