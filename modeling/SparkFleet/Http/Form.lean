/-!
# Form encoding

The parameters of a request are written after its path in the form
`application/x-www-form-urlencoded`.  Letters, digits and the characters `*-._` stand for
themselves, a space is written as a plus sign, and every other byte of the UTF-8 form as its number
after a percent sign.
-/

namespace SparkFleet.Http.Form

/-- A digit in upper-case hexadecimal. -/
def hexDigit (n : Nat) : Char := (Nat.digitChar n).toUpper

/-- A byte as its number after a percent sign. -/
def percent (b : UInt8) : List Char := ['%', hexDigit (b.toNat / 16), hexDigit (b.toNat % 16)]

/-- Whether a byte stands for itself. -/
def isPlain (b : UInt8) : Bool :=
  let c := Char.ofNat b.toNat
  b < 128 && (c.isAlphanum || c == '*' || c == '-' || c == '.' || c == '_')

/-- How a byte is written. -/
def writeByte (b : UInt8) : List Char :=
  if isPlain b then [Char.ofNat b.toNat] else if b = 32 then ['+'] else percent b

/-- How a text is written. -/
def writeText (s : String) : List Char := s.toUTF8.toList.flatMap writeByte

/-- How a parameter is written. -/
def writePair (p : String × String) : List Char := writeText p.1 ++ '=' :: writeText p.2

/-- How parameters are written, in their order. -/
def write (parameters : List (String × String)) : List Char :=
  ['&'].intercalate (parameters.map writePair)

end SparkFleet.Http.Form
