/-!
# White space

White space is the Unicode property `White_Space`, which has twenty-five characters.  Trimming
removes it from both ends of a text; a text is blank if nothing else is in it.
-/

namespace SparkFleet.Text

/-- The characters with the property `White_Space`. -/
def isWhite (c : Char) : Bool :=
  let n := c.toNat
  (0x9 ≤ n && n ≤ 0xD) || n == 0x20 || n == 0x85 || n == 0xA0 || n == 0x1680 ||
    (0x2000 ≤ n && n ≤ 0x200A) || n == 0x2028 || n == 0x2029 || n == 0x202F || n == 0x205F ||
    n == 0x3000

/-- Drop the characters at the end that satisfy a test. -/
def dropEnd (test : Char → Bool) (s : List Char) : List Char :=
  (s.reverse.dropWhile test).reverse

/-- Drop white space from both ends. -/
def trimChars (s : List Char) : List Char :=
  dropEnd isWhite (s.dropWhile isWhite)

/-- A text without the white space at its ends. -/
def trim (s : String) : String := String.ofList (trimChars s.toList)

/-- Whether a text is empty or holds white space only. -/
def isBlank (s : String) : Bool := s.toList.all isWhite

end SparkFleet.Text
