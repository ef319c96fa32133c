import SparkFleet.Text.Unprintable

/-!
# Quoted text in messages

Inside a message a text stands between double quotes.  A double quote and a backslash are preceded
by a backslash; tab, line feed, carriage return and the null character have a letter of their own;
any other unprintable character is written as its number in hexadecimal between braces.
-/

namespace SparkFleet.Text

/-- The digits of a number in lower-case hexadecimal, without leading zeros. -/
def hexNumber (n : Nat) : String := String.ofList (Nat.toDigits 16 n)

/-- How a character is written between double quotes. -/
def quotedChar (c : Char) : String :=
  match c with
  | '"' => "\\\""
  | '\\' => "\\\\"
  | '\n' => "\\n"
  | '\r' => "\\r"
  | '\t' => "\\t"
  | '\x00' => "\\0"
  | c => if isUnprintable c then "\\u\x7b" ++ hexNumber c.toNat ++ "\x7d" else String.singleton c

/-- A text between double quotes. -/
def quoted (s : String) : String :=
  "\"" ++ String.join (s.toList.map quotedChar) ++ "\""

/-- A text that may be missing: `None`, or the quoted text in `Some(…)`. -/
def quotedOption : Option String → String
  | none => "None"
  | some s => "Some(" ++ quoted s ++ ")"

end SparkFleet.Text
