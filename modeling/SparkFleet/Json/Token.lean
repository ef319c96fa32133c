import SparkFleet.Json.Number

/-!
# JSON tokens and their text

The written form has no blanks: a value's tokens follow one another directly.  In a string the
quote, the backslash and the control characters are escaped and every other character stands for
itself.
-/

namespace SparkFleet.Json

/-- A token of JSON text. -/
inductive Token where
  /-- The mark `{` or `}`, `[` or `]`, `:` or `,`. -/
  | openBrace | closeBrace | openBracket | closeBracket | colon | comma
  | null
  | bool (b : Bool)
  | num (n : Number)
  | str (s : String)
  | unreadable
  deriving DecidableEq

namespace Token

/-- The lower-case hexadecimal digit of a number below sixteen. -/
def hexDigit (n : Nat) : Char := Nat.digitChar n

/-- How a character is written inside a string. -/
def stringChar (c : Char) : String :=
  match c with
  | '"' => "\\\""
  | '\\' => "\\\\"
  | '\x08' => "\\b"
  | '\x0c' => "\\f"
  | '\n' => "\\n"
  | '\r' => "\\r"
  | '\t' => "\\t"
  | c =>
    if c.toNat < 0x20 then
      "\\u00" ++ String.ofList [hexDigit (c.toNat / 16), hexDigit (c.toNat % 16)]
    else
      String.singleton c

/-- A string literal. -/
def stringText (s : String) : String :=
  "\"" ++ String.join (s.toList.map stringChar) ++ "\""

/-- A number literal. -/
def numberText (n : Number) : String :=
  let sign := if n.negative then "-" else ""
  let fraction :=
    if n.fraction.isEmpty then ""
    else "." ++ String.ofList (n.fraction.map fun d => Nat.digitChar d.val)
  let exponent :=
    match n.exponent with
    | none => ""
    | some e => "e" ++ toString e
  sign ++ toString n.whole ++ fraction ++ exponent

/-- The text of a token.  An unreadable string is written as a lone surrogate. -/
def text : Token → String
  | .openBrace => "\x7b"
  | .closeBrace => "\x7d"
  | .openBracket => "["
  | .closeBracket => "]"
  | .colon => ":"
  | .comma => ","
  | .null => "null"
  | .bool true => "true"
  | .bool false => "false"
  | .num n => numberText n
  | .str s => stringText s
  | .unreadable => "\"\\ud800\""

end Token

end SparkFleet.Json
