import SparkFleet.Json.Token

/-!
# From bytes to tokens

The scanner is a machine that takes one byte at a time, so scanning is a fold over the bytes and a
prefix of a text leaves the machine in a definite state.  Blanks between tokens are the space, tab,
line feed and carriage return.  A string may hold any byte from `0x20` on except the quote and the
backslash; whether its bytes and escapes form a text is decided at its end and is no question of
syntax.
-/

namespace SparkFleet.Json

/-! ### Numbers -/

/-- Which part of a number literal was read last. -/
inductive NumberPart where
  | sign
  /-- A zero before the point; no digit may follow. -/
  | zero
  | whole
  | point
  | fraction
  | mark
  | markSign
  | exponent
  deriving DecidableEq

/-- A number literal that is being read. -/
structure PartialNumber where
  part : NumberPart
  negative : Bool
  /-- The value of the digits before the point. -/
  whole : Nat
  /-- The digits after the point, last first. -/
  fraction : List Digit
  exponentNegative : Bool
  exponent : Nat

/-- The digit that a byte stands for. -/
def digit? (b : UInt8) : Option Digit :=
  if h : 48 ≤ b.toNat ∧ b.toNat < 58 then some ⟨b.toNat - 48, by omega⟩ else none

namespace PartialNumber

/-- The literal after its first byte, a minus sign or a digit. -/
def start? (b : UInt8) : Option PartialNumber :=
  if b == 45 then
    some ⟨.sign, true, 0, [], false, 0⟩
  else
    (digit? b).map fun d => ⟨if d = 0 then .zero else .whole, false, d, [], false, 0⟩

/-- The literal continued by a digit. -/
def pushDigit (p : PartialNumber) (d : Digit) : Option PartialNumber :=
  match p.part with
  | .sign => some { p with part := if d.val = 0 then .zero else .whole, whole := d.val }
  | .zero => none
  | .whole => some { p with whole := 10 * p.whole + d.val }
  | .point | .fraction => some { p with part := .fraction, fraction := d :: p.fraction }
  | .mark | .markSign => some { p with part := .exponent, exponent := d.val }
  | .exponent => some { p with exponent := 10 * p.exponent + d.val }

/-- The literal continued by a byte that is not a digit. -/
def pushMark (p : PartialNumber) (b : UInt8) : Option PartialNumber :=
  match p.part with
  | .zero | .whole =>
    if b == 46 then some { p with part := .point }
    else if b == 101 || b == 69 then some { p with part := .mark }
    else none
  | .fraction => if b == 101 || b == 69 then some { p with part := .mark } else none
  | .mark =>
    if b == 43 then some { p with part := .markSign }
    else if b == 45 then some { p with part := .markSign, exponentNegative := true }
    else none
  | _ => none

/-- The literal as far as it has been read, if it may end there. -/
def finish? (p : PartialNumber) : Option Number :=
  match p.part with
  | .zero | .whole | .fraction => some ⟨p.negative, p.whole, p.fraction.reverse, none⟩
  | .exponent =>
    let e : Int := if p.exponentNegative then -(Int.ofNat p.exponent) else Int.ofNat p.exponent
    some ⟨p.negative, p.whole, p.fraction.reverse, some e⟩
  | _ => none

end PartialNumber

/-! ### Strings -/

/-- Which part of a string literal was read last. -/
inductive StringPart where
  /-- A character, or the opening quote. -/
  | plain
  | escape
  /-- Some of the four hexadecimal digits of an escape: how many are missing, and the value of
  those read. -/
  | hex (missing : Nat) (value : Nat)

/-- A string literal that is being read. -/
structure PartialString where
  part : StringPart
  /-- The bytes of the text, last first. -/
  bytes : List UInt8
  /-- The first half of a surrogate pair whose second half must follow. -/
  lead : Option Nat
  /-- Whether every surrogate so far has its partner. -/
  paired : Bool

/-- The bytes of a code point in UTF-8, last first. -/
def codePointBytes (n : Nat) : List UInt8 :=
  (String.singleton (Char.ofNat n)).toUTF8.data.toList.reverse

/-- The value of a hexadecimal digit of either case. -/
def hexValue (b : UInt8) : Option Nat :=
  let n := b.toNat
  if 48 ≤ n ∧ n < 58 then some (n - 48)
  else if 97 ≤ n ∧ n < 103 then some (n - 87)
  else if 65 ≤ n ∧ n < 71 then some (n - 55)
  else none

/-- The byte that a one-letter escape stands for. -/
def escapeByte (b : UInt8) : Option UInt8 :=
  if b == 34 || b == 92 || b == 47 then some b
  else if b == 98 then some 8
  else if b == 102 then some 12
  else if b == 110 then some 10
  else if b == 114 then some 13
  else if b == 116 then some 9
  else none

namespace PartialString

/-- A string after its opening quote. -/
def start : PartialString := ⟨.plain, [], none, true⟩

/-- The string without a first half that waits for its second: it has stayed alone. -/
def settle (s : PartialString) : PartialString :=
  { s with lead := none, paired := s.paired && s.lead.isNone }

/-- The string continued by one byte of its text. -/
def pushByte (s : PartialString) (b : UInt8) : PartialString :=
  { s.settle with part := .plain, bytes := b :: s.bytes }

/-- The string continued by the four digits of an escape. -/
def pushUnit (s : PartialString) (unit : Nat) : PartialString :=
  let isLead := 0xD800 ≤ unit && unit < 0xDC00
  let isTrail := 0xDC00 ≤ unit && unit < 0xE000
  match s.lead with
  | some lead =>
    if isTrail then
      let point := 0x10000 + (lead - 0xD800) * 0x400 + (unit - 0xDC00)
      { s with part := .plain, lead := none, bytes := codePointBytes point ++ s.bytes }
    else
      { s.settle with part := .plain }
  | none =>
    if isLead then { s with part := .plain, lead := some unit }
    else if isTrail then { s with part := .plain, paired := false }
    else { s with part := .plain, bytes := codePointBytes unit ++ s.bytes }

/-- The string continued by a byte other than its closing quote. -/
def push (s : PartialString) (b : UInt8) : Option PartialString :=
  match s.part with
  | .plain =>
    if b == 92 then some { s with part := .escape }
    else if b.toNat < 0x20 then none
    else some (s.pushByte b)
  | .escape =>
    if b == 117 then some { s with part := .hex 4 0 }
    else (escapeByte b).map s.pushByte
  | .hex missing value => do
    let value := 16 * value + (← hexValue b)
    if missing ≤ 1 then some (s.pushUnit value)
    else some { s with part := .hex (missing - 1) value }

/-- The token of the string, once its closing quote is read. -/
def token (s : PartialString) : Token :=
  let s := s.settle
  match s.paired, String.fromUTF8? ⟨s.bytes.reverse.toArray⟩ with
  | true, some text => .str text
  | _, _ => .unreadable

/-- Whether a quote would end the string. -/
def mayEnd (s : PartialString) : Bool :=
  match s.part with
  | .plain => true
  | _ => false

end PartialString

/-! ### The scanner -/

/-- What is being read. -/
inductive Scanning where
  | between
  /-- A literal: its remaining bytes and its token. -/
  | word (rest : List UInt8) (token : Token)
  | number (p : PartialNumber)
  | string (s : PartialString)

/-- The scanner between two bytes. -/
structure Scanner where
  /-- The finished tokens, last first. -/
  tokens : List Token
  scanning : Scanning

namespace Scanner

/-- The scanner before the first byte. -/
def start : Scanner := ⟨[], .between⟩

/-- The token of a mark. -/
def mark? (b : UInt8) : Option Token :=
  if b == 123 then some .openBrace
  else if b == 125 then some .closeBrace
  else if b == 91 then some .openBracket
  else if b == 93 then some .closeBracket
  else if b == 58 then some .colon
  else if b == 44 then some .comma
  else none

/-- A literal after its first letter. -/
def word? (b : UInt8) : Option Scanning :=
  if b == 110 then some (.word "ull".toUTF8.data.toList .null)
  else if b == 116 then some (.word "rue".toUTF8.data.toList (.bool true))
  else if b == 102 then some (.word "alse".toUTF8.data.toList (.bool false))
  else none

/-- Whether a byte is blank. -/
def isBlank (b : UInt8) : Bool := b == 32 || b == 9 || b == 10 || b == 13

/-- Take a byte that begins a token or is blank. -/
def begin? (tokens : List Token) (b : UInt8) : Option Scanner :=
  if isBlank b then some ⟨tokens, .between⟩
  else if b == 34 then some ⟨tokens, .string .start⟩
  else
    match mark? b with
    | some t => some ⟨t :: tokens, .between⟩
    | none =>
      match PartialNumber.start? b with
      | some p => some ⟨tokens, .number p⟩
      | none => (word? b).map fun w => ⟨tokens, w⟩

/-- Take a byte after part of a number: it continues the number or begins what follows. -/
def afterNumber (tokens : List Token) (p : PartialNumber) (b : UInt8) : Option Scanner :=
  match digit? b with
  | some d => (p.pushDigit d).map fun p => ⟨tokens, .number p⟩
  | none =>
    match p.pushMark b with
    | some p => some ⟨tokens, .number p⟩
    | none => do begin? (.num (← p.finish?) :: tokens) b

/-- Take one byte. -/
def step (s : Scanner) (b : UInt8) : Option Scanner :=
  match s.scanning with
  | .between => begin? s.tokens b
  | .word [] _ => none
  | .word [c] t => if b == c then some ⟨t :: s.tokens, .between⟩ else none
  | .word (c :: rest) t => if b == c then some { s with scanning := .word rest t } else none
  | .number p => afterNumber s.tokens p b
  | .string partialText =>
    if b == 34 && partialText.mayEnd then
      some ⟨partialText.token :: s.tokens, .between⟩
    else
      (partialText.push b).map fun partialText => { s with scanning := .string partialText }

/-- The tokens, if the text may end here. -/
def finish? (s : Scanner) : Option (List Token) :=
  match s.scanning with
  | .between => some s.tokens.reverse
  | .number p => do return ((.num (← p.finish?)) :: s.tokens).reverse
  | _ => none

end Scanner

/-- The tokens of a text. -/
def scan? (bytes : List UInt8) : Option (List Token) := do
  (← bytes.foldlM Scanner.step .start).finish?

end SparkFleet.Json
