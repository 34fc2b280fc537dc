import FormRules.Text.Point
import FormRules.Text.Printable

/-!
# Quoted text

How a text or a row of bytes is shown inside a message: in single quotes, or in double quotes if
it holds a single quote and no double one, with escapes for the backslash, the chosen quote, line
and tab characters and all that has no visible form.
-/

namespace FormRules.Text

/-- The lower-case hexadecimal digits of a number, padded with zeros to a width. -/
def hex (width n : Nat) : List Char :=
  let digits := Nat.toDigits 16 n
  List.replicate (width - digits.length) '0' ++ digits

/-- The escape of a code point by its number: two, four or eight hexadecimal digits. -/
def codeEscape (n : Nat) : List Char :=
  if n < 0x100 then '\\' :: 'x' :: hex 2 n
  else if n < 0x10000 then '\\' :: 'u' :: hex 4 n
  else '\\' :: 'U' :: hex 8 n

/-- The quote that surrounds a text: double only if that saves escapes. -/
def quoteFor (cs : List Char) : Char :=
  if cs.contains '\'' && !cs.contains '"' then '"' else '\''

/-- One character inside a text in the given quotes. -/
def escape (quote : Char) (c : Char) : List Char :=
  if c = quote ∨ c = '\\' then ['\\', c]
  else if c = '\n' then ['\\', 'n']
  else if c = '\r' then ['\\', 'r']
  else if c = '\t' then ['\\', 't']
  else if isPrintable c then [c]
  else codeEscape c.toNat

/-- One point inside a text in the given quotes. -/
def escapePoint (quote : Char) : Point → List Char
  | .char c => escape quote c
  | .half place => codeEscape (Point.half place).code

/-- A text as shown inside a message. -/
def quoted (s : String) : String :=
  let quote := quoteFor s.toList
  String.ofList (quote :: (points s.toList).flatMap (escapePoint quote) ++ [quote])

/-- One byte inside a row of bytes: as the ASCII character it stands for, or by its code. -/
def escapeByte (quote : Char) (b : UInt8) : List Char :=
  let c := Char.ofNat b.toNat
  if c = quote ∨ c = '\\' then ['\\', c]
  else if c = '\n' then ['\\', 'n']
  else if c = '\r' then ['\\', 'r']
  else if c = '\t' then ['\\', 't']
  else if 0x20 ≤ b ∧ b < 0x7f then [c]
  else codeEscape b.toNat

/-- A row of bytes as shown inside a message, marked by a leading `b`. -/
def quotedBytes (bytes : List UInt8) : String :=
  let quote := quoteFor (bytes.map fun b => Char.ofNat b.toNat)
  String.ofList ('b' :: quote :: bytes.flatMap (escapeByte quote) ++ [quote])

end FormRules.Text
