import FormRules.Binary64
import FormRules.Text.Lowercase
import FormRules.Yaml.Chars
import FormRules.Yaml.Misfit

/-!
# Numbers in documents

Integers in the bases two, eight, ten and sixteen, decimals, and both counted in sixtieths.
Underscores count for nothing. A text may be tagged as a number without looking like one, so
digits of all scripts, blanks around a number and a sign after the sign are read too. Digits zero
to nine stand ten in a row in each script; they and the blanks are those of version 14.0 of the
Unicode character database.
-/

namespace FormRules.Text

/-- The digits zero outside ASCII. -/
def zeros : List Nat := [
  0x660, 0x6f0, 0x7c0, 0x966, 0x9e6, 0xa66, 0xae6, 0xb66, 0xbe6, 0xc66, 0xce6, 0xd66, 0xde6, 0xe50,
  0xed0, 0xf20, 0x1040, 0x1090, 0x17e0, 0x1810, 0x1946, 0x19d0, 0x1a80, 0x1a90, 0x1b50, 0x1bb0,
  0x1c40, 0x1c50, 0xa620, 0xa8d0, 0xa900, 0xa9d0, 0xa9f0, 0xaa50, 0xabf0, 0xff10, 0x104a0, 0x10d30,
  0x11066, 0x110f0, 0x11136, 0x111d0, 0x112f0, 0x11450, 0x114d0, 0x11650, 0x116c0, 0x11730, 0x118e0,
  0x11950, 0x11c50, 0x11d50, 0x11da0, 0x16a60, 0x16ac0, 0x16b50, 0x1d7ce, 0x1d7d8, 0x1d7e2, 0x1d7ec,
  0x1d7f6, 0x1e140, 0x1e2f0, 0x1e950, 0x1fbf0]

/-- The value of a decimal digit outside ASCII. -/
def digitValue? (c : Char) : Option Nat :=
  (zeros.find? fun z => z ≤ c.toNat && c.toNat < z + 10).map (c.toNat - ·)

/-- The blanks outside ASCII. -/
def isWideBlank (c : Char) : Bool :=
  [0x85, 0xa0, 0x1680, 0x2028, 0x2029, 0x202f, 0x205f, 0x3000].contains c.toNat
    || (0x2000 ≤ c.toNat && c.toNat ≤ 0x200a)

/-- A character with blanks and digits of all scripts in their ASCII form. -/
def asciiForm (c : Char) : Char :=
  if c.toNat < 0x80 then c
  else if isWideBlank c then ' '
  else ((digitValue? c).map fun n => Char.ofNat ('0'.toNat + n)).getD c

/-- The blanks of ASCII: the space and the control characters that move the place of writing. -/
def isAsciiBlank (c : Char) : Bool := c == ' ' || (9 ≤ c.toNat && c.toNat ≤ 13)

/-- A text without blanks at its beginning and its end. -/
def trimmed (cs : List Char) : List Char :=
  ((cs.dropWhile isAsciiBlank).reverse.dropWhile isAsciiBlank).reverse

end FormRules.Text

namespace FormRules.Yaml.Number

/-- The letters that may stand after a zero to mark the base of the digits that follow. -/
def baseLetters (base : Nat) : List Char :=
  (([(2, ['b', 'B']), (8, ['o', 'O']), (16, ['x', 'X'])] : List (Nat × List Char)).lookup base).getD []

/-- What follows the mark of a base, if the text begins with it. -/
def afterMark (base : Nat) : List Char → List Char
  | '0' :: c :: rest => if (baseLetters base).contains c then rest else '0' :: c :: rest
  | cs => cs

/-- The value of a digit in a base up to sixteen. -/
def digitValue? (base : Nat) (c : Char) : Option Nat := (hexValue? c).filter (· < base)

/-- The natural number that digits in a base stand for. -/
def ofDigits (base : Nat) (digits : List Char) : Nat :=
  digits.foldl (fun n c => base * n + (digitValue? base c).getD 0) 0

/-- The integer that a text stands for in a base. The digit limit holds in the decimal system
only, since the other bases are powers of two. -/
def integer (base : Nat) (cs : List Char) : Except Unreadable Int :=
  let (negative, body) := Numeral.unsigned (Text.trimmed (cs.map Text.asciiForm))
  let body := afterMark base body
  let digits := body.takeWhile fun c => (digitValue? base c).isSome
  if base = 10 ∧ Numeral.digitLimit < digits.length then
    .error (.overlong (.text digits.length))
  else if digits = [] ∨ digits.length < body.length then
    .error (.notInteger base (String.ofList cs))
  else
    let n : Int := ofDigits base digits
    .ok (if negative then -n else n)

/-- The decimal that a text stands for. -/
def decimal (cs : List Char) : Except Unreadable Binary64 :=
  match Binary64.read? (Text.trimmed (cs.map Text.asciiForm)) with
  | some x => .ok x
  | none => .error (.notDecimal (String.ofList cs))

/-- A sign that a text begins with, and what follows it. No text is no number. -/
def signed (cs : List Char) : Except Unreadable (Bool × List Char) :=
  match cs with
  | [] => .error (.raised ⟨.index, "string index out of range"⟩)
  | cs => .ok (Numeral.unsigned cs)

/-- A text without its underscores. -/
def withoutSpacing (cs : List Char) : List Char := cs.filter (· != '_')

/-! ## Integers -/

/-- The integer that parts counted in sixtieths of each other make. -/
def sixtieths (parts : List Int) : Int := parts.foldl (fun total part => 60 * total + part) 0

/-- The integer that a text without underscores stands for after its sign. -/
def unsignedInt (cs : List Char) : Except Unreadable Int :=
  match cs with
  | ['0'] => .ok 0
  | '0' :: 'b' :: rest => integer 2 rest
  | '0' :: 'x' :: rest => integer 16 rest
  | '0' :: rest => integer 8 ('0' :: rest)
  | [] => .error (.raised ⟨.index, "string index out of range"⟩)
  | cs =>
    if cs.contains ':' then return sixtieths (← (cs.splitOn ':').mapM (integer 10))
    else integer 10 cs

/-- The integer that a text stands for. -/
def int (text : String) : Except Unreadable Int := do
  let (negative, cs) ← signed (withoutSpacing text.toList)
  let n ← unsignedInt cs
  return if negative then -n else n

/-! ## Decimals -/

/-- The sum of parts counted in sixtieths of each other, the last of them first, whose unit is
`factor`. A part whose unit is no binary64 number has no sum. -/
def sixtiethsFrom (factor : Nat) (total : Binary64) :
    List Binary64 → Except Unreadable Binary64
  | [] => .ok total
  | part :: rest =>
    match Binary64.ofRatio false factor 1 with
    | .infinite _ => .error (.overflow "int too large to convert to float")
    | unit => sixtiethsFrom (60 * factor) (total.add (part.mul unit)) rest

/-- A text in lower case and without underscores. -/
def folded (text : String) : List Char := Text.lowercaseText (withoutSpacing text.toList)

/-- Whether a text is the word for what is no number, perhaps after a sign. -/
def isNaN (text : String) : Bool := (Numeral.unsigned (folded text)).2 == ".nan".toList

/-- The floating-point number that a text stands for after its sign. -/
def unsignedFloat (cs : List Char) : Except Unreadable Binary64 :=
  if cs = ".inf".toList then .ok (.infinite false)
  else if cs = ".nan".toList then .ok .nan
  else if cs.contains ':' then do
    let parts ← (cs.splitOn ':').mapM decimal
    sixtiethsFrom 1 (.finite false 0 Binary64.leastExponent) parts.reverse
  else decimal cs

/-- The floating-point number that a text stands for. -/
def float (text : String) : Except Unreadable Binary64 := do
  let (negative, cs) ← signed (folded text)
  let x ← unsignedFloat cs
  return if negative then x.negate else x

end FormRules.Yaml.Number
