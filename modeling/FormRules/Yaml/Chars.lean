/-!
# Characters of documents

The classes of characters that the grammar of documents is built on. The end of the text counts
as a boundary wherever a blank or a line break does.
-/

namespace FormRules.Yaml

/-- Line breaks. -/
def isBreak (c : Char) : Bool :=
  c == '\n' || c == '\x85' || c == '\u2028' || c == '\u2029'

/-- A space or a tab. -/
def isBlank (c : Char) : Bool := c == ' ' || c == '\t'

/-- A blank or a line break. -/
def isSpace (c : Char) : Bool := isBlank c || isBreak c

/-- Whether a text is at its end or goes on with a character of a class. -/
def endsWith (ends : Char → Bool) : List Char → Bool
  | [] => true
  | c :: _ => ends c

/-- Whether a text is at its end or goes on with a blank or a line break. -/
def atBoundary (cs : List Char) : Bool := endsWith isSpace cs

/-- Whether a text is at its end or goes on with a space or a line break. -/
def atSpace (cs : List Char) : Bool := endsWith (fun c => c == ' ' || isBreak c) cs

/-- Whether a text is at its end or goes on with a line break. -/
def atLineEnd (cs : List Char) : Bool := endsWith isBreak cs

/-- What stands before the next line break. -/
def lineOf (cs : List Char) : List Char := cs.takeWhile (!isBreak ·)

/-- What follows from the next line break on. -/
def afterLine (cs : List Char) : List Char := cs.dropWhile (!isBreak ·)

/-- What follows a line break, if the text goes on with one. -/
def skipBreak : List Char → List Char
  | [] => []
  | c :: rest => if isBreak c then rest else c :: rest

/-- The character that a line break stands for inside a scalar. -/
def breakText (c : Char) : Char := if c == '\x85' then '\n' else c

/-- Whether a text goes on with a mark that begins or ends a document. -/
def atDocumentMark : List Char → Bool
  | '-' :: '-' :: '-' :: rest => atBoundary rest
  | '.' :: '.' :: '.' :: rest => atBoundary rest
  | _ => false

/-- The characters of the names of anchors, handles and directives. -/
def isNameChar (c : Char) : Bool := c.isAlphanum || c == '-' || c == '_'

/-- The characters of the addresses of tags. -/
def isUriChar (c : Char) : Bool :=
  c.isAlphanum || "-;/?:@&=+$,_.!~*'()[]%".toList.contains c

/-- The value of a hexadecimal digit. -/
def hexValue? (c : Char) : Option Nat :=
  if c.isDigit then some (c.toNat - '0'.toNat)
  else if 'a' ≤ c ∧ c ≤ 'f' then some (c.toNat - 'a'.toNat + 10)
  else if 'A' ≤ c ∧ c ≤ 'F' then some (c.toNat - 'A'.toNat + 10)
  else none

/-- The characters that a document may hold. -/
def isAllowed (c : Char) : Bool :=
  let n := c.toNat
  n == 0x9 || n == 0xa || n == 0xd || (0x20 ≤ n && n ≤ 0x7e) || n == 0x85
    || (0xa0 ≤ n && n ≤ 0xd7ff) || (0xe000 ≤ n && n ≤ 0xfffd) || 0x10000 ≤ n

/-- A text with every line end written as one line feed. -/
def unifyBreaks : List Char → List Char
  | '\r' :: '\n' :: rest => '\n' :: unifyBreaks rest
  | '\r' :: rest => '\n' :: unifyBreaks rest
  | c :: rest => c :: unifyBreaks rest
  | [] => []

end FormRules.Yaml
