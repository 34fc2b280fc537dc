/-!
# Integer texts

The strict integer texts of the rule grammar: an optional sign followed by ASCII digits, with no
blanks, underscores or other digits. Conversion stops at a fixed number of digits in both
directions; leading zeros count, the sign does not.
-/

namespace FormRules.Numeral

/-- The largest number of digits that is converted. -/
def digitLimit : Nat := 4300

/-- A conversion that the digit limit refuses. -/
inductive Overlong where
  /-- A text with this many digits was to be read. -/
  | text (digits : Nat)
  /-- A number with too many digits was to be written. -/
  | number
  deriving DecidableEq, Repr

/-- The wording of a refusal. -/
def Overlong.message (refused : Overlong) : String :=
  let detail := match refused with
    | .text digits => ": value has " ++ toString digits ++ " digits"
    | .number => ""
  "Exceeds the limit (" ++ toString digitLimit ++ " digits) for integer string conversion"
    ++ detail ++ "; use sys.set_int_max_str_digits() to increase the limit"

/-- The text after an optional sign, and whether the sign was a minus. -/
def unsigned : List Char → Bool × List Char
  | '-' :: rest => (true, rest)
  | '+' :: rest => (false, rest)
  | cs => (false, cs)

/-- Whether a text is an optional sign followed by one or more ASCII digits. -/
def isInteger (cs : List Char) : Bool :=
  !(unsigned cs).2.isEmpty && (unsigned cs).2.all Char.isDigit

/-- The signed decimal value of an integer text. -/
def value (cs : List Char) : Int :=
  let magnitude := Nat.ofDigitChars 10 (unsigned cs).2 0
  if (unsigned cs).1 then -magnitude else magnitude

/-- The value of an integer text, nothing for any other text. -/
def read? (s : String) : Except Overlong (Option Int) :=
  let digits := (unsigned s.toList).2.length
  if !isInteger s.toList then .ok none
  else if digitLimit < digits then .error (.text digits)
  else .ok (some (value s.toList))

/-- The decimal text of an integer. -/
def write (n : Int) : Except Overlong String :=
  if digitLimit < (Nat.toDigits 10 n.natAbs).length then .error .number else .ok (toString n)

end FormRules.Numeral
