import FormRules.Pattern

/-!
# Tags

What a node of a document stands for. A scalar whose tag is left open gets the tag that its text
looks like; a line feed at the very end of the text does not count.
-/

namespace FormRules.Yaml

/-- The tags of nodes. -/
inductive Tag where
  | null
  | bool
  | int
  | float
  | timestamp
  | text
  /-- Bytes, written in base 64. -/
  | binary
  | sequence
  | mapping
  | set
  /-- A row of pairs, each written as a mapping of one entry. -/
  | pairs
  /-- The key of entries that are taken over from elsewhere. -/
  | merge
  /-- The key of a default value. -/
  | standard
  /-- Any other tag; nothing is known of it. -/
  | other
  deriving DecidableEq, Repr

namespace Tag

/-- The address that all known tags begin with. -/
def base : String := "tag:yaml.org,2002:"

/-- The tag of an address. -/
def ofUri (uri : String) : Tag :=
  ([("null", Tag.null), ("bool", .bool), ("int", .int), ("float", .float),
    ("timestamp", .timestamp), ("str", .text), ("binary", .binary), ("seq", .sequence),
    ("map", .mapping), ("set", .set), ("omap", .pairs), ("pairs", .pairs), ("merge", .merge),
    ("value", .standard)].find? fun known => base ++ known.1 == uri).elim .other Prod.snd

/-! ## The shapes of plain scalars -/

/-- A row of patterns. -/
def row : List Pattern → Pattern
  | [] => .blank
  | p :: rest => .followedBy p (row rest)

/-- Any one of some patterns. -/
def anyOf : List Pattern → Pattern
  | [] => .nothing
  | p :: rest => .either p (anyOf rest)

/-- A character of a list. -/
def among (cs : String) : Pattern := .one fun c => cs.toList.contains c

/-- The words of a list. -/
def words (ws : List String) : Pattern := anyOf (ws.map fun w => row (w.toList.map .char))

/-- An ASCII digit. -/
def digit : Pattern := .one Char.isDigit

/-- A digit or an underscore. -/
def spacedDigit : Pattern := .one fun c => c.isDigit || c == '_'

/-- An optional sign. -/
def sign : Pattern := .optional (among "+-")

/-- A digit from 1 on and further digits. -/
def positive : Pattern := row [among "123456789", .many spacedDigit]

/-- One or more parts of an hour, each after a colon. -/
def sixtieths : Pattern :=
  .oneOrMore (row [.char ':', .optional (among "012345"), digit])

/-- A signed exponent. -/
def exponent : Pattern := row [among "eE", among "+-", .oneOrMore digit]

/-- Truth values. -/
def boolShape : Pattern :=
  words (["yes", "no", "true", "false", "on", "off"].flatMap fun w =>
    [w, String.ofList (w.toList.take 1 |>.map Char.toUpper) ++ String.ofList (w.toList.drop 1),
      String.ofList (w.toList.map Char.toUpper)])

/-- Integers: binary, octal, decimal, hexadecimal, or counted in sixtieths. -/
def intShape : Pattern :=
  .followedBy sign (anyOf [
    row [.char '0', .char 'b', .oneOrMore (among "01_")],
    row [.char '0', .oneOrMore (among "01234567_")],
    .char '0',
    positive,
    row [.char '0', .char 'x', .oneOrMore (among "0123456789abcdefABCDEF_")],
    row [positive, sixtieths]])

/-- Decimals with a point, counts in sixtieths with a point, and the words for what is no finite
number. -/
def floatShape : Pattern :=
  anyOf [
    row [sign, digit, .many spacedDigit, .char '.', .many spacedDigit, .optional exponent],
    row [.char '.', digit, .many spacedDigit, .optional exponent],
    row [sign, digit, .many spacedDigit, sixtieths, .char '.', .many spacedDigit],
    row [sign, .char '.', words ["inf", "Inf", "INF"]],
    row [.char '.', words ["nan", "NaN", "NAN"]]]

/-- Dates, and dates with a time and perhaps an offset. -/
def timestampShape : Pattern :=
  let one := digit
  let two := row [digit, digit]
  let oneOrTwo := row [digit, .optional digit]
  let four := row [two, two]
  let blanks := .many (among " \t")
  anyOf [
    row [four, .char '-', two, .char '-', two],
    row [four, .char '-', oneOrTwo, .char '-', oneOrTwo,
      .either (among "Tt") (.oneOrMore (among " \t")),
      oneOrTwo, .char ':', two, .char ':', two,
      .optional (row [.char '.', .many one]),
      .optional (row [blanks, .either (.char 'Z')
        (row [among "+-", oneOrTwo, .optional (row [.char ':', two])])])]]

/-- The absence of a value. -/
def nullShape : Pattern := .either .blank (words ["~", "null", "Null", "NULL"])

/-- A text without the line feed at its end, unless it is nothing else. -/
def withoutBreak (cs : List Char) : List Char :=
  if 1 < cs.length ∧ cs.getLast? = some '\n' then cs.dropLast else cs

/-- The tag that a text looks like. The marks that begin properties and aliases look like nothing
that has a value. -/
def implied (text : String) : Tag :=
  let shapes := [(boolShape, bool), (floatShape, float), (intShape, int), (words ["<<"], merge),
    (nullShape, null), (timestampShape, timestamp), (words ["="], standard),
    (words ["!", "&", "*"], other)]
  (shapes.find? fun shape => shape.1.fits (withoutBreak text.toList)).elim .text Prod.snd

end Tag

end FormRules.Yaml
