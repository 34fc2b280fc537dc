import FormRules.Binary64.Shortest
import FormRules.Numeral
import FormRules.Text.Quoted
import FormRules.Value

/-!
# The text of a value

How values appear in messages. `literal` shows a value with its punctuation, so that texts stand
in quotes; `display` gives a text as it is, and a date for reading. Both fail on an integer that is
too long to be written.
-/

namespace FormRules.Value

open Numeral (Overlong)

/-- Numbers are written positionally from 0.0001 up to 10^16, otherwise with a signed exponent of
at least two digits. -/
def numberLayout : Binary64.Layout where
  exponentFrom := 16
  exponentBelow := -4
  exponentDigits := 2
  infinity := "inf"
  notANumber := "nan"

/-- The items of a row, separated by commas, inside brackets. -/
def bracketed (opening closing : String) (items : List String) : String :=
  opening ++ ", ".intercalate items ++ closing

/-- A tuple of shown items; a single item keeps a comma. -/
def tupleText : List String → String
  | [item] => "(" ++ item ++ ",)"
  | items => bracketed "(" ")" items

/-- A mapping of shown keys and values. -/
def mapText (kind : MapKind) (entries : List (String × String)) : String :=
  let pairs := entries.map fun (k, v) => k ++ ": " ++ v
  match kind with
  | .plain => bracketed "\x7b" "\x7d" pairs
  | .readOnly => "mappingproxy(" ++ bracketed "\x7b" "\x7d" pairs ++ ")"
  | .ordered =>
    if entries.isEmpty then "OrderedDict()"
    else bracketed "OrderedDict([" "])" (entries.map fun (k, v) => "(" ++ k ++ ", " ++ v ++ ")")

/-- A set of shown members; one without members is shown by its name. -/
def setText (members : List String) : String :=
  if members.isEmpty then "set()" else bracketed "\x7b" "\x7d" members

mutual

/-- A value as it is shown inside a message. -/
def literal : Value → Except Overlong String
  | .null => .ok "None"
  | .bool b => .ok (if b then "True" else "False")
  | .int n => Numeral.write n
  | .float x => .ok (numberLayout.text x)
  | .text s => .ok (Text.quoted s)
  | .bytes bs => .ok (Text.quotedBytes bs)
  | .date d => .ok d.literal
  | .moment m => .ok m.literal
  | .list items => return bracketed "[" "]" (← literals items)
  | .tuple items => return tupleText (← literals items)
  | .map kind entries => return mapText kind (← entryLiterals entries)
  | .set members => return setText (← literals members)
  | .again isMapping => .ok (if isMapping then "\x7b...\x7d" else "[...]")
  | .object guise _ _ | .class guise _ _ | .function guise _ _ | .lookup guise _ | .source guise _ =>
    .ok guise.shown

/-- Values as they are shown inside a message, in order. -/
def literals : List Value → Except Overlong (List String)
  | [] => .ok []
  | v :: rest => return (← literal v) :: (← literals rest)

/-- Keys and values as they are shown inside a message, in order. -/
def entryLiterals : List (Value × Value) → Except Overlong (List (String × String))
  | [] => .ok []
  | (k, v) :: rest => return ((← literal k), (← literal v)) :: (← entryLiterals rest)

end

/-- A value by itself: a text as it is, a date for reading, a view as the mapping it shows, and
all else as inside a message. -/
def display : Value → Except Overlong String
  | .text s => .ok s
  | .date d => .ok d.text
  | .moment m => .ok m.text
  | .map .readOnly entries => literal (.map .plain entries)
  | v => literal v

end FormRules.Value
