import FormRules.Binary64
import FormRules.Calendar
import FormRules.Failure
import FormRules.Fields

/-!
# Values

The values that rule sets, rule files and forms are made of: plain data, and the objects,
functions and sources of form data that a validator may be pointed at.
-/

namespace FormRules

/-- The kinds of mappings: plain ones, ones that are shown as ordered, and read-only views. -/
inductive MapKind where
  | plain
  | ordered
  | readOnly
  deriving DecidableEq, Repr

/-- How a value that is no data presents itself: the name of its type, and what it tells. -/
structure Guise where
  type : String
  told : String
  deriving DecidableEq, Repr

/-- What is no data is shown between angle brackets. -/
def Guise.shown (guise : Guise) : String := "<" ++ guise.told ++ ">"

/-- A value. Mappings hold their entries in insertion order and make none up for keys that are not
there. -/
inductive Value where
  | null
  | bool (b : Bool)
  | int (n : Int)
  | float (x : Binary64)
  | text (s : String)
  | bytes (bs : List UInt8)
  | date (d : Calendar.Date)
  | moment (m : Calendar.Moment)
  | list (items : List Value)
  | tuple (items : List Value)
  | map (kind : MapKind) (entries : List (Value × Value))
  /-- A set, with its members in the order in which it shows them. -/
  | set (members : List Value)
  /-- A list or mapping where it stands inside itself. -/
  | again (isMapping : Bool)
  /-- An object with its own attributes, reading one of which may raise a fault, and with what it
  has from its type. -/
  | object (guise : Guise) (attributes : List (String × Except Fault Value))
    (inherited : List (String × Value))
  /-- A class with its class attributes and with what every class has. -/
  | class (guise : Guise) (attributes inherited : List (String × Value))
  /-- A function of one text, by its table and its answer for all else. -/
  | function (guise : Guise) (table : List (String × Except Fault Value))
    (otherwise : Except Fault Value)
  /-- The function that looks a key up in a mapping and raises a fault where it is missing. -/
  | lookup (guise : Guise) (entries : List (Value × Value))
  /-- A source of field values that answers by itself, from these entries. -/
  | source (guise : Guise) (entries : List (Value × Value))

namespace Value

/-- The mapping that a record of named values makes. -/
def ofFields (fields : Fields Value) : Value :=
  .map .plain (fields.map fun (name, v) => (.text name, v))

/-- The text, if the value is one. -/
def text? : Value → Option String
  | .text s => some s
  | _ => none

/-- The entries, if the value is a mapping of any kind. -/
def entries? : Value → Option (List (Value × Value))
  | .map _ entries => some entries
  | _ => none

/-- Whether a value counts as nothing: null, false, zero, and all that is empty. -/
def isVoid : Value → Bool
  | .null => true
  | .bool b => !b
  | .int n => n == 0
  | .float x => x.isZero
  | .text s => s == ""
  | .bytes bs => bs.isEmpty
  | .list items => items.isEmpty
  | .tuple items => items.isEmpty
  | .map _ entries => entries.isEmpty
  | .set members => members.isEmpty
  | _ => false

/-- Whether a value is a floating-point number that stands for no number. -/
def isNaN : Value → Bool
  | .float .nan => true
  | _ => false

/-- The name of a value's type as messages give it. -/
def typeName : Value → String
  | .null => "NoneType"
  | .bool _ => "bool"
  | .int _ => "int"
  | .float _ => "float"
  | .text _ => "str"
  | .bytes _ => "bytes"
  | .date _ => "date"
  | .moment _ => "datetime"
  | .list _ => "list"
  | .tuple _ => "tuple"
  | .map .plain _ => "dict"
  | .map .ordered _ => "OrderedDict"
  | .map .readOnly _ => "mappingproxy"
  | .set _ => "set"
  | .again isMapping => if isMapping then "dict" else "list"
  | .object guise _ _ | .class guise _ _ | .function guise _ _ | .lookup guise _ | .source guise _ =>
    guise.type

end Value

end FormRules
