import FormRules.Text.Segments
import FormRules.Value.Key

/-!
# Targets

Where the values of fields come from. A field is asked for by its key, which may be a path with
points; what is found counts only if it is a text. A mapping answers from the entry under the
whole key or else along the path; an object along the path through its attributes; a function is
called with the whole key; a source answers by itself.
-/

namespace FormRules

/-- The character between the steps of a key path. -/
def pathDelimiter : Char := '.'

/-- What fields can be asked of. -/
inductive Target where
  /-- A source that answers for its fields by itself. -/
  | source (answer : String → Except Fault (Option String))
  | mapping (entries : List (Value × Value))
  | function (call : String → Except Fault Value)
  | attributes (root : Value)

namespace Value

/-- A value's answer to a call with one text, if it can be called. -/
def call? : Value → Option (String → Except Fault Value)
  | .function _ table otherwise => some fun key => (Fields.get? key table).getD otherwise
  | .lookup _ entries => some fun key =>
    match find? key entries with
    | some v => .ok v
    | none => .error ⟨.key, key⟩
  | _ => none

/-- What reading an attribute gives, if there is one of the name. An own attribute hides an inherited
one. Data and functions are taken to have none: what they have under other than special names, methods
and parts of numbers, is no text. -/
def attribute? (name : String) : Value → Option (Except Fault Value)
  | .object _ attributes inherited => (Fields.get? name attributes).or ((Fields.get? name inherited).map .ok)
  | .class _ attributes inherited => ((Fields.get? name attributes).or (Fields.get? name inherited)).map .ok
  | _ => none

/-- The value of an attribute. -/
def getAttribute (name : String) (v : Value) : Except Fault Value :=
  (v.attribute? name).getD (.error ⟨.attribute, name⟩)

/-- One step of a path: into the entry of a mapping, into the attribute of anything else. -/
def step (v : Value) (name : String) : Except Fault Value :=
  match v.entries? with
  | some entries =>
    match find? name entries with
    | some v => .ok v
    | none => .error ⟨.key, name⟩
  | none => v.getAttribute name

/-- The value at the end of a path of steps, up to the first fault. -/
def walk (v : Value) : List String → Except Fault Value
  | [] => .ok v
  | name :: rest =>
    match v.step name with
    | .ok next => next.walk rest
    | .error fault => .error fault

/-- The value at the end of a path that leads through mappings only. -/
def descend? (v : Value) : List String → Option Value
  | [] => some v
  | name :: rest =>
    match v.entries? with
    | none => none
    | some entries =>
      match find? name entries with
      | none => none
      | some next => next.descend? rest

end Value

namespace Target

/-- The target that a value is. -/
def ofValue (v : Value) : Target :=
  match v with
  | .source _ entries => .source fun key => .ok ((Value.find? key entries).bind Value.text?)
  | .map _ entries => .mapping entries
  | v =>
    match v.call? with
    | some call => .function call
    | none => .attributes v

/-- The steps of a key path. -/
def steps (key : String) : List String := Text.segments pathDelimiter key

/-- What a mapping holds for a key: the entry under the whole key, or else, for a path, the value
at its end. -/
def held? (entries : List (Value × Value)) (key : String) : Option Value :=
  match Value.find? key entries with
  | some v => some v
  | none =>
    if pathDelimiter ∈ key.toList then (Value.map .plain entries).descend? (steps key) else none

/-- The text found by a reading, if it found one. Faults that `isAbsence` takes for an absent
value give none; others stay. -/
def found (isAbsence : Fault → Bool) : Except Fault Value → Except Fault (Option String)
  | .ok v => .ok v.text?
  | .error fault => if isAbsence fault then .ok none else .error fault

/-- Whether a fault of a function means that the field is absent: any failed lookup does. -/
def absentFromCall (fault : Fault) : Bool := fault.isLookup || fault.kind == .attribute

/-- Whether a fault on a path means that the field is absent: a missing attribute or key does. -/
def absentFromPath (fault : Fault) : Bool := fault.kind == .attribute || fault.kind == .key

/-- The text that a target has for a key. -/
def resolve (t : Target) (key : String) : Except Fault (Option String) :=
  match t with
  | .source answer => answer key
  | .mapping entries => .ok ((held? entries key).bind Value.text?)
  | .function call => found absentFromCall (call key)
  | .attributes root => found absentFromPath (root.walk (steps key))

end Target

end FormRules
