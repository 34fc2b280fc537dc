/-!
# Records keyed by text

Entries in the order in which their names first came. Setting a name that is there keeps its
place; removing it and setting it again moves it to the end.
-/

namespace FormRules

/-- Named entries in insertion order. -/
abbrev Fields (α : Type) := List (String × α)

namespace Fields

variable {α β : Type}

/-- The names in order. -/
def names (fields : Fields α) : List String := fields.map Prod.fst

/-- The entry under a name. -/
def get? (name : String) : Fields α → Option α
  | [] => none
  | (n, a) :: rest => if n = name then some a else get? name rest

/-- Changes the entry under a name, or adds one at the end where there is none. -/
def alter (name : String) (change : Option α → α) : Fields α → Fields α
  | [] => [(name, change none)]
  | (n, a) :: rest => if n = name then (n, change (some a)) :: rest else (n, a) :: alter name change rest

/-- Puts an entry under a name, in its place if the name is there and at the end otherwise. -/
def put (name : String) (a : α) (fields : Fields α) : Fields α :=
  fields.alter name fun _ => a

/-- Removes the entry under a name. -/
def erase (name : String) (fields : Fields α) : Fields α :=
  fields.filter fun entry => entry.1 != name

/-- The record that results from putting entries one after the other. -/
def ofList (entries : List (String × α)) : Fields α :=
  entries.foldl (fun fields entry => fields.put entry.1 entry.2) []

/-- Applies a function that may fail to every entry in order, up to the first failure. -/
def traverse {ε : Type} (f : String → α → Except ε β) : Fields α → Except ε (Fields β)
  | [] => .ok []
  | (n, a) :: rest => do
    let b ← f n a
    let rest ← traverse f rest
    return (n, b) :: rest

end Fields

end FormRules
