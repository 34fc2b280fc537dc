import FormRules.Value

/-!
# Values as keys

When two values are the same key of a mapping, and how entries are added to one. Numbers are the
same key if they are the same number, whatever their type; a truth value counts as 0 or 1. Moments
with an offset are the same key if they are the same instant.
-/

namespace FormRules.Value

/-- Equality of a value that is a number with another value. -/
def sameNumber : Value → Value → Bool
  | .bool a, .bool b => a == b
  | .bool a, .int n => a.toNat == n
  | .int n, .bool a => a.toNat == n
  | .int n, .int m => n == m
  | .float x, .float y => x.sameNumber y
  | .float x, .int n => x.isInt n
  | .int n, .float x => x.isInt n
  | .float x, .bool a => x.isInt a.toNat
  | .bool a, .float x => x.isInt a.toNat
  | _, _ => false

mutual

/-- Whether two values are the same key. Lists, sets, mappings and all that is not data are no
keys. -/
def sameKey : Value → Value → Bool
  | .null, .null => true
  | .text s, .text t => s == t
  | .bytes bs, .bytes cs => bs == cs
  | .date d, .date e => d == e
  | .moment m, .moment n => m.isSameAs n
  | .tuple items, .tuple others => sameKeys items others
  | v, w => v.sameNumber w

/-- Whether two rows of values are the same keys in the same order. -/
def sameKeys : List Value → List Value → Bool
  | [], [] => true
  | v :: items, w :: others => sameKey v w && sameKeys items others
  | _, _ => false

end

/-- Adds an entry to a mapping: a key that is there keeps its place and its first spelling and
takes the new value. -/
def insert (key value : Value) : List (Value × Value) → List (Value × Value)
  | [] => [(key, value)]
  | (k, v) :: rest => if k.sameKey key then (k, value) :: rest else (k, v) :: insert key value rest

/-- The entries of a mapping built by adding pairs in order. -/
def entriesOf (pairs : List (Value × Value)) : List (Value × Value) :=
  pairs.foldl (fun entries pair => insert pair.1 pair.2 entries) []

/-- The value under a text key. -/
def find? (key : String) : List (Value × Value) → Option Value
  | [] => none
  | (.text k, v) :: rest => if k = key then some v else find? key rest
  | _ :: rest => find? key rest

end FormRules.Value
