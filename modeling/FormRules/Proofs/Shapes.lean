import FormRules.Proofs.Fieldwise
import FormRules.Proofs.Segments

/-!
# The shapes of a form

A record of plain data can be shown as a mapping of any kind, as an object or as a class, and it can
be asked through a function, through the lookup of its mapping or as a source. On plain data, a path
through attributes goes as far as a path through entries, so all that show a record answer alike for
every key that is not both a path and a name of the record. What answers for whole keys only agrees
with them on keys that are no paths. Objects and classes also have what their type gives them, such as
the name of a class under `__name__`, which no mapping has; so they agree with the others only on keys
that do not step into a special name.
-/

namespace FormRules.Value

theorem mem_of_find? {key : String} {entries : List (Value × Value)} {v : Value}
    (found : find? key entries = some v) : (.text key, v) ∈ entries := by
  fun_induction find? key entries with
  | case1 => cases found
  | case2 => cases found; exact List.mem_cons_self
  | case3 _ _ _ _ ih => exact List.mem_cons_of_mem _ (ih found)
  | case4 _ _ _ ih => exact List.mem_cons_of_mem _ (ih found)

end FormRules.Value

namespace FormRules

/-- The entries that a record makes in a mapping. -/
def Fields.entries (m : Fields Value) : List (Value × Value) := m.map fun (name, v) => (.text name, v)

/-- The values of a record as what reading them gives. -/
def Fields.readings (m : Fields Value) : List (String × Except Fault Value) := m.map fun (name, v) => (name, .ok v)

namespace Fields

theorem find?_entries (m : Fields Value) (name : String) : Value.find? name m.entries = m.get? name := by
  induction m with
  | nil => rfl
  | cons entry rest ih =>
    change (if entry.1 = name then some entry.2 else Value.find? name (entries rest)) = _
    rw [ih]
    rfl

end Fields

namespace Target

/-- What a record holds at the end of a path through mappings. -/
def atPath? (m : Fields Value) (names : List String) : Option Value :=
  (Value.map .plain m.entries).descend? names

theorem atPath?_cons (m : Fields Value) (name : String) (rest : List String) :
    atPath? m (name :: rest) = (m.get? name).bind fun v => v.descend? rest := by
  simp only [atPath?, Value.descend?, Value.entries?, Fields.find?_entries]
  cases m.get? name <;> rfl

/-- A record holds for a key the entry under it, or else what lies at the end of the path that it is. -/
theorem held?_entries (m : Fields Value) (key : String) :
    held? m.entries key =
      (m.get? key).or (if pathDelimiter ∈ key.toList then atPath? m (steps key) else none) := by
  rw [held?, Fields.find?_entries]
  cases m.get? key <;> rfl

end Target

end FormRules
