import FormRules.Fields
import FormRules.Rule.Parse

/-!
# Rule sets

A rule set names fields and gives each a rule string. Any value may be offered as one; its shape
is checked before any rule string is read, so a misshapen entry is reported before a malformed
rule, wherever the two stand.
-/

namespace FormRules

/-- The rule strings of the fields, in order. -/
abbrev RuleSet := Fields String

namespace RuleSet

/-- An error about the entry under a key that is no text, or that holds no proper rule string. -/
def entryError (defect : String → Defect) (key : Value) : Except Failure (String × String) := do
  let field ← Failure.ofNumeral key.display
  let shown ← Failure.ofNumeral key.literal
  throw (.config ⟨defect shown, some field, none⟩)

/-- One entry of a rule set: a text and a text that is not empty. -/
def ofEntry (entry : Value × Value) : Except Failure (String × String) :=
  match entry with
  | (.text field, .text rule) =>
    if rule = "" then entryError .entryEmpty (.text field) else .ok (field, rule)
  | (.text field, _) => entryError .entryNotText (.text field)
  | (key, _) => entryError .fieldNotText key

/-- The rule set that a value is, if it is a mapping of field names to rule strings. -/
def ofValue (v : Value) : Except Failure RuleSet :=
  match v.entries? with
  | none => .error (.config (.general .ruleSetNotMapping))
  | some entries => do
    let rules ← entries.mapM ofEntry
    if "" ∈ Fields.names rules then throw (.config (.general .emptyFieldName))
    return rules

/-- The mapping that a rule set is. -/
def toValue (rules : RuleSet) : Value :=
  .map .plain (rules.map fun (field, rule) => (.text field, .text rule))

/-- The tokens of every rule, in order. -/
def parse (rules : RuleSet) : Except Failure (Fields (List Rule.Token)) :=
  Fields.traverse (fun field rule => Rule.parse rule (some field)) rules

/-- The tokens of every rule of a value that should be a rule set. -/
def parseValue (v : Value) : Except Failure (Fields (List Rule.Token)) := do
  parse (← ofValue v)

end RuleSet

end FormRules
