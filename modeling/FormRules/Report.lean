import FormRules.Fields

/-!
# Reports

The outcome of judging a form: the fields that failed, each with the tokens it failed, in the
order in which the failures were recorded.
-/

namespace FormRules

/-- The failed fields and, for each, the texts of the tokens it failed. -/
structure Report where
  failures : Fields (List String)
  deriving DecidableEq, Repr

namespace Report

/-- The report without failures. -/
def empty : Report := ⟨[]⟩

/-- Records that a field failed a token. -/
def add (r : Report) (field token : String) : Report :=
  ⟨r.failures.alter field fun earlier => earlier.getD [] ++ [token]⟩

/-- The fields that failed. -/
def failedFields (r : Report) : List String := r.failures.names

/-- Whether nothing failed. -/
def isValid (r : Report) : Bool := r.failures.isEmpty

/-- Whether a field failed. -/
def contains (r : Report) (field : String) : Bool := (r.failures.get? field).isSome

/-- The fields that failed, if there are any. -/
def failedFields? (r : Report) : Option (List String) :=
  if r.isValid then none else some r.failedFields

/-- A report in one line. -/
def text (r : Report) : String :=
  if r.isValid then "Valid"
  else
    let parts := r.failures.map fun (field, tokens) => field ++ " (" ++ ", ".intercalate tokens ++ ")"
    "Invalid: " ++ "; ".intercalate parts

end Report

end FormRules
