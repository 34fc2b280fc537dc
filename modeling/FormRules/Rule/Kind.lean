import FormRules.Text.Quoted

/-!
# Kinds of rule tokens

The closed set of checks that a rule token can ask for.
-/

namespace FormRules.Rule

/-- What a token asks for. -/
inductive Kind where
  | required
  | email
  | min
  | max
  deriving DecidableEq, Repr

namespace Kind

/-- All kinds. -/
def all : List Kind := [.required, .email, .min, .max]

/-- The word of a kind in rule strings. -/
def word : Kind → String
  | .required => "required"
  | .email => "email"
  | .min => "min"
  | .max => "max"

theorem word_ne_empty (kind : Kind) : kind.word ≠ "" := by cases kind <;> decide

/-- The name of a kind. -/
def name : Kind → String
  | .required => "REQUIRED"
  | .email => "EMAIL"
  | .min => "MIN"
  | .max => "MAX"

/-- Whether tokens of a kind carry an integer. -/
def hasParameter : Kind → Bool
  | .required | .email => false
  | .min | .max => true

/-- The kind of a word. -/
def ofWord? (word : String) : Option Kind :=
  all.find? fun kind => kind.word == word

/-- A kind as it is shown inside a message. -/
def literal (kind : Kind) : String :=
  "<RuleKind." ++ kind.name ++ ": " ++ Text.quoted kind.word ++ ">"

end Kind

/-- A word that is no kind. -/
structure UnknownKind where
  word : String
  deriving DecidableEq, Repr

namespace UnknownKind

/-- The wording of the error. -/
def message (e : UnknownKind) : String := Text.quoted e.word ++ " is not a valid RuleKind"

end UnknownKind

end FormRules.Rule
