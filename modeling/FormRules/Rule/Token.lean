import FormRules.Checks
import FormRules.Rule.Kind
import FormRules.Value.Text

/-!
# Rule tokens

One constraint of a rule string. The bound of a minimum or maximum is part of the check itself, so
a token without the bound it needs, or with one it cannot use, does not exist; nor does a token
without a text.
-/

namespace FormRules.Rule

open Numeral (Overlong)

/-- A check with its bound, if it has one. -/
inductive Check where
  | required
  | email
  | min (bound : Int)
  | max (bound : Int)
  deriving DecidableEq, Repr

namespace Check

/-- The kind of a check. -/
def kind : Check → Kind
  | .required => .required
  | .email => .email
  | .min _ => .min
  | .max _ => .max

/-- The bound of a check. -/
def parameter? : Check → Option Int
  | .required | .email => none
  | .min n | .max n => some n

/-- Whether a field value passes a check. -/
def passes : Check → Option String → Except Overlong Bool
  | .required, v => .ok (Checks.isPresent v)
  | .email, v => .ok (Checks.isEmail v)
  | .min n, v => Checks.isAtLeast n v
  | .max n, v => Checks.isAtMost n v

/-- The name that a check goes by where it is shown. -/
def title : Check → String
  | .required => "RequiredValidation"
  | .email => "EmailValidation"
  | .min _ => "MinValidation"
  | .max _ => "MaxValidation"

/-- The shortest token text of a check: the word of its kind and, after a colon, its bound. -/
def source (check : Check) : Except Overlong String :=
  match check.parameter? with
  | none => .ok check.kind.word
  | some n => (Numeral.write n).map (check.kind.word ++ ":" ++ ·)

theorem source_of_keyword {check : Check} (keyword : check.parameter? = none) :
    check.source = .ok check.kind.word := by
  simp only [source, keyword]

theorem source_of_bound {check : Check} {n : Int} (bound : check.parameter? = some n) :
    check.source = (Numeral.write n).map (check.kind.word ++ ":" ++ ·) := by
  simp only [source, bound]

end Check

/-- A check and the text that asks for it. -/
structure Token where
  check : Check
  source : String
  source_ne : source ≠ ""
  deriving DecidableEq, Repr

namespace Token

/-- The kind of a token. -/
def kind (t : Token) : Kind := t.check.kind

/-- The bound of a token. -/
def parameter? (t : Token) : Option Int := t.check.parameter?

/-- Whether a field value passes a token. -/
def passes (t : Token) (v : Option String) : Except Overlong Bool := t.check.passes v

/-- A token as it is shown inside a message. -/
def literal (t : Token) : Except Overlong String := do
  let parameter ← match t.parameter? with
    | none => pure "None"
    | some n => Numeral.write n
  return "RuleToken(kind=" ++ t.kind.literal ++ ", parameter=" ++ parameter ++ ", source="
    ++ Text.quoted t.source ++ ")"

/-- The check of a token under its title, as it is shown inside a message. -/
def titled (t : Token) : String := t.check.title ++ "(" ++ Text.quoted t.source ++ ")"

/-- What is given as the kind of a token to be made: a kind, or any other value. -/
inductive GivenKind where
  | kind (kind : Kind)
  | other (v : Value)

/-- Why parts do not make a token. -/
inductive Misfit where
  /-- The kind is no kind but a value of the given type. -/
  | notAKind (type : String)
  | missingParameter (kind : Kind)
  | extraParameter (kind : Kind)
  /-- The text of the parameter would be too long. -/
  | overlong (refused : Overlong)
  deriving DecidableEq, Repr

/-- The wording of a misfit. -/
def Misfit.message : Misfit → String
  | .notAKind type => "Kind must be RuleKind, got " ++ type
  | .missingParameter kind => kind.word ++ " token requires an integer parameter"
  | .extraParameter kind => kind.word ++ " token takes no parameter"
  | .overlong refused => refused.message

/-- The check of a kind and a parameter: an integer for a bound, null for a keyword. -/
def checkOf? : Kind → Value → Except Misfit Check
  | .required, .null => .ok .required
  | .email, .null => .ok .email
  | .min, .int n => .ok (.min n)
  | .max, .int n => .ok (.max n)
  | .required, _ => .error (.extraParameter .required)
  | .email, _ => .error (.extraParameter .email)
  | .min, _ => .error (.missingParameter .min)
  | .max, _ => .error (.missingParameter .max)

theorem append_ne_empty {s t : String} (h : s ≠ "") : s ++ t ≠ "" := by
  intro e
  exact h (String.append_eq_empty_iff.mp e).1

/-- The shortest text of a check is not empty. -/
theorem source_ne_empty {check : Check} {s : String} (h : check.source = .ok s) : s ≠ "" := by
  cases bound : check.parameter? with
  | none =>
    rw [Check.source_of_keyword bound] at h
    cases h
    exact check.kind.word_ne_empty
  | some n =>
    rw [Check.source_of_bound bound] at h
    cases written : Numeral.write n with
    | error refused => rw [written] at h; cases h
    | ok w =>
      rw [written] at h
      cases h
      exact append_ne_empty (append_ne_empty check.kind.word_ne_empty)

/-- A token of a check with its shortest text. -/
def ofCheck (check : Check) : Except Overlong Token :=
  match h : check.source with
  | .ok s => .ok ⟨check, s, source_ne_empty h⟩
  | .error e => .error e

/-- The token of a kind, a parameter and a text; without a text it gets the shortest one. -/
def ofParts (kind : GivenKind) (parameter : Value) (source : String) : Except Misfit Token :=
  match kind with
  | .other v => .error (.notAKind v.typeName)
  | .kind kind =>
    match checkOf? kind parameter with
    | .error e => .error e
    | .ok check =>
      if h : source = "" then
        match ofCheck check with
        | .ok t => .ok t
        | .error refused => .error (.overlong refused)
      else .ok ⟨check, source, h⟩

end Token

end FormRules.Rule
