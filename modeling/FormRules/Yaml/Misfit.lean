import FormRules.Calendar
import FormRules.Failure

/-!
# Misfits

Why a text is no document. Either it breaks the grammar, which is not told apart any further, or
it is well formed and one of its scalars stands for no value.
-/

namespace FormRules.Yaml

/-- Why a scalar stands for no value. -/
inductive Unreadable where
  /-- An escape by a number beyond the last character. -/
  | codePoint
  /-- A number that the place where it is used has no room for. -/
  | overflow (said : String)
  /-- A text that is no number in a base. -/
  | notInteger (base : Nat) (text : String)
  /-- A text that is no decimal. -/
  | notDecimal (text : String)
  | overlong (refused : Numeral.Overlong)
  | calendar (misfit : Calendar.Misfit)
  /-- A text that is none of those that its tag knows. -/
  | raised (fault : Fault)
  deriving DecidableEq, Repr

/-- How much of a text that is no integer is shown. -/
def shownLength : Nat := 200

/-- The wording of the reason. -/
def Unreadable.message : Unreadable → String
  | .codePoint => "chr() arg not in range(0x110000)"
  | .overflow said => said
  | .notInteger base text =>
    "invalid literal for int() with base " ++ toString base ++ ": "
      ++ String.ofList ((Text.quoted text).toList.take shownLength)
  | .notDecimal text => "could not convert string to float: " ++ Text.quoted text
  | .overlong refused => refused.message
  | .calendar misfit => misfit.message
  | .raised fault => fault.message

/-- Why a text is no document, as its reader says it. -/
inductive NoDocument where
  /-- It breaks the grammar; the words are those of the reader. -/
  | malformed (said : String)
  /-- It is well formed, and one of its scalars stands for no value. -/
  | unreadable (reason : Unreadable)
  deriving DecidableEq, Repr

/-- Why a text is no document. -/
inductive Misfit where
  | malformed
  | unreadable (reason : Unreadable)
  deriving DecidableEq, Repr

/-- A misfit in the words of a reader. -/
def Misfit.inWords (said : String) : Misfit → NoDocument
  | .malformed => .malformed said
  | .unreadable reason => .unreadable reason

end FormRules.Yaml
