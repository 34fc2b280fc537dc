import FormRules.Numeral
import FormRules.Pattern
import FormRules.Text.Point

/-!
# Checks on a field value

A field value is a text, or `none` where the field is absent. Only `isPresent` fails an absent
value; the other checks have nothing to constrain there and pass.
-/

namespace FormRules.Checks

open Numeral (Overlong)

/-- Whether a value is there and not empty. -/
def isPresent : Option String → Bool
  | none => false
  | some v => v != ""

/-- Whether a value, if there and not empty, fits a pattern as a whole. -/
def fitsIfGiven (p : Pattern) : Option String → Bool
  | none => true
  | some v => v == "" || p.fits v.toList

/-- Whether a value, if given, is an address. -/
def isEmail : Option String → Bool := fitsIfGiven .email

/-- Whether a value, if given, consists of ASCII letters and digits. -/
def isAlphanumeric : Option String → Bool := fitsIfGiven .alphanumeric

/-- The number that bounds are compared with: the value of an integer text, the count of code
points of any other. -/
def measure (v : String) : Except Overlong Int := do
  match ← Numeral.read? v with
  | some n => return n
  | none => return Text.size v

/-- Whether the measure of a value is at least a bound. -/
def isAtLeast (bound : Int) : Option String → Except Overlong Bool
  | none => .ok true
  | some v => do return decide (bound ≤ (← measure v))

/-- Whether the measure of a value is at most a bound. -/
def isAtMost (bound : Int) : Option String → Except Overlong Bool
  | none => .ok true
  | some v => do return decide ((← measure v) ≤ bound)

end FormRules.Checks
