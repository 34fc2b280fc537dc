import FormRules.Proofs.Numeral
import FormRules.Proofs.Traversal
import FormRules.Rule.Token

/-!
# Which checks can be made

Keywords are checked on every value. Bounds are compared with the integer that a value spells, or
with the length of a value that spells none; only an integer text beyond the digit limit has no
measure, so that a bound cannot be checked on it.
-/

namespace FormRules.Checks

open Numeral (Spelling TooLong Overlong digitLimit)

/-- An integer text within the digit limit is measured by the integer that it stands for. -/
theorem measure_spelling {s : String} {digits : List Char} {n : Int} (spelled : Spelling s.toList digits n)
    (short : digits.length ≤ digitLimit) : measure s = .ok n := by
  have read := (Numeral.read?_some_iff s n).mpr ⟨digits, spelled, short⟩
  rw [measure, read]
  rfl

/-- The integer texts beyond the digit limit are all that has no measure. -/
theorem measure_error_iff (s : String) (refused : Overlong) :
    measure s = .error refused ↔ ∃ count, TooLong s count ∧ refused = .text count := by
  rw [← Numeral.read?_error_iff, measure]
  refine Traversal.bind_error_iff_first fun number impossible => ?_
  cases number <;> cases impossible

end FormRules.Checks

namespace FormRules.Rule.Token

open Numeral (TooLong Overlong)

private theorem compare_error_iff (compare : Int → Bool) (s : String) (refused : Overlong) :
    (Checks.measure s >>= fun n => pure (compare n)) = .error refused ↔
      ∃ count, TooLong s count ∧ refused = .text count := by
  rw [← Checks.measure_error_iff]
  exact Traversal.bind_error_iff_first fun _ => nofun

/-- A token cannot be tried on a value exactly if it compares with a bound and the value is an
integer text beyond the digit limit. -/
theorem passes_error_iff (token : Token) (v : Option String) (refused : Overlong) :
    token.passes v = .error refused ↔
      token.kind.hasParameter = true ∧ ∃ s count, v = some s ∧ TooLong s count ∧ refused = .text count := by
  unfold passes kind
  cases token.check with
  | required => simp [Check.passes, Check.kind, Kind.hasParameter]
  | email => simp [Check.passes, Check.kind, Kind.hasParameter]
  | min n =>
    cases v with
    | none => simp [Check.passes, Checks.isAtLeast]
    | some s =>
      simp only [Check.kind, Kind.hasParameter, true_and, Option.some.injEq, exists_and_left, exists_eq_left']
      exact compare_error_iff (n ≤ ·) s refused
  | max n =>
    cases v with
    | none => simp [Check.passes, Checks.isAtMost]
    | some s =>
      simp only [Check.kind, Kind.hasParameter, true_and, Option.some.injEq, exists_and_left, exists_eq_left']
      exact compare_error_iff (· ≤ n) s refused

/-- A minimum compares an integer text within the digit limit by its value. -/
theorem passes_min {token : Token} {bound n : Int} {s : String} {digits : List Char}
    (min : token.check = .min bound) (spelled : Numeral.Spelling s.toList digits n)
    (short : digits.length ≤ Numeral.digitLimit) :
    token.passes (some s) = .ok (decide (bound ≤ n)) := by
  rw [passes, min, Check.passes, Checks.isAtLeast, Checks.measure_spelling spelled short]
  rfl

/-- A maximum compares an integer text within the digit limit by its value. -/
theorem passes_max {token : Token} {bound n : Int} {s : String} {digits : List Char}
    (max : token.check = .max bound) (spelled : Numeral.Spelling s.toList digits n)
    (short : digits.length ≤ Numeral.digitLimit) :
    token.passes (some s) = .ok (decide (n ≤ bound)) := by
  rw [passes, max, Check.passes, Checks.isAtMost, Checks.measure_spelling spelled short]
  rfl

end FormRules.Rule.Token
