import FormRules.Report
import FormRules.RuleSet
import FormRules.Target

/-!
# Judging a form

All rules are read before any field is looked up. Then every field is asked of the target once, in
the order of the rule set, all its tokens are tried on the answer, and every token that it fails is
recorded. The first failure of a lookup or a check ends the run.
-/

namespace FormRules

/-- A run that may fail and keeps, also then, the keys that it has asked of the target. -/
abbrev Recording := ExceptT Failure (StateM (List String))

namespace Recording

/-- The outcome of a run and the keys it asked for. -/
def outcome {α : Type} (run : Recording α) : Except Failure α × List String :=
  StateT.run (ExceptT.run run) []

/-- Asks a target for a field. -/
def ask (t : Target) (field : String) : Recording (Option String) := do
  modify fun asked => asked ++ [field]
  ExceptT.mk (pure (Failure.ofReading (t.resolve field)))

end Recording

namespace Report

/-- Records every token of a field that its value fails. -/
def judge (field : String) (v : Option String) : Report → List Rule.Token → Except Failure Report
  | r, [] => .ok r
  | r, t :: tokens => do
    let passed ← Failure.ofNumeral (t.passes v)
    judge field v (if passed then r else r.add field t.source) tokens

end Report

/-- Judges the fields of a target one after the other. -/
def judgeFields (t : Target) : Report → Fields (List Rule.Token) → Recording Report
  | r, [] => pure r
  | r, (field, tokens) :: rest => do
    let v ← Recording.ask t field
    let r ← ExceptT.mk (pure (r.judge field v tokens))
    judgeFields t r rest

/-- Judges a target by a value that should be a rule set. -/
def validate (rules : Value) (t : Target) : Recording Report := do
  let parsed ← ExceptT.mk (pure (RuleSet.parseValue rules))
  judgeFields t Report.empty parsed

/-- The fields that fail, if any. -/
def failedFields? (rules : Value) (t : Target) : Recording (Option (List String)) := do
  let r ← validate rules t
  return r.failedFields?

end FormRules
