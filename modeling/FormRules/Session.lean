import FormRules.Validate

/-!
# Sessions

A rule set and a form that are edited step by step and judged in between.
-/

namespace FormRules

/-- The rules and the form as they stand. -/
structure Session where
  rules : Fields Value
  form : Fields Value

namespace Session

/-- The session without rules and with an empty form. -/
def empty : Session := ⟨[], []⟩

/-- Changes to a session. -/
inductive Edit where
  | setRule (field : String) (rule : Value)
  | dropRule (field : String)
  | setValue (key : String) (v : Value)
  | dropValue (key : String)

/-- The session after a change. -/
def edit (s : Session) : Edit → Session
  | .setRule field rule => { s with rules := s.rules.put field rule }
  | .dropRule field => { s with rules := s.rules.erase field }
  | .setValue key v => { s with form := s.form.put key v }
  | .dropValue key => { s with form := s.form.erase key }

/-- Questions about a session. -/
inductive Query where
  | validate
  | failedFields
  | parse

/-- Answers to questions. -/
inductive Answer where
  | report (report : Report)
  | failedFields (fields : Option (List String))
  | parsed (rules : Fields (List Rule.Token))

/-- The report on the form by the rules. -/
def validate (s : Session) : Except Failure Report :=
  (FormRules.validate (.ofFields s.rules) (.ofValue (.ofFields s.form))).outcome.1

/-- The answer to a question. -/
def answer (s : Session) : Query → Except Failure Answer
  | .validate => return .report (← s.validate)
  | .failedFields => return .failedFields (← s.validate).failedFields?
  | .parse => return .parsed (← RuleSet.parseValue (.ofFields s.rules))

/-- A step of a session: a change or a question. -/
inductive Step where
  | edit (edit : Edit)
  | ask (query : Query)

/-- What a step shows: the rules after a change, the answer to a question. -/
inductive Outcome where
  | rules (rules : Fields Value)
  | answer (answer : Except Failure Answer)

/-- The session after a step and what the step shows; a question leaves the session as it is. -/
def step (s : Session) : Step → Session × Outcome
  | .edit e => (s.edit e, .rules (s.edit e).rules)
  | .ask q => (s, .answer (s.answer q))

/-- What the steps of a session show, one after the other. -/
def run (s : Session) : List Step → List Outcome
  | [] => []
  | step :: steps => (s.step step).2 :: (s.step step).1.run steps

end Session

end FormRules
