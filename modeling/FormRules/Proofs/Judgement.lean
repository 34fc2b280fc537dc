import FormRules.Proofs.Checks
import FormRules.Proofs.Report
import FormRules.Proofs.RuleSet
import FormRules.Validate

/-!
# How a form is judged

The course of a judgement, said without the run: a field by itself comes to a verdict, and a rule
set is judged field by field up to the first verdict that is a failure. Every run follows this
course and asks for the fields that it passes through, each once.
-/

namespace FormRules

open Numeral (TooLong)

/-! ## Verdicts on single fields -/

/-- Some token of a rule compares with a bound. -/
def HasBound (tokens : List Rule.Token) : Prop := ∃ token ∈ tokens, token.kind.hasParameter = true

/-- All tokens of a rule can be tried on a value. -/
def Convertible (v : Option String) (tokens : List Rule.Token) : Prop :=
  HasBound tokens → ∀ s count, v = some s → ¬ TooLong s count

/-- The texts of the tokens that a value fails, in rule order. -/
def failing (v : Option String) (tokens : List Rule.Token) : List String :=
  (tokens.filter fun token => decide (token.passes v = .ok false)).map Rule.Token.source

/-- The failing tokens of all fields, on the values that the fields have. -/
def verdicts (value : String → Option String) (fields : Fields (List Rule.Token)) : Fields (List String) :=
  fields.map fun entry => (entry.1, failing (value entry.1) entry.2)

theorem names_verdicts (value : String → Option String) (fields : Fields (List Rule.Token)) :
    (verdicts value fields).names = fields.names := by
  simp [verdicts, Fields.names]

/-- What a field comes to on a target: the texts of the tokens that its value fails, or the failure
that it ends in. -/
inductive Verdict (t : Target) (field : String) (tokens : List Rule.Token) :
    Except Failure (List String) → Prop
  | judged {v : Option String} (answer : t.resolve field = .ok v) (convertible : Convertible v tokens) :
      Verdict t field tokens (.ok (failing v tokens))
  | raised {fault : Fault} (answer : t.resolve field = .error fault) :
      Verdict t field tokens (.error (.raised fault))
  | tooLong {s : String} {count : Nat} (answer : t.resolve field = .ok (some s))
      (bound : HasBound tokens) (long : TooLong s count) :
      Verdict t field tokens (.error (.overlong (.text count)))

theorem Verdict.convertible {t : Target} {field : String} {tokens : List Rule.Token} {texts : List String}
    (verdict : Verdict t field tokens (.ok texts)) {v : Option String} (answer : t.resolve field = .ok v) :
    Convertible v tokens := by
  cases verdict with
  | judged answer' convertible =>
    cases answer.symm.trans answer'
    exact convertible

theorem verdict_total (t : Target) (field : String) (tokens : List Rule.Token) :
    ∃ result, Verdict t field tokens result := by
  cases answer : t.resolve field with
  | error fault => exact ⟨_, .raised answer⟩
  | ok v =>
    by_cases convertible : Convertible v tokens
    · exact ⟨_, .judged answer convertible⟩
    · simp only [Convertible, not_forall, not_not] at convertible
      obtain ⟨bound, s, count, rfl, long⟩ := convertible
      exact ⟨_, .tooLong answer bound long⟩

/-- Only a bound on an integer text beyond the digit limit keeps a token from being tried. -/
theorem convertible_iff (v : Option String) (tokens : List Rule.Token) :
    Convertible v tokens ↔ ∀ token ∈ tokens, ∃ passed, token.passes v = .ok passed := by
  constructor
  · intro convertible token member
    cases tried : token.passes v with
    | ok passed => exact ⟨passed, rfl⟩
    | error refused =>
      obtain ⟨bound, s, count, value, long, -⟩ := (Rule.Token.passes_error_iff token v refused).mp tried
      exact absurd long (convertible ⟨token, member, bound⟩ s count value)
  · rintro all ⟨token, member, bound⟩ s count value long
    obtain ⟨passed, tried⟩ := all token member
    have refused := (Rule.Token.passes_error_iff token v (.text count)).mpr
      ⟨bound, s, count, value, long, rfl⟩
    cases tried.symm.trans refused

instance (v : Option String) (tokens : List Rule.Token) : Decidable (Convertible v tokens) :=
  decidable_of_iff (∀ token ∈ tokens, token.passes v = .ok true ∨ token.passes v = .ok false) (by
    rw [convertible_iff]
    exact forall₂_congr fun token _ => by simp [Bool.exists_bool, or_comm])

private theorem failing_eq_nil_iff {v : Option String} {tokens : List Rule.Token}
    (convertible : Convertible v tokens) :
    failing v tokens = [] ↔ ∀ token ∈ tokens, token.passes v = .ok true := by
  rw [failing, List.map_eq_nil_iff, List.filter_eq_nil_iff]
  refine forall₂_congr fun token member => ?_
  obtain ⟨passed, tried⟩ := (convertible_iff v tokens).mp convertible token member
  cases passed <;> simp [tried]

/-- No verdict names a failure where all tokens of all fields can be tried and pass. -/
theorem isEmpty_negative_verdicts {value : String → Option String} {fields : Fields (List Rule.Token)}
    (convertible : ∀ entry ∈ fields, Convertible (value entry.1) entry.2) :
    (Report.negative (verdicts value fields)).isEmpty = true ↔
      ∀ entry ∈ fields, ∀ token ∈ entry.2, token.passes (value entry.1) = .ok true := by
  rw [List.isEmpty_iff, Report.negative, List.filter_eq_nil_iff, verdicts, List.forall_mem_map]
  refine forall₂_congr fun entry member => ?_
  rw [← failing_eq_nil_iff (convertible entry member)]
  simp

/-- Where all tokens can be tried, those that fail are recorded in rule order. -/
theorem judge_convertible {v : Option String} {tokens : List Rule.Token}
    (convertible : Convertible v tokens) (r : Report) (field : String) :
    r.judge field v tokens = .ok (r.addAll field (failing v tokens)) := by
  rw [convertible_iff] at convertible
  induction tokens generalizing r with
  | nil => rfl
  | cons token rest ih =>
    obtain ⟨⟨passed, tried⟩, later⟩ := List.forall_mem_cons.mp convertible
    rw [Report.judge, tried]
    cases passed with
    | true =>
      have same : failing v (token :: rest) = failing v rest := by simp [failing, tried]
      rw [same]
      exact ih later r
    | false =>
      have first : failing v (token :: rest) = token.source :: failing v rest := by simp [failing, tried]
      rw [first]
      exact ih later (r.add field token.source)

/-- The first comparison of a bound with a text that is too long ends the judgement. -/
theorem judge_tooLong {s : String} {count : Nat} {tokens : List Rule.Token} (bound : HasBound tokens)
    (long : TooLong s count) (r : Report) (field : String) :
    r.judge field (some s) tokens = .error (.overlong (.text count)) := by
  induction tokens generalizing r with
  | nil =>
    obtain ⟨_, member, _⟩ := bound
    cases member
  | cons token rest ih =>
    rw [Report.judge]
    cases tried : token.passes (some s) with
    | error refused =>
      obtain ⟨_, s', count', same, long', rfl⟩ := (Rule.Token.passes_error_iff token _ refused).mp tried
      cases same
      rw [long.count_unique long']
      rfl
    | ok passed =>
      -- a token that was tried is not the bound, whether it passed or not
      have later : HasBound rest := by
        obtain ⟨bounded, member, isBound⟩ := bound
        rcases List.mem_cons.mp member with rfl | inRest
        · have refused := (Rule.Token.passes_error_iff bounded (some s) (.text count)).mpr
            ⟨isBound, s, count, rfl, long, rfl⟩
          cases tried.symm.trans refused
        · exact ⟨bounded, inRest, isBound⟩
      exact ih later _

/-! ## Runs over the fields -/

/-- The course of a judgement: how it ends and which fields it asks for. -/
inductive Course (t : Target) :
    Report → Fields (List Rule.Token) → Except Failure Report → List String → Prop
  | done (r : Report) : Course t r [] (.ok r) []
  | stopped {r : Report} {field : String} {tokens : List Rule.Token} {rest : Fields (List Rule.Token)}
      {e : Failure} (verdict : Verdict t field tokens (.error e)) :
      Course t r ((field, tokens) :: rest) (.error e) [field]
  | next {r : Report} {field : String} {tokens : List Rule.Token} {rest : Fields (List Rule.Token)}
      {texts asked : List String} {result : Except Failure Report}
      (verdict : Verdict t field tokens (.ok texts))
      (later : Course t (r.addAll field texts) rest result asked) :
      Course t r ((field, tokens) :: rest) result (field :: asked)

/-- The outcome of a run that starts when some keys have been asked for. -/
def Recording.outcomeAfter {α : Type} (asked : List String) (run : Recording α) :
    Except Failure α × List String :=
  StateT.run (ExceptT.run run) asked

namespace Recording

variable {α β : Type}

theorem outcome_eq (run : Recording α) : run.outcome = run.outcomeAfter [] := rfl

theorem outcomeAfter_mk (result : Except Failure α) (asked : List String) :
    outcomeAfter asked (ExceptT.mk (pure result)) = (result, asked) := rfl

/-- Asking records the field, whether or not the target has an answer. -/
theorem outcomeAfter_ask (t : Target) (field : String) (asked : List String) :
    (ask t field).outcomeAfter asked = (Failure.ofReading (t.resolve field), asked ++ [field]) := rfl

/-- What follows a step goes on from its result and its record; after a failure nothing follows. -/
theorem outcomeAfter_bind (run : Recording α) (next : α → Recording β) (asked : List String) :
    (run >>= next).outcomeAfter asked =
      match run.outcomeAfter asked with
      | (.ok a, recorded) => (next a).outcomeAfter recorded
      | (.error e, recorded) => (.error e, recorded) := by
  change (ExceptT.bindCont next (run.outcomeAfter asked).1 : StateM (List String) _).run
    (run.outcomeAfter asked).2 = _
  rcases run.outcomeAfter asked with ⟨result, recorded⟩
  cases result with
  | ok a => rfl
  | error e => rfl

end Recording

/-- A field with a verdict is passed: it is recorded once, and its failures are. -/
theorem judgeFields_next {t : Target} {field : String} {tokens : List Rule.Token} {texts : List String}
    (verdict : Verdict t field tokens (.ok texts)) (r : Report) (rest : Fields (List Rule.Token))
    (asked : List String) :
    (judgeFields t r ((field, tokens) :: rest)).outcomeAfter asked =
      (judgeFields t (r.addAll field texts) rest).outcomeAfter (asked ++ [field]) := by
  cases verdict with
  | judged answer convertible =>
    rw [judgeFields, Recording.outcomeAfter_bind, Recording.outcomeAfter_ask, answer]
    simp only [Failure.ofReading]
    rw [Recording.outcomeAfter_bind, Recording.outcomeAfter_mk, judge_convertible convertible]

/-- A field without a verdict is recorded, too, and ends the run. -/
theorem judgeFields_stopped {t : Target} {field : String} {tokens : List Rule.Token} {e : Failure}
    (verdict : Verdict t field tokens (.error e)) (r : Report) (rest : Fields (List Rule.Token))
    (asked : List String) :
    (judgeFields t r ((field, tokens) :: rest)).outcomeAfter asked = (.error e, asked ++ [field]) := by
  rw [judgeFields, Recording.outcomeAfter_bind, Recording.outcomeAfter_ask]
  cases verdict with
  | raised answer => rw [answer]; rfl
  | tooLong answer bound long =>
    rw [answer]
    simp only [Failure.ofReading]
    rw [Recording.outcomeAfter_bind, Recording.outcomeAfter_mk, judge_tooLong bound long]

theorem course_total (t : Target) (r : Report) (fields : Fields (List Rule.Token)) :
    ∃ result asked, Course t r fields result asked := by
  induction fields generalizing r with
  | nil => exact ⟨.ok r, [], .done r⟩
  | cons entry rest ih =>
    obtain ⟨field, tokens⟩ := entry
    obtain ⟨verdict, comes⟩ := verdict_total t field tokens
    cases verdict with
    | error e => exact ⟨.error e, [field], .stopped comes⟩
    | ok texts =>
      obtain ⟨result, asked, later⟩ := ih (r.addAll field texts)
      exact ⟨result, field :: asked, .next comes later⟩

/-- Where every field has a value on which its tokens can be tried, the course passes through all
fields and ends in a report. -/
theorem course_judged {t : Target} {value : String → Option String} {fields : Fields (List Rule.Token)}
    (answers : ∀ entry ∈ fields, t.resolve entry.1 = .ok (value entry.1))
    (convertible : ∀ entry ∈ fields, Convertible (value entry.1) entry.2) (r : Report) :
    Course t r fields (.ok (r.addVerdicts (verdicts value fields))) fields.names := by
  induction fields generalizing r with
  | nil => exact .done r
  | cons entry rest ih =>
    have verdict : Verdict t entry.1 entry.2 (.ok (failing (value entry.1) entry.2)) :=
      .judged (answers entry List.mem_cons_self) (convertible entry List.mem_cons_self)
    exact .next verdict (ih (fun other member => answers other (List.mem_cons_of_mem entry member))
      (fun other member => convertible other (List.mem_cons_of_mem entry member)) _)

/-- The run ends and records as the course does. -/
theorem Course.runs {t : Target} {r : Report} {fields : Fields (List Rule.Token)}
    {result : Except Failure Report} {asked : List String} (course : Course t r fields result asked)
    (earlier : List String) : (judgeFields t r fields).outcomeAfter earlier = (result, earlier ++ asked) := by
  induction course generalizing earlier with
  | done r => rw [List.append_nil]; rfl
  | stopped verdict => exact judgeFields_stopped verdict _ _ earlier
  | next verdict _ ih =>
    rw [judgeFields_next verdict, ih, List.append_assoc]
    rfl

/-- A course that ends in a report has passed through all fields. -/
theorem Course.returned {t : Target} {r report : Report} {fields : Fields (List Rule.Token)}
    {asked : List String} (course : Course t r fields (.ok report) asked) :
    asked = fields.names ∧ ∀ entry ∈ fields, ∃ texts, Verdict t entry.1 entry.2 (.ok texts) := by
  -- the outcome is an index of the course, so it is a variable for the induction
  generalize ended : (Except.ok report : Except Failure Report) = result at course
  induction course with
  | done r => exact ⟨rfl, fun _ member => absurd member List.not_mem_nil⟩
  | stopped _ => cases ended
  | @next r field tokens rest texts asked result verdict later ih =>
    obtain ⟨names, each⟩ := ih ended
    exact ⟨by rw [names]; rfl, List.forall_mem_cons.mpr ⟨⟨texts, verdict⟩, each⟩⟩

/-- A course that ends in a failure has passed through the fields before the one that fails. -/
theorem Course.failed {t : Target} {r : Report} {fields : Fields (List Rule.Token)} {e : Failure}
    {asked : List String} (course : Course t r fields (.error e) asked) :
    ∃ before field tokens after, fields = before ++ (field, tokens) :: after ∧
      asked = Fields.names before ++ [field] ∧
      (∀ entry ∈ before, ∃ texts, Verdict t entry.1 entry.2 (.ok texts)) ∧
      Verdict t field tokens (.error e) := by
  generalize ended : (Except.error e : Except Failure Report) = result at course
  induction course with
  | done r => cases ended
  | @stopped r field tokens rest e' verdict =>
    cases ended
    exact ⟨[], field, tokens, rest, rfl, rfl, fun _ member => absurd member List.not_mem_nil, verdict⟩
  | @next r field tokens rest texts asked result verdict later ih =>
    obtain ⟨before, field', tokens', after, place, names, earlier, fails⟩ := ih ended
    refine ⟨(field, tokens) :: before, field', tokens', after, by rw [place]; rfl, by rw [names]; rfl, ?_, fails⟩
    intro entry member
    rcases List.mem_cons.mp member with rfl | inBefore
    · exact ⟨texts, verdict⟩
    · exact earlier entry inBefore

/-- A field that fails after fields with verdicts ends the course. -/
theorem course_stopped {t : Target} {before after : Fields (List Rule.Token)} {field : String}
    {tokens : List Rule.Token} {e : Failure}
    (earlier : ∀ entry ∈ before, ∃ texts, Verdict t entry.1 entry.2 (.ok texts))
    (fails : Verdict t field tokens (.error e)) (r : Report) :
    Course t r (before ++ (field, tokens) :: after) (.error e) (before.names ++ [field]) := by
  induction before generalizing r with
  | nil => exact .stopped fails
  | cons entry rest ih =>
    obtain ⟨texts, verdict⟩ := earlier entry List.mem_cons_self
    exact .next verdict (ih (fun other member => earlier other (List.mem_cons_of_mem entry member)) _)

/-- A value that is no rule set is refused before anything is asked for. -/
theorem outcome_rejected {rules : Value} {e : Failure} (rejected : RuleSet.parseValue rules = .error e)
    (t : Target) : (validate rules t).outcome = (.error e, []) := by
  rw [Recording.outcome_eq, validate, Recording.outcomeAfter_bind, Recording.outcomeAfter_mk, rejected]

/-- By the rules of an accepted value, a form is judged as its course from the empty report goes. -/
theorem outcome_iff {rules : Value} {parsed : Fields (List Rule.Token)}
    (accepted : RuleSet.parseValue rules = .ok parsed) (t : Target) (result : Except Failure Report)
    (asked : List String) :
    (validate rules t).outcome = (result, asked) ↔ Course t .empty parsed result asked := by
  have started : (validate rules t).outcome = (judgeFields t .empty parsed).outcomeAfter [] := by
    rw [Recording.outcome_eq, validate, Recording.outcomeAfter_bind, Recording.outcomeAfter_mk, accepted]
  constructor
  · intro ran
    obtain ⟨result', asked', course⟩ := course_total t .empty parsed
    cases (started.trans (course.runs [])).symm.trans ran
    exact course
  · intro course
    exact started.trans (course.runs [])

end FormRules
