import FormRules.Proofs.Judgement

/-!
# What judging a form reports, asks for and refuses

The report of a judgement lists the failing fields in the order of the rule set, each with the texts
of all its failing tokens. The fields that were asked for are all of them after a report, none after
a rule set that is no rule set, and else those up to the one that failed. A target that answers for
every field is judged, unless a bound meets an integer text beyond the digit limit.
-/

namespace FormRules

open Numeral (Spelling TooLong digitLimit)

/-- The report of a judgement holds the failing fields in the order of the rule set, each once and
with the texts of all its failing tokens; it is valid if all tokens pass, and then no fields are
given as failed. -/
theorem validate_report (rules : Value) (t : Target) (parsed : Fields (List Rule.Token))
    (value : String → Option String) (distinct : rules.HasDistinctKeys)
    (accepted : RuleSet.parseValue rules = .ok parsed)
    (answers : ∀ entry ∈ parsed, t.resolve entry.1 = .ok (value entry.1))
    (convertible : ∀ entry ∈ parsed, Convertible (value entry.1) entry.2) :
    RuleSet.HasFields rules parsed.names ∧
      ∃ report, (validate rules t).outcome.1 = .ok report ∧
        report.failures = Report.negative (verdicts value parsed) ∧
        report.failedFields = report.failures.map Prod.fst ∧ report.failedFields.Nodup ∧
        report.failedFields.Sublist parsed.names ∧
        (report.isValid = true ↔ ∀ entry ∈ parsed, ∀ token ∈ entry.2, token.passes (value entry.1) = .ok true) ∧
        (failedFields? rules t).outcome.1 =
          .ok (if report.isValid = true then none else some report.failedFields) := by
  have fields := RuleSet.hasFields_parseValue accepted
  have ran := (outcome_iff accepted t _ _).mpr (course_judged answers convertible .empty)
  have names := names_verdicts value parsed
  have failures : (Report.addVerdicts .empty (verdicts value parsed)).failures =
      Report.negative (verdicts value parsed) :=
    Report.failures_addVerdicts (names ▸ fields.nodup distinct) fun _ _ => List.not_mem_nil
  have sublist : (Report.negative (verdicts value parsed)).names.Sublist parsed.names :=
    names ▸ Report.names_negative_sublist (verdicts value parsed)
  refine ⟨fields, _, congrArg Prod.fst ran, failures, rfl, ?_, ?_, ?_, ?_⟩
  · rw [Report.failedFields, failures]
    exact (fields.nodup distinct).sublist sublist
  · rw [Report.failedFields, failures]
    exact sublist
  · rw [Report.isValid, failures]
    exact isEmpty_negative_verdicts convertible
  · rw [Recording.outcome_eq, failedFields?, Recording.outcomeAfter_bind, ← Recording.outcome_eq, ran]
    rfl

/-- Rules with tokens of every kind, and with one given twice. -/
def signupRules : Value :=
  .map .plain [(.text "name", .text "required|min:3|required"), (.text "mail", .text "email"),
    (.text "age", .text "min:18|max:99|min:21")]

/-- The tokens of these rules. -/
def signupTokens : Fields (List Rule.Token) :=
  [("name", [⟨.required, "required", by decide⟩, ⟨.min 3, "min:3", by decide⟩,
      ⟨.required, "required", by decide⟩]),
    ("mail", [⟨.email, "email", by decide⟩]),
    ("age", [⟨.min 18, "min:18", by decide⟩, ⟨.max 99, "max:99", by decide⟩, ⟨.min 21, "min:21", by decide⟩])]

/-- The values of a form that was sent without a name. -/
def signupValue (field : String) : Option String :=
  if field = "mail" then some "ann@example.org" else if field = "age" then some "7" else none

theorem validate_report_signup :
    signupRules.HasDistinctKeys ∧ RuleSet.parseValue signupRules = .ok signupTokens ∧
      (∀ entry ∈ signupTokens, Convertible (signupValue entry.1) entry.2) ∧
      ∃ report, (validate signupRules (.source fun field => .ok (signupValue field))).outcome.1 = .ok report ∧
        report.failures = [("name", ["required", "required"]), ("age", ["min:18", "min:21"])] ∧
        report.isValid = false := by
  have distinct : signupRules.HasDistinctKeys := by
    rintro entries ⟨⟩
    decide
  have accepted : RuleSet.parseValue signupRules = .ok signupTokens := by decide +kernel
  have convertible : ∀ entry ∈ signupTokens, Convertible (signupValue entry.1) entry.2 := by decide +kernel
  obtain ⟨_, report, ran, failures, _⟩ :=
    validate_report signupRules (.source fun field => .ok (signupValue field)) signupTokens signupValue
      distinct accepted (fun _ _ => rfl) convertible
  have shown : report.failures = [("name", ["required", "required"]), ("age", ["min:18", "min:21"])] :=
    failures.trans (by decide +kernel)
  exact ⟨distinct, accepted, convertible, report, ran, shown, by rw [Report.isValid, shown]; rfl⟩

/-- Nothing is asked for before all rules are read; a report means that every field was asked for
once, in order; and a failure is that of the first field without a verdict, which is the last one
asked for. -/
theorem validate_trace (rules : Value) (t : Target) :
    (∀ e, RuleSet.parseValue rules = .error e → (validate rules t).outcome = (.error e, [])) ∧
      (∀ report asked, (validate rules t).outcome = (.ok report, asked) →
        RuleSet.HasFields rules asked ∧ (rules.HasDistinctKeys → asked.Nodup)) ∧
      ∀ parsed, RuleSet.parseValue rules = .ok parsed → RuleSet.HasFields rules parsed.names ∧
        ∀ e asked, (validate rules t).outcome = (.error e, asked) ↔
          ∃ before field tokens after, parsed = before ++ (field, tokens) :: after ∧
            asked = Fields.names before ++ [field] ∧
            (∀ entry ∈ before, ∃ texts, Verdict t entry.1 entry.2 (.ok texts)) ∧
            Verdict t field tokens (.error e) := by
  refine ⟨fun e rejected => outcome_rejected rejected t, ?_, ?_⟩
  · intro report asked ran
    cases accepted : RuleSet.parseValue rules with
    | error e => cases (outcome_rejected accepted t).symm.trans ran
    | ok parsed =>
      have course := (outcome_iff accepted t _ _).mp ran
      have fields : RuleSet.HasFields rules asked := by
        rw [course.returned.1]
        exact RuleSet.hasFields_parseValue accepted
      exact ⟨fields, fields.nodup⟩
  · intro parsed accepted
    refine ⟨RuleSet.hasFields_parseValue accepted, fun e asked => ⟨?_, ?_⟩⟩
    · intro ran
      exact ((outcome_iff accepted t _ _).mp ran).failed
    · rintro ⟨before, field, tokens, after, rfl, rfl, earlier, fails⟩
      exact (outcome_iff accepted t _ _).mpr (course_stopped earlier fails .empty)

/-- A form that cannot be asked for the mail. -/
def mailDown : Target :=
  .function fun field => if field = "mail" then .error ⟨.other "RuntimeError", "down"⟩ else .ok .null

theorem validate_trace_mailDown :
    (validate signupRules mailDown).outcome =
      (.error (.raised ⟨.other "RuntimeError", "down"⟩), ["name", "mail"]) := by
  obtain ⟨_, _, run⟩ := validate_trace signupRules mailDown
  obtain ⟨_, fails⟩ := run signupTokens (by decide +kernel)
  refine (fails _ _).mpr ⟨signupTokens.take 1, "mail", [⟨.email, "email", by decide⟩], signupTokens.drop 2,
    rfl, rfl, ?_, .raised rfl⟩
  intro entry member
  have answer : mailDown.resolve entry.1 = .ok none := by
    rw [List.mem_singleton.mp member]
    rfl
  exact ⟨_, .judged answer (by rintro _ _ _ ⟨⟩)⟩

/-- A target that answers for every field is judged exactly if no bound meets an integer text beyond
the digit limit, which is the only way to fail then; up to the limit, bounds are compared with the
integer that a text spells. -/
theorem validate_returns_iff (rules : Value) (t : Target) (parsed : Fields (List Rule.Token))
    (value : String → Option String) (accepted : RuleSet.parseValue rules = .ok parsed)
    (answers : ∀ entry ∈ parsed, t.resolve entry.1 = .ok (value entry.1)) :
    ((∃ report, (validate rules t).outcome.1 = .ok report) ↔
        ∀ entry ∈ parsed, Convertible (value entry.1) entry.2) ∧
      (∀ e, (validate rules t).outcome.1 = .error e →
        ∃ entry ∈ parsed, HasBound entry.2 ∧
          ∃ s count, value entry.1 = some s ∧ TooLong s count ∧ e = .overlong (.text count)) ∧
      ∀ entry ∈ parsed, ∀ token ∈ entry.2, ∀ s digits n, value entry.1 = some s →
        Spelling s.toList digits n → digits.length ≤ digitLimit → ∀ bound,
          (token.check = .min bound → token.passes (value entry.1) = .ok (decide (bound ≤ n))) ∧
          (token.check = .max bound → token.passes (value entry.1) = .ok (decide (n ≤ bound))) := by
  refine ⟨⟨?_, ?_⟩, ?_, ?_⟩
  · rintro ⟨report, ran⟩ entry member
    have course := (outcome_iff accepted t _ _).mp (Prod.ext ran rfl)
    obtain ⟨_, verdict⟩ := course.returned.2 entry member
    exact verdict.convertible (answers entry member)
  · intro convertible
    exact ⟨_, congrArg Prod.fst ((outcome_iff accepted t _ _).mpr (course_judged answers convertible .empty))⟩
  · intro e ran
    have course := (outcome_iff accepted t _ _).mp (Prod.ext ran rfl)
    obtain ⟨before, field, tokens, after, place, _, _, fails⟩ := course.failed
    have member : (field, tokens) ∈ parsed := by simp [place]
    have answer := answers (field, tokens) member
    refine ⟨(field, tokens), member, ?_⟩
    cases fails with
    | raised raised => cases answer.symm.trans raised
    | tooLong found bound long =>
      exact ⟨bound, _, _, Except.ok.inj (answer.symm.trans found), long, rfl⟩
  · intro entry _ token _ s digits n given spelled short bound
    rw [given]
    exact ⟨fun min => Rule.Token.passes_min min spelled short,
      fun max => Rule.Token.passes_max max spelled short⟩

/-- Rules for one number. -/
def positiveRules : Value := .map .plain [(.text "n", .text "min:1")]

/-- The tokens of these rules. -/
def positiveTokens : Fields (List Rule.Token) := [("n", [⟨.min 1, "min:1", by decide⟩])]

theorem validate_returns_iff_limit :
    RuleSet.parseValue positiveRules = .ok positiveTokens ∧
      ∃ report, (validate positiveRules (.source fun _ => .ok (some (ones 4300)))).outcome.1 = .ok report := by
  have accepted : RuleSet.parseValue positiveRules = .ok positiveTokens := by decide +kernel
  obtain ⟨returns, _, _⟩ := validate_returns_iff positiveRules (.source fun _ => .ok (some (ones 4300)))
    positiveTokens (fun _ => some (ones 4300)) accepted (fun _ _ => rfl)
  refine ⟨accepted, returns.mpr ?_⟩
  intro entry _ _ s count same long
  rw [← Option.some.inj same] at long
  exact absurd ((tooLong_ones_iff (by decide) count).mp long).2 (by decide)

/-- A form that answers for its field with 4301 ones. -/
def onesForm : Target := .mapping [(.text "n", .text (ones 4301))]

/-- This form is not judged, although it answers for every field. -/
theorem validate_fails_on_ones :
    RuleSet.parseValue positiveRules = .ok positiveTokens ∧ (∀ field, ∃ v, onesForm.resolve field = .ok v) ∧
      (validate positiveRules onesForm).outcome.1 = .error (.overlong (.text 4301)) := by
  have accepted : RuleSet.parseValue positiveRules = .ok positiveTokens := by decide +kernel
  have answer : onesForm.resolve "n" = .ok (some (ones 4301)) := rfl
  have bound : HasBound [⟨.min 1, "min:1", by decide⟩] := ⟨_, List.mem_cons_self, rfl⟩
  have long : TooLong (ones 4301) 4301 := (tooLong_ones_iff (by decide) 4301).mpr ⟨rfl, by decide⟩
  have course : Course onesForm .empty positiveTokens (.error (.overlong (.text 4301))) ["n"] :=
    .stopped (.tooLong answer bound long)
  exact ⟨accepted, fun _ => ⟨_, rfl⟩, congrArg Prod.fst ((outcome_iff accepted onesForm _ _).mpr course)⟩

end FormRules
