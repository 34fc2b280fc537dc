import FormRules.Proofs.Fieldwise
import FormRules.Proofs.Rendering

/-!
# Forms that are left blank

A field without a value fails the word `required` and nothing else, once for each time that its rule
says so. A field with the empty text also fails the bounds that the length zero does not meet.
-/

namespace FormRules

/-! ## Tokens on blank values -/

namespace Rule

/-- The checks that the empty text fails: its length is zero, and it spells no integer. -/
def Check.failsEmpty : Check → Bool
  | .required => true
  | .email => false
  | .min n => decide (0 < n)
  | .max n => decide (n < 0)

/-- A text asks for a value exactly if it is the word for that. -/
theorem Asks.required_iff {s : String} {kind : Kind} {parameter : Option Int} (asks : Asks s kind parameter) :
    kind = .required ↔ s = "required" := by
  constructor
  · rintro rfl
    cases asks with
    | required word => exact word
  · intro word
    exact (asks.unique (.required word)).1

namespace Token

theorem passes_none (token : Token) : token.passes none = .ok (decide (token.kind ≠ .required)) := by
  rw [passes, kind]
  cases token.check <;> rfl

theorem passes_empty (token : Token) : token.passes (some "") = .ok !token.check.failsEmpty := by
  have measured : Checks.measure "" = .ok 0 := rfl
  rw [passes]
  cases token.check with
  | required => rfl
  | email => rfl
  | min n =>
    rw [Check.passes, Checks.isAtLeast, measured]
    simp [Check.failsEmpty, bind, Except.bind, pure, Except.pure, ← decide_not]
  | max n =>
    rw [Check.passes, Checks.isAtMost, measured]
    simp [Check.failsEmpty, bind, Except.bind, pure, Except.pure, ← decide_not]

end Token

end Rule

/-- An absent field fails the pieces of its rule that are the word `required`. -/
theorem failing_none {rule : String} {field : Option String} {tokens : List Rule.Token}
    (parsed : Rule.parse rule field = .ok tokens) :
    failing none tokens = List.replicate ((Text.segments '|' rule).count "required") "required" := by
  have asked := Rule.isSegment_of_parse parsed
  have demands : ∀ token ∈ tokens,
      decide (token.passes none = .ok false) = (fun s => s == "required") token.source := by
    intro token member
    have word := (asked token member).asks.required_iff
    rw [Bool.eq_iff_iff]
    simp [Rule.Token.passes_none, word]
  have sources : tokens.map Rule.Token.source = Text.segments '|' rule := Rule.sources_of_parse parsed
  calc failing none tokens
      = (tokens.filter ((fun s => s == "required") ∘ Rule.Token.source)).map Rule.Token.source := by
        rw [failing, List.filter_congr demands]
        rfl
    _ = (tokens.map Rule.Token.source).filter fun s => s == "required" := List.filter_map.symm
    _ = _ := by rw [sources, List.filter_beq]

theorem failing_empty (tokens : List Rule.Token) :
    failing (some "") tokens =
      (tokens.filter fun token => token.check.failsEmpty).map Rule.Token.source := by
  rw [failing]
  refine congrArg _ (List.filter_congr fun token _ => ?_)
  simp [Rule.Token.passes_empty]

/-! ## Blank forms -/

/-- A target that has a value for every field, on which its tokens can be tried, is judged by the rules
of a mapping without a key twice, with the verdicts on these values. -/
theorem report_of_values (value : String → Option String) {rules : Value} {t : Target}
    {parsed : Fields (List Rule.Token)} {entries : List (Value × Value)} (mapping : rules.entries? = some entries)
    (distinct : Value.DistinctKeys entries) (reads : List.Forall₂ Reads entries parsed)
    (answers : ∀ field ∈ parsed.names, t.resolve field = .ok (value field))
    (convertible : ∀ entry ∈ parsed, Convertible (value entry.1) entry.2) :
    (validate rules t).outcome.1 = .ok ⟨Report.negative (verdicts value parsed)⟩ := by
  have each : List.Forall₂ (Judged t) entries (verdicts value parsed) := by
    clear mapping distinct
    induction reads with
    | nil => exact .nil
    | cons head _ ih =>
      obtain ⟨answer, laterAnswers⟩ := List.forall_mem_cons.mp answers
      obtain ⟨here, later⟩ := List.forall_mem_cons.mp convertible
      cases head with
      | entry named read => exact .cons (.entry named read (.judged answer here)) (ih laterAnswers later)
  exact report_of_judged mapping each (names_of_judged distinct each)

theorem verdicts_none {given : RuleSet} {parsed : Fields (List Rule.Token)}
    (reads : List.Forall₂ Reads (given.map RuleSet.asEntry) parsed) :
    verdicts (fun _ => none) parsed = given.map fun entry =>
      (entry.1, List.replicate ((Text.segments '|' entry.2).count "required") "required") := by
  induction given generalizing parsed with
  | nil =>
    cases reads
    rfl
  | cons entry rest ih =>
    obtain ⟨field, rule⟩ := entry
    cases reads with
    | cons head later =>
      cases head with
      | entry named read =>
        rw [verdicts, List.map_cons, List.map_cons, failing_none read]
        exact congrArg _ (ih later)

/-- A form without any value fails the fields whose rule has the word `required` among its pieces, each
with that word as often as it stands there. A form with the empty text in every field fails the tokens
`required`, the minima above zero and the maxima below zero. Both are judged whatever the rules are. -/
theorem validate_blank (rules : Value) (given : RuleSet) (t : Target) (parsed : Fields (List Rule.Token))
    (mapping : rules.entries? = some (given.map RuleSet.asEntry)) (distinct : rules.HasDistinctKeys)
    (accepted : RuleSet.parseValue rules = .ok parsed) :
    ((∀ field ∈ Fields.names given, t.resolve field = .ok none) →
      ∃ report, (validate rules t).outcome.1 = .ok report ∧
        report.failures =
          (given.filter fun entry => decide ("required" ∈ Text.segments '|' entry.2)).map fun entry =>
            (entry.1, List.replicate ((Text.segments '|' entry.2).count "required") "required")) ∧
    ((∀ field ∈ Fields.names given, t.resolve field = .ok (some "")) →
      ∃ report, (validate rules t).outcome.1 = .ok report ∧
        report.failures =
          Report.negative (parsed.map fun entry =>
            (entry.1, (entry.2.filter fun token => token.check.failsEmpty).map Rule.Token.source))) := by
  have reads := (parseValue_ok_iff_reads mapping parsed).mp accepted
  have names : Fields.names given = parsed.names := by
    rw [← names_verdicts (fun _ => none) parsed, verdicts_none reads]
    simp [Fields.names, Function.comp_def]
  have convertible {v : Option String} (short : ∀ s count, v = some s → ¬ Numeral.TooLong s count) :
      ∀ entry ∈ parsed, Convertible v entry.2 := fun _ _ _ => short
  rw [names]
  constructor
  · intro answers
    have absent : ∀ s count, (none : Option String) = some s → ¬ Numeral.TooLong s count := by
      intro s count impossible
      cases impossible
    refine ⟨_, report_of_values (fun _ => none) mapping (distinct _ mapping) reads answers
      (convertible absent), ?_⟩
    rw [verdicts_none reads, Report.negative, List.filter_map]
    refine congrArg (List.map _) (List.filter_congr fun entry _ => ?_)
    rw [Bool.eq_iff_iff]
    simp [List.count_eq_zero]
  · intro answers
    have short : ∀ s count, some "" = some s → ¬ Numeral.TooLong s count := by
      rintro s count ⟨⟩ ⟨digits, n, spelled, _⟩
      cases spelled with
      | plain row => exact row.1 rfl
    refine ⟨_, report_of_values (fun _ => some "") mapping (distinct _ mapping) reads answers
      (convertible short), ?_⟩
    simp only [verdicts, failing_empty]

/-- Rules with the word `required` alone and inside a name, and with bounds on either side of zero. -/
def blankRules : RuleSet :=
  [("name", "required|min:1|required"), ("code", "required_min:0|max:-1|min:2"), ("mail", "email|max:0")]

/-- The tokens that these rules are read as. -/
def blankTokens : Fields (List Rule.Token) := (RuleSet.parseValue blankRules.toValue).toOption.getD []

theorem validate_blank_rules :
    blankRules.toValue.HasDistinctKeys ∧ RuleSet.parseValue blankRules.toValue = .ok blankTokens ∧
      (∃ report, (validate blankRules.toValue (.source fun _ => .ok none)).outcome.1 = .ok report ∧
        report.failures = [("name", ["required", "required"])]) ∧
      ∃ report, (validate blankRules.toValue (.source fun _ => .ok (some ""))).outcome.1 = .ok report ∧
        report.failures = [("name", ["required", "min:1", "required"]), ("code", ["max:-1", "min:2"])] := by
  have distinct : blankRules.toValue.HasDistinctKeys := by
    rintro entries ⟨⟩
    decide
  have accepted : RuleSet.parseValue blankRules.toValue = .ok blankTokens := by decide +kernel
  obtain ⟨absent, _⟩ :=
    validate_blank blankRules.toValue blankRules (.source fun _ => .ok none) blankTokens rfl distinct accepted
  obtain ⟨_, empty⟩ :=
    validate_blank blankRules.toValue blankRules (.source fun _ => .ok (some "")) blankTokens rfl distinct accepted
  obtain ⟨report, ran, failures⟩ := absent fun _ _ => rfl
  obtain ⟨report', ran', failures'⟩ := empty fun _ _ => rfl
  exact ⟨distinct, accepted, ⟨report, ran, failures.trans (by decide +kernel)⟩,
    ⟨report', ran', failures'.trans (by decide +kernel)⟩⟩

end FormRules
