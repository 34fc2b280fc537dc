import FormRules.Proofs.NormalForm

/-!
# What the construction of tokens guarantees

A kind, a parameter of any type and a text make a token unless something is unfit about them, and a
token holds an integer exactly if it is a bound. An evaluator may take a token apart and trust its
parts: look the kind up in a table of trials, and use the parameter as a bound without a test. It is
stuck on a kind that is not listed and on a bound that is no integer. It never meets one of them in
the parts of a token, and then it comes to the verdict of the token.
-/

namespace FormRules.Rule

open Numeral (Overlong Unwritable)

namespace Token

/-- Why parts make no token. The kind is looked at first; a number is written only where a text is
missing. -/
inductive Unfit : GivenKind → Value → String → Misfit → Prop
  | kind {v parameter : Value} {source : String} : Unfit (.other v) parameter source (.notAKind v.typeName)
  | bound {kind : Kind} {parameter : Value} {source : String} (bounded : kind.hasParameter = true)
      (noInteger : ∀ n, parameter ≠ .int n) : Unfit (.kind kind) parameter source (.missingParameter kind)
  | keyword {kind : Kind} {parameter : Value} {source : String} (bare : kind.hasParameter = false)
      (given : parameter ≠ .null) : Unfit (.kind kind) parameter source (.extraParameter kind)
  | tooLong {kind : Kind} {n : Int} (bounded : kind.hasParameter = true) (long : Unwritable n) :
      Unfit (.kind kind) (.int n) "" (.overlong .number)

/-- What parts make: a token of just this kind and parameter, under the given text or, if none is
given, under the shortest. -/
structure MadeOf (given : GivenKind) (parameter : Value) (source : String) (token : Token) : Prop where
  kind : given = .kind token.kind
  parameter : parameter = token.parameter
  kept : source ≠ "" → token.source = source
  shortest : source = "" → token.check.source = .ok token.source

end Token

/-! ## An evaluator that trusts the parts -/

/-- The parts of a token: its kind, what stands as its parameter, and its text. -/
structure Parts where
  kind : Kind
  parameter : Value
  source : String

/-- The parts of a token. -/
def Token.parts (token : Token) : Parts := ⟨token.kind, token.parameter, token.source⟩

/-- Why a value is not judged. -/
inductive Stuck where
  /-- No trial is listed for the kind. -/
  | unlisted (kind : Kind)
  /-- The parameter is used as a bound and is no integer. -/
  | unbounded (parameter : Value)
  | overlong (refused : Overlong)

/-- How values are tried: alone, or against a bound. -/
inductive Trial where
  | alone (passes : Option String → Bool)
  | against (passes : Int → Option String → Except Overlong Bool)

/-- The table of trials by kind. -/
def trials : List (Kind × Trial) :=
  [(.required, .alone Checks.isPresent), (.email, .alone Checks.isEmail), (.min, .against Checks.isAtLeast),
    (.max, .against Checks.isAtMost)]

/-- The outcome of a trial. What is given as a bound is used as it is, and not looked at beforehand. -/
def Trial.run : Trial → Value → Option String → Except Stuck Bool
  | .alone passes, _, v => .ok (passes v)
  | .against passes, .int bound, v => (passes bound v).mapError .overlong
  | .against _, parameter, _ => .error (.unbounded parameter)

/-- Parts together with the trial that is listed for their kind. -/
structure Prepared where
  trial : Trial
  parts : Parts

/-- The text that a prepared rule goes by. -/
def Prepared.name (rule : Prepared) : String := rule.parts.source

/-- The verdict of a prepared rule on a value. -/
def Prepared.passes (rule : Prepared) (v : Option String) : Except Stuck Bool :=
  rule.trial.run rule.parts.parameter v

/-- A rule that may take the place of a token: it has its text and its verdicts, and nothing but the
length of a value can keep it from judging. -/
structure Prepared.StandsFor (rule : Prepared) (token : Token) : Prop where
  name : rule.name = token.source
  verdict : ∀ v, rule.passes v = (token.passes v).mapError .overlong
  unstuck : ∀ v stuck, rule.passes v = .error stuck → ∃ refused, stuck = .overlong refused

/-- The rule that parts give, if a trial is listed for their kind. -/
def Parts.prepare (parts : Parts) : Except Stuck Prepared :=
  match trials.lookup parts.kind with
  | none => .error (.unlisted parts.kind)
  | some trial => .ok ⟨trial, parts⟩

/-- The rules that rows of parts give, up to the first kind that is not listed. -/
def prepare (row : List Parts) : Except Stuck (List Prepared) := row.mapM Parts.prepare

/-! ## Making a token -/

theorem Kind.hasParameter_iff (kind : Kind) : kind.hasParameter = true ↔ kind = .min ∨ kind = .max := by
  cases kind <;> simp [hasParameter]

/-- Exactly the bounds have an integer. -/
theorem Check.hasParameter_iff (check : Check) :
    check.kind.hasParameter = true ↔ ∃ n, check.parameter? = some n := by
  cases check <;> simp [kind, Kind.hasParameter, parameter?]

theorem Check.exists_bound {kind : Kind} (bounded : kind.hasParameter = true) (n : Int) :
    ∃ check : Check, check.kind = kind ∧ check.parameter? = some n := by
  rcases kind.hasParameter_iff.mp bounded with rfl | rfl
  · exact ⟨.min n, rfl, rfl⟩
  · exact ⟨.max n, rfl, rfl⟩

theorem Check.source_error_iff (check : Check) (refused : Overlong) :
    check.source = .error refused ↔ ∃ n, check.parameter? = some n ∧ Unwritable n ∧ refused = .number := by
  cases bound : check.parameter? with
  | none => simp [source_of_keyword bound]
  | some n =>
    simp only [source_of_bound bound, Option.some.injEq, exists_eq_left', ← Numeral.write_error_iff]
    cases Numeral.write n <;> simp [Except.map]

namespace Token

theorem checkOf?_ok_iff (kind : Kind) (parameter : Value) (check : Check) :
    checkOf? kind parameter = .ok check ↔
      kind = check.kind ∧ parameter = check.parameter?.elim .null .int := by
  constructor
  · intro fits
    unfold checkOf? at fits
    split at fits <;> cases fits <;> exact ⟨rfl, rfl⟩
  · rintro ⟨rfl, rfl⟩
    cases check <;> rfl

theorem checkOf?_error_iff (kind : Kind) (parameter : Value) (misfit : Misfit) :
    checkOf? kind parameter = .error misfit ↔
      kind.hasParameter = true ∧ (∀ n, parameter ≠ .int n) ∧ misfit = .missingParameter kind ∨
        kind.hasParameter = false ∧ parameter ≠ .null ∧ misfit = .extraParameter kind := by
  unfold checkOf?
  split <;> simp_all [Kind.hasParameter, eq_comm]

theorem ofCheck_error_iff (check : Check) (refused : Overlong) :
    ofCheck check = .error refused ↔ check.source = .error refused := by
  unfold ofCheck
  split
  · rename_i s written
    simp [written]
  · rename_i refused' failed
    simp [failed]

theorem ofParts_given (kind : Kind) (parameter : Value) {source : String} (given : source ≠ "") :
    ofParts (.kind kind) parameter source = (checkOf? kind parameter).map fun check => ⟨check, source, given⟩ := by
  simp only [ofParts, given, ↓reduceDIte]
  cases checkOf? kind parameter <;> rfl

/-- Parts make a token exactly as its kind, its parameter and its text require. -/
theorem ofParts_ok_iff (given : GivenKind) (parameter : Value) (source : String) (token : Token) :
    ofParts given parameter source = .ok token ↔ MadeOf given parameter source token := by
  cases given with
  | other v => exact ⟨nofun, fun made => nomatch made.kind⟩
  | kind kind =>
    by_cases empty : source = ""
    · subst empty
      rw [ofParts_bare_ok_iff, checkOf?_ok_iff]
      constructor
      · rintro ⟨⟨rfl, rfl⟩, written⟩
        exact ⟨rfl, rfl, fun given => absurd rfl given, fun _ => written⟩
      · rintro ⟨⟨rfl⟩, rfl, -, shortest⟩
        exact ⟨⟨rfl, rfl⟩, shortest rfl⟩
    · rw [ofParts_given kind parameter empty]
      constructor
      · intro made
        cases fits : checkOf? kind parameter with
        | error misfit => rw [fits] at made; cases made
        | ok check =>
          obtain ⟨rfl, rfl⟩ := (checkOf?_ok_iff _ _ _).mp fits
          rw [fits] at made
          cases made
          exact ⟨rfl, rfl, fun _ => rfl, fun missing => absurd missing empty⟩
      · rintro ⟨⟨rfl⟩, rfl, kept, -⟩
        have same := kept empty
        subst same
        rw [checkOf?_parts]
        rfl

/-- Given a kind, parts are refused for it and their parameter, or else because a text is missing and
cannot be written. -/
theorem ofParts_kind_error_iff (kind : Kind) (parameter : Value) (source : String) (misfit : Misfit) :
    ofParts (.kind kind) parameter source = .error misfit ↔
      checkOf? kind parameter = .error misfit ∨
        source = "" ∧ ∃ check, checkOf? kind parameter = .ok check ∧
          ∃ refused, check.source = .error refused ∧ misfit = .overlong refused := by
  have unwritten (check : Check) : (ofCheck check).mapError Misfit.overlong = .error misfit ↔
      ∃ refused, check.source = .error refused ∧ misfit = .overlong refused := by
    simp only [← ofCheck_error_iff]
    cases ofCheck check <;> simp [Except.mapError, eq_comm]
  by_cases empty : source = ""
  · simp only [empty, ofParts_bare, Traversal.bind_error_iff, unwritten, true_and]
  · rw [ofParts_given kind parameter empty]
    simp only [empty, false_and, or_false]
    cases checkOf? kind parameter <;> simp [Except.map]

/-- Parts are refused exactly for what is unfit about them. -/
theorem ofParts_error_iff (given : GivenKind) (parameter : Value) (source : String) (misfit : Misfit) :
    ofParts given parameter source = .error misfit ↔ Unfit given parameter source misfit := by
  cases given with
  | other v =>
    constructor
    · intro failed
      cases failed
      exact .kind
    · rintro ⟨⟩
      rfl
  | kind kind =>
    rw [ofParts_kind_error_iff, checkOf?_error_iff]
    constructor
    · rintro ((⟨bounded, noInteger, rfl⟩ | ⟨bare, unneeded, rfl⟩) | ⟨rfl, check, fits, refused, unwritten, rfl⟩)
      · exact .bound bounded noInteger
      · exact .keyword bare unneeded
      · obtain ⟨n, bound, long, rfl⟩ := (Check.source_error_iff _ _).mp unwritten
        obtain ⟨rfl, rfl⟩ := (checkOf?_ok_iff _ _ _).mp fits
        rw [bound]
        exact .tooLong (check.hasParameter_iff.mpr ⟨n, bound⟩) long
    · intro unfit
      cases unfit with
      | bound bounded noInteger => exact .inl (.inl ⟨bounded, noInteger, rfl⟩)
      | keyword bare unneeded => exact .inl (.inr ⟨bare, unneeded, rfl⟩)
      | @tooLong _ n bounded long =>
        obtain ⟨check, rfl, bound⟩ := Check.exists_bound bounded n
        have fits : checkOf? check.kind (.int n) = .ok check := (checkOf?_ok_iff _ _ _).mpr ⟨rfl, by rw [bound]; rfl⟩
        have unwritten := (Check.source_error_iff _ _).mpr ⟨n, bound, long, rfl⟩
        exact .inr ⟨rfl, check, fits, _, unwritten, rfl⟩

end Token

/-! ## Trying the parts of a token -/

/-- A bound is tried on every value exactly if it is an integer. -/
theorem Trial.against_runs_iff (passes : Int → Option String → Except Overlong Bool) (parameter : Value) :
    (∀ v other, (Trial.against passes).run parameter v ≠ .error (.unbounded other)) ↔ ∃ n, parameter = .int n := by
  constructor
  · intro runs
    cases parameter with
    | int n => exact ⟨n, rfl⟩
    | _ => exact absurd rfl (runs none _)
  · rintro ⟨n, rfl⟩ v other
    rw [run]
    cases passes n v <;> nofun

theorem Prepared.StandsFor.of_verdict {rule : Prepared} {token : Token} (name : rule.name = token.source)
    (verdict : ∀ v, rule.passes v = (token.passes v).mapError .overlong) : rule.StandsFor token := by
  refine ⟨name, verdict, fun v stuck failed => ?_⟩
  rw [verdict v] at failed
  cases judged : token.passes v with
  | ok passed => rw [judged] at failed; cases failed
  | error refused =>
    rw [judged] at failed
    cases failed
    exact ⟨refused, rfl⟩

/-- The parts of a token are tried as the token is. -/
theorem Token.prepare_parts (token : Token) : ∃ rule, token.parts.prepare = .ok rule ∧ rule.StandsFor token := by
  obtain ⟨check, source, given⟩ := token
  cases check with
  | required => exact ⟨_, rfl, .of_verdict rfl fun _ => rfl⟩
  | email => exact ⟨_, rfl, .of_verdict rfl fun _ => rfl⟩
  | min n => exact ⟨_, rfl, .of_verdict rfl fun _ => rfl⟩
  | max n => exact ⟨_, rfl, .of_verdict rfl fun _ => rfl⟩

/-- Every kind is listed, so the only parts that an evaluator is stuck on are those of a bound without
an integer. -/
theorem Parts.runs_iff (parts : Parts) :
    (∃ rule, parts.prepare = .ok rule ∧ ∀ v parameter, rule.passes v ≠ .error (.unbounded parameter)) ↔
      (parts.kind.hasParameter = true → ∃ n, parts.parameter = .int n) := by
  obtain ⟨kind, parameter, source⟩ := parts
  have listed (trial : Trial) (found : trials.lookup kind = some trial) :
      (∃ rule, Parts.prepare ⟨kind, parameter, source⟩ = .ok rule ∧
          ∀ v other, rule.passes v ≠ .error (.unbounded other)) ↔
        ∀ v other, trial.run parameter v ≠ .error (.unbounded other) := by
    simp [prepare, found, Prepared.passes]
  cases kind with
  | required => exact (listed _ rfl).trans ⟨fun _ => nofun, fun _ _ _ => nofun⟩
  | email => exact (listed _ rfl).trans ⟨fun _ => nofun, fun _ _ _ => nofun⟩
  | min =>
    rw [listed _ rfl, Trial.against_runs_iff]
    exact ⟨fun bound _ => bound, fun bound => bound rfl⟩
  | max =>
    rw [listed _ rfl, Trial.against_runs_iff]
    exact ⟨fun bound _ => bound, fun bound => bound rfl⟩

/-- A row of tokens gives one rule for each, in order, under its text and with its verdicts. -/
theorem prepare_row (tokens : List Token) :
    ∃ rules, prepare (tokens.map Token.parts) = .ok rules ∧
      List.Forall₂ (fun token rule => rule.StandsFor token) tokens rules := by
  have ready : ∀ token ∈ tokens, ∃ rule, token.parts.prepare = .ok rule ∧ rule.StandsFor token :=
    fun token _ => token.prepare_parts
  obtain ⟨rules, each⟩ := Traversal.exists_forall₂ ready
  refine ⟨rules, ?_, each.imp fun _ _ prepared => prepared.2⟩
  rw [prepare, Traversal.mapM_ok_iff, List.forall₂_map_left_iff]
  exact each.imp fun _ _ prepared => prepared.1

namespace Token

theorem parameter_int_iff (token : Token) (n : Int) : token.parameter = .int n ↔ token.parameter? = some n := by
  unfold parameter
  cases token.parameter? <;> simp

theorem check_of_parts {one two : Token} (kinds : one.kind = two.kind) (parameters : one.parameter = two.parameter) :
    one.check = two.check := by
  have fits := checkOf?_parts two
  rw [← kinds, ← parameters, checkOf?_parts] at fits
  exact Except.ok.inj fits

theorem eq_iff_parts (one two : Token) :
    one = two ↔ one.kind = two.kind ∧ one.parameter = two.parameter ∧ one.source = two.source := by
  constructor
  · rintro rfl
    exact ⟨rfl, rfl, rfl⟩
  · rintro ⟨kinds, parameters, sources⟩
    exact ext_parts (check_of_parts kinds parameters) sources

theorem ofParts_of_parse {s : String} {field : Option String} {token : Token} (parsed : Token.parse s field = .ok token) :
    ofParts (.kind token.kind) token.parameter s = .ok token := by
  have source := source_parse parsed
  refine (ofParts_ok_iff _ _ _ _).mpr ⟨rfl, rfl, fun _ => source, fun empty => ?_⟩
  exact absurd (source.trans empty) token.source_ne

end Token

/-- Parts are refused exactly for what is unfit about them, and otherwise make a token with an integer
exactly for a bound and with a text, the given one if there is one. Every token that is read could be
made of its parts. A row of tokens gives one rule for each, in order, whose verdict is that of the token
on every value, so that no kind is found missing and no bound found to be no integer; parts of a bound
without an integer would run into that. Tokens are the same if their kinds, parameters and texts are,
and the first two decide every verdict. -/
theorem construction_suffices :
    (∀ given parameter source,
      (∀ misfit, Token.ofParts given parameter source = .error misfit ↔ Token.Unfit given parameter source misfit) ∧
      ∀ token, Token.ofParts given parameter source = .ok token ↔ Token.MadeOf given parameter source token) ∧
    (∀ token : Token,
      ((∃ n, token.parameter = .int n) ↔ token.kind = .min ∨ token.kind = .max) ∧ token.source ≠ "") ∧
    (∀ s field token, Token.parse s field = .ok token →
      Token.ofParts (.kind token.kind) token.parameter s = .ok token) ∧
    (∀ tokens : List Token, ∃ rules, prepare (tokens.map Token.parts) = .ok rules ∧
      List.Forall₂ (fun token rule => rule.StandsFor token) tokens rules) ∧
    (∀ parts : Parts,
      (∃ rule, parts.prepare = .ok rule ∧ ∀ v other, rule.passes v ≠ .error (.unbounded other)) ↔
        (parts.kind.hasParameter = true → ∃ n, parts.parameter = .int n)) ∧
    ∀ one two : Token,
      (one = two ↔ one.kind = two.kind ∧ one.parameter = two.parameter ∧ one.source = two.source) ∧
      (one.kind = two.kind → one.parameter = two.parameter → ∀ v, one.passes v = two.passes v) := by
  refine ⟨fun given parameter source => ⟨Token.ofParts_error_iff _ _ _, Token.ofParts_ok_iff _ _ _⟩,
    fun token => ⟨?_, token.source_ne⟩, fun s field token => Token.ofParts_of_parse, prepare_row, Parts.runs_iff,
    fun one two => ⟨Token.eq_iff_parts one two, fun kinds parameters v => ?_⟩⟩
  · simp only [Token.parameter_int_iff, ← Kind.hasParameter_iff]
    exact token.check.hasParameter_iff.symm
  · rw [Token.passes, Token.passes, Token.check_of_parts kinds parameters]

theorem construction_suffices_loose :
    Token.ofParts (.other (.text "min")) (.int 7) "min:7" = .error (.notAKind "str") ∧
      Token.ofParts (.kind .min) (.bool true) "min:1" = .error (.missingParameter .min) ∧
      Token.ofParts (.kind .email) (.int 3) "" = .error (.extraParameter .email) ∧
      Token.ofParts (.kind .min) (.int 7) "" = .ok tightMin ∧
      Token.parse "x_minmax:+007" none = .ok looseMin ∧
      Token.ofParts (.kind .min) (.int 7) "x_minmax:+007" = .ok looseMin ∧
      (∃ rules, prepare ([looseMin, tightMin].map Token.parts) = .ok rules ∧
        rules.map Prepared.name = ["x_minmax:+007", "min:7"]) ∧
      looseMin ≠ tightMin ∧ ∀ v, looseMin.passes v = tightMin.passes v := by
  obtain ⟨made, _, read, row, _, same⟩ := construction_suffices
  have written : tightMin.check.source = .ok "min:7" := by decide +kernel
  have parsed : Token.parse "x_minmax:+007" none = .ok looseMin := by decide +kernel
  obtain ⟨rules, prepared, stand⟩ := row [looseMin, tightMin]
  have names : rules.map Prepared.name = ["x_minmax:+007", "min:7"] := by
    cases stand with
    | cons first later =>
      cases later with
      | cons second rest =>
        cases rest
        rw [List.map_cons, List.map_cons, first.name, second.name]
        rfl
  refine ⟨((made _ _ _).1 _).mpr .kind, ((made _ _ _).1 _).mpr (.bound rfl nofun),
    ((made _ _ _).1 _).mpr (.keyword rfl nofun), ((made _ _ _).2 _).mpr ⟨rfl, rfl, nofun, fun _ => written⟩, parsed,
    read _ _ _ parsed, ⟨rules, prepared, names⟩, ?_, (same _ _).2 rfl rfl⟩
  rw [ne_eq, (same _ _).1]
  rintro ⟨_, _, sources⟩
  exact absurd sources (by decide)

end FormRules.Rule
