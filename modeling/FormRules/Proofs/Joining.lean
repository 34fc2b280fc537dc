import FormRules.Proofs.Composition
import FormRules.Proofs.Rendering

/-!
# Joining rule strings

The delimiter joins two rule strings to the one that asks for all that the first asks for and then
for all that the second does. So a field fails under both together whenever it fails under one of
them, and neither the order of tokens nor how often one stands there decides whether a field fails.
-/

namespace FormRules.Rule

theorem parse_append_iff (a b : String) (field : Option String) (tokens : List Token) :
    parse (a ++ "|" ++ b) field = .ok tokens ↔
      ∃ first second, parse a field = .ok first ∧ parse b field = .ok second ∧ tokens = first ++ second := by
  have joined : a ++ "|" ++ b = a ++ String.singleton delimiter ++ b := rfl
  simp only [parse_ok_iff, joined, Text.segments_append, Traversal.forall₂_append_left_iff]

/-- Tokens of a rule string, in any order and number, have a rule string. -/
theorem parse_rearranged {rule : String} {field : Option String} {tokens others : List Token}
    (parsed : parse rule field = .ok tokens) (same : ∀ token, token ∈ others ↔ token ∈ tokens) :
    parse (render others) field = .ok others := by
  obtain ⟨nonempty, segments, _⟩ := (parse_ok_iff_render rule field tokens).mp parsed
  refine (parse_ok_iff_render _ field others).mpr ⟨?_, fun token member => ?_, rfl⟩
  · rintro rfl
    obtain ⟨token, member⟩ := List.exists_mem_of_ne_nil tokens nonempty
    exact absurd ((same token).mpr member) List.not_mem_nil
  · exact segments token ((same token).mp member)

end FormRules.Rule

namespace FormRules

/-! ## Tokens that fail -/

section

variable {v : Option String} {first second : List Rule.Token}

theorem failing_append (v : Option String) (first second : List Rule.Token) :
    failing v (first ++ second) = failing v first ++ failing v second := by
  simp [failing]

theorem failing_ne_nil_iff (v : Option String) (tokens : List Rule.Token) :
    failing v tokens ≠ [] ↔ ∃ token ∈ tokens, token.passes v = .ok false := by
  simp [failing]

/-- Which tokens there are decides whether one of them fails. -/
theorem failing_ne_nil_congr (same : ∀ token, token ∈ first ↔ token ∈ second) :
    failing v first ≠ [] ↔ failing v second ≠ [] := by
  simp only [failing_ne_nil_iff, same]

end

/-- A rule that is given for a field is judged, and every report by rules that give it for the field
lists the texts for the field, and the field if there are any. -/
structure Reported (t : Target) (field rule : String) (texts : List String) : Prop where
  returns : ∃ report, Returns (.map .plain [(.text field, .text rule)]) t report
  listed : ∀ rules entries report, rules.entries? = some entries → Value.DistinctKeys entries →
    (.text field, .text rule) ∈ entries → Returns rules t report →
      (report.failures.get? field).getD [] = texts ∧ (field ∈ report.failedFields ↔ texts ≠ [])

/-- A field is among the failed ones where a rule for it is all that there is to judge by. -/
def FailsUnder (t : Target) (field rule : String) : Prop :=
  ∃ report, Returns (.map .plain [(.text field, .text rule)]) t report ∧ field ∈ report.failedFields

theorem Reported.failsUnder_iff {t : Target} {field rule : String} {texts : List String}
    (reported : Reported t field rule texts) : FailsUnder t field rule ↔ texts ≠ [] := by
  have alone (report : Report) (returned : Returns (.map .plain [(.text field, .text rule)]) t report) :
      field ∈ report.failedFields ↔ texts ≠ [] :=
    (reported.listed _ _ report rfl (List.pairwise_singleton _ _) List.mem_cons_self returned).2
  constructor
  · rintro ⟨report, returned, fails⟩
    exact (alone report returned).mp fails
  · intro filled
    obtain ⟨report, returned⟩ := reported.returns
    exact ⟨report, returned, (alone report returned).mpr filled⟩

theorem Judged.reported {t : Target} {field rule : String} {texts : List String}
    (judged : Judged t (.text field, .text rule) (field, texts)) : Reported t field rule texts := by
  constructor
  · have alone : (Value.map .plain [(.text field, .text rule)]).entries? = some [(.text field, .text rule)] := rfl
    exact ⟨_, validate_of_judged alone (.cons judged .nil)⟩
  · intro rules entries report mapping distinct member returned
    have found (others : List String) :
        report.failures.get? field = some others ↔ others ≠ [] ∧ others = texts := by
      obtain ⟨verdicts, each, names, rfl⟩ := verdicts_of_report mapping distinct returned
      -- the entry has a verdict in the report, and it has no other one
      obtain ⟨verdict, placed, judged'⟩ := Traversal.mem_left_of_forall₂ each member
      obtain rfl := judged.unique judged'
      have negative := names.sublist (Report.names_negative_sublist verdicts)
      rw [Fields.get?_eq_some_iff negative, Report.negative, List.mem_filter, and_comm]
      refine and_congr (by simp) ?_
      rw [← Fields.get?_eq_some_iff names, (Fields.get?_eq_some_iff names field texts).mpr placed]
      exact Option.some_inj.trans eq_comm
    have named : field ∈ report.failedFields ↔ texts ≠ [] := by
      rw [Report.failedFields, ← Fields.get?_isSome_iff, Option.isSome_iff_exists]
      simp [found]
    refine ⟨?_, named⟩
    cases here : report.failures.get? field with
    | some others => exact ((found others).mp here).2
    | none =>
      have none : ¬ texts ≠ [] := fun filled => by simp [(found texts).mpr ⟨filled, rfl⟩] at here
      exact (not_not.mp none).symm

/-! ## Rules of joined and of rearranged tokens -/

theorem reported_of_parse {t : Target} {field rule : String} {tokens : List Rule.Token} {v : Option String}
    (named : field ≠ "") (answer : t.resolve field = .ok v) (parsed : Rule.parse rule (some field) = .ok tokens)
    (tried : ∀ token ∈ tokens, ∃ passed, token.passes v = .ok passed) :
    Reported t field rule (failing v tokens) :=
  Judged.reported (.entry named parsed (.judged answer ((convertible_iff v tokens).mpr tried)))

/-- Two texts joined by the delimiter are a rule string exactly if both are, with the tokens of the
first and then those of the second. On a value on which all tokens can be tried, the joined rule is
reported with what the first fails and then what the second does. The tokens of a rule in another
order, or with some of them more than once, are a rule that fails exactly if the given one does. -/
theorem validate_joined_rules (a b : String) :
    (∀ field tokens, Rule.parse (a ++ "|" ++ b) field = .ok tokens ↔
      ∃ first second, Rule.parse a field = .ok first ∧ Rule.parse b field = .ok second ∧
        tokens = first ++ second) ∧
    ∀ t field v, field ≠ "" → t.resolve field = .ok v → ∀ first, Rule.parse a (some field) = .ok first →
      (∀ token ∈ first, ∃ passed, token.passes v = .ok passed) →
        Reported t field a (failing v first) ∧
        (∀ second, Rule.parse b (some field) = .ok second →
          (∀ token ∈ second, ∃ passed, token.passes v = .ok passed) →
            Reported t field b (failing v second) ∧
            Reported t field (a ++ "|" ++ b) (failing v first ++ failing v second) ∧
            (FailsUnder t field a → FailsUnder t field (a ++ "|" ++ b))) ∧
        ∀ others, (∀ token, token ∈ others ↔ token ∈ first) →
          Rule.parse (Rule.render others) (some field) = .ok others ∧
          Reported t field (Rule.render others) (failing v others) ∧
          (FailsUnder t field (Rule.render others) ↔ FailsUnder t field a) := by
  refine ⟨Rule.parse_append_iff a b, ?_⟩
  intro t field v named answer first parsed tried
  have alone := reported_of_parse named answer parsed tried
  refine ⟨alone, ?_, ?_⟩
  · intro second parsed' tried'
    have joined := (Rule.parse_append_iff a b (some field) _).mpr ⟨first, second, parsed, parsed', rfl⟩
    have together := reported_of_parse named answer joined (List.forall_mem_append.mpr ⟨tried, tried'⟩)
    rw [failing_append] at together
    refine ⟨reported_of_parse named answer parsed' tried', together, ?_⟩
    rw [alone.failsUnder_iff, together.failsUnder_iff]
    exact fun fails none => fails (List.append_eq_nil_iff.mp none).1
  · intro others same
    have rearranged := Rule.parse_rearranged parsed same
    have moved := reported_of_parse named answer rearranged fun token member => tried token ((same token).mp member)
    refine ⟨rearranged, moved, ?_⟩
    rw [moved.failsUnder_iff, alone.failsUnder_iff]
    exact failing_ne_nil_congr same

/-- A form with the same short text in all its fields. -/
def initials : Target := .source fun _ => .ok (some "ab")

/-- The minimum of four. -/
def atLeastFour : Rule.Token := ⟨.min 4, "min:4", by decide⟩

/-- The maximum of nine. -/
def atMostNine : Rule.Token := ⟨.max 9, "max:9", by decide⟩

/-- The maximum of one. -/
def atMostOne : Rule.Token := ⟨.max 1, "max:1", by decide⟩

theorem validate_joined_rules_initials :
    Rule.parse "min:4|max:9" (some "name") = .ok [atLeastFour, atMostNine] ∧
      Rule.parse "max:1|min:4" (some "name") = .ok [atMostOne, atLeastFour] ∧
      (∀ token ∈ [atLeastFour, atMostNine], ∃ passed, token.passes (some "ab") = .ok passed) ∧
      (∀ token ∈ [atMostOne, atLeastFour], ∃ passed, token.passes (some "ab") = .ok passed) ∧
      Reported initials "name" ("min:4|max:9" ++ "|" ++ "max:1|min:4") ["min:4", "max:1", "min:4"] ∧
      FailsUnder initials "name" (Rule.render [atMostNine, atLeastFour, atMostNine]) := by
  have first : Rule.parse "min:4|max:9" (some "name") = .ok [atLeastFour, atMostNine] := by decide +kernel
  have second : Rule.parse "max:1|min:4" (some "name") = .ok [atMostOne, atLeastFour] := by decide +kernel
  have tried : ∀ token ∈ [atLeastFour, atMostNine], ∃ passed, token.passes (some "ab") = .ok passed := by
    decide +kernel
  have tried' : ∀ token ∈ [atMostOne, atLeastFour], ∃ passed, token.passes (some "ab") = .ok passed := by
    decide +kernel
  have same (token) : token ∈ [atMostNine, atLeastFour, atMostNine] ↔ token ∈ [atLeastFour, atMostNine] := by
    simp only [List.mem_cons, List.not_mem_nil, or_false]
    tauto
  have fails : failing (some "ab") [atLeastFour, atMostNine] = ["min:4"] := by decide +kernel
  have fails' : failing (some "ab") [atMostOne, atLeastFour] = ["max:1", "min:4"] := by decide +kernel
  obtain ⟨_, judged⟩ := validate_joined_rules "min:4|max:9" "max:1|min:4"
  obtain ⟨alone, joined, rearranged⟩ := judged initials "name" (some "ab") (by decide) rfl _ first tried
  obtain ⟨_, together, _⟩ := joined _ second tried'
  obtain ⟨_, _, alike⟩ := rearranged _ same
  rw [fails, fails'] at together
  rw [fails] at alone
  exact ⟨first, second, tried, tried', together, alike.mpr (alone.failsUnder_iff.mpr (by decide))⟩

end FormRules
