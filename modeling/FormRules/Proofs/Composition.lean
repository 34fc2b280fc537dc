import FormRules.Proofs.Fieldwise

/-!
# Rule sets compose

A rule set that puts two others together, one after the other, is judged exactly if both are, and it
reports what they report, one after the other. The order of the entries of a rule set decides in
which order failing fields are listed, and nothing else.
-/

namespace FormRules

/-- A target is judged by a rule set, with a report. -/
def Returns (rules : Value) (t : Target) (report : Report) : Prop := (validate rules t).outcome.1 = .ok report

/-- A target is not judged by what is offered as a rule set. -/
def Raises (rules : Value) (t : Target) : Prop := ∃ e, (validate rules t).outcome.1 = .error e

instance (rules : Value) (t : Target) (report : Report) : Decidable (Returns rules t report) :=
  inferInstanceAs (Decidable ((validate rules t).outcome.1 = .ok report))

section

variable {rules : Value} {entries : List (Value × Value)} {t : Target}

theorem raises_iff_not_returns : Raises rules t ↔ ¬ ∃ report, Returns rules t report := by
  unfold Raises Returns
  cases (validate rules t).outcome.1 <;> simp

theorem raises_iff (mapping : rules.entries? = some entries) :
    Raises rules t ↔ ∃ entry ∈ entries, ∀ verdict, ¬ Judged t entry verdict := by
  rw [raises_iff_not_returns]
  unfold Returns
  rw [validate_returns_iff_judged mapping]
  push Not
  rfl

theorem Report.negative_append (verdicts others : Fields (List String)) :
    negative (verdicts ++ others) = negative verdicts ++ negative others :=
  List.filter_append verdicts others

theorem returns_append {one two both : Value} {first second : List (Value × Value)}
    (inOne : one.entries? = some first) (inTwo : two.entries? = some second)
    (inBoth : both.entries? = some (first ++ second)) (distinct : Value.DistinctKeys (first ++ second))
    {report : Report} (returned : Returns both t report) :
    ∃ r₁ r₂, Returns one t r₁ ∧ Returns two t r₂ ∧ report.failures = r₁.failures ++ r₂.failures := by
  have each := (validate_returns_iff_judged inBoth).mp ⟨report, returned⟩
  obtain ⟨eachFirst, eachSecond⟩ := List.forall_mem_append.mp each
  obtain ⟨distinctFirst, distinctSecond, _⟩ := List.pairwise_append.mp distinct
  obtain ⟨r₁, returned₁⟩ := (validate_returns_iff_judged inOne).mpr eachFirst
  obtain ⟨r₂, returned₂⟩ := (validate_returns_iff_judged inTwo).mpr eachSecond
  obtain ⟨verdicts₁, judged₁, _, rfl⟩ := verdicts_of_report inOne distinctFirst returned₁
  obtain ⟨verdicts₂, judged₂, _, rfl⟩ := verdicts_of_report inTwo distinctSecond returned₂
  have judged : List.Forall₂ (Judged t) (first ++ second) (verdicts₁ ++ verdicts₂) :=
    List.rel_append judged₁ judged₂
  have whole := report_of_judged inBoth judged (names_of_judged distinct judged)
  refine ⟨_, _, returned₁, returned₂, ?_⟩
  rw [Except.ok.inj (Eq.trans returned.symm whole), Report.negative_append]

/-- The same entries in another order come to the same verdicts, which are listed in that order. -/
theorem returns_perm {shuffled : Value} {others : List (Value × Value)} (mapping : rules.entries? = some entries)
    (mapping' : shuffled.entries? = some others) (distinct : Value.DistinctKeys entries) (perm : others.Perm entries)
    {report : Report} (returned : Returns rules t report) :
    ∃ report', Returns shuffled t report' ∧ report'.failures.Perm report.failures ∧
      report'.failures.names.Nodup ∧ (report'.failedFields.map Value.text).Sublist (others.map Prod.fst) := by
  obtain ⟨verdicts, judged, names, rfl⟩ := verdicts_of_report mapping distinct returned
  obtain ⟨verdicts', judged', moved⟩ := List.perm_comp_forall₂ perm judged
  have names' : (Fields.names verdicts').Nodup := (moved.map Prod.fst).nodup_iff.mpr names
  have sublist : (Report.negative verdicts').names.Sublist (Fields.names verdicts') :=
    Report.names_negative_sublist verdicts'
  refine ⟨_, report_of_judged mapping' judged' names', moved.filter _, names'.sublist sublist, ?_⟩
  rw [keys_of_judged judged']
  exact sublist.map Value.text

end

/-- A rule set made of two with different fields raises exactly if one of them does, and else reports
what the first reports and then what the second does. A rule set in another order raises exactly if
it does in the first, and else reports the same fields with the same texts, in its own order. -/
theorem validate_composes {one two both : Value} {first second : List (Value × Value)}
    (inOne : one.entries? = some first) (inTwo : two.entries? = some second)
    (inBoth : both.entries? = some (first ++ second)) (distinct : Value.DistinctKeys (first ++ second))
    (t : Target) :
    (Raises both t ↔ Raises one t ∨ Raises two t) ∧
      (∀ report, Returns both t report → ∃ r₁ r₂, Returns one t r₁ ∧ Returns two t r₂ ∧
        report.failedFields = r₁.failedFields ++ r₂.failedFields ∧
        ∀ field, report.failures.get? field = (r₁.failures.get? field).or (r₂.failures.get? field)) ∧
      ∀ shuffled entries, shuffled.entries? = some entries → entries.Perm (first ++ second) →
        (Raises shuffled t ↔ Raises both t) ∧
          ∀ report, Returns both t report → ∃ report', Returns shuffled t report' ∧
            (∀ field, field ∈ report'.failedFields ↔ field ∈ report.failedFields) ∧
            (∀ field, report'.failures.get? field = report.failures.get? field) ∧
            (report'.failedFields.map Value.text).Sublist (entries.map Prod.fst) := by
  refine ⟨?_, ?_, ?_⟩
  · rw [raises_iff inOne, raises_iff inTwo, raises_iff inBoth]
    simp only [List.mem_append, or_and_right, exists_or]
  · intro report returned
    obtain ⟨r₁, r₂, returned₁, returned₂, failures⟩ := returns_append inOne inTwo inBoth distinct returned
    refine ⟨r₁, r₂, returned₁, returned₂, ?_, fun field => ?_⟩
    · rw [Report.failedFields, failures, Fields.names_append]
      rfl
    · rw [failures, Fields.get?_append]
  · intro shuffled entries mapping perm
    refine ⟨?_, fun report returned => ?_⟩
    · rw [raises_iff mapping, raises_iff inBoth]
      simp only [perm.mem_iff]
    · obtain ⟨report', returned', moved, names', order⟩ := returns_perm inBoth mapping distinct perm returned
      have names : report.failures.names.Nodup := (moved.map Prod.fst).nodup_iff.mp names'
      refine ⟨report', returned', fun field => (moved.map Prod.fst).mem_iff, fun field => ?_, order⟩
      ext texts
      rw [Fields.get?_eq_some_iff names', Fields.get?_eq_some_iff names, moved.mem_iff]

/-- Rules for the person who orders. -/
def personEntries : List (Value × Value) :=
  [(.text "name", .text "required|min:3"), (.text "mail", .text "email")]

/-- Rules for what is ordered, with more than one bound on a field. -/
def orderEntries : List (Value × Value) :=
  [(.text "pieces", .text "min:1|max:10|min:2"), (.text "note", .text "max:5")]

/-- An order by a person without a name. -/
def order : Target :=
  .mapping [(.text "mail", .text "ann@example.org"), (.text "pieces", .text "0"), (.text "note", .text "urgent")]

theorem validate_composes_order :
    Value.DistinctKeys (personEntries ++ orderEntries) ∧
      (∃ r₁ r₂, Returns (.map .plain personEntries) order r₁ ∧ Returns (.map .readOnly orderEntries) order r₂ ∧
        ["name", "pieces", "note"] = r₁.failedFields ++ r₂.failedFields) ∧
      ¬ Raises (.map .plain (orderEntries ++ personEntries)) order ∧
      ∃ report', Returns (.map .plain (orderEntries ++ personEntries)) order report' ∧
        report'.failures.get? "pieces" = some ["min:1", "min:2"] := by
  have distinct : Value.DistinctKeys (personEntries ++ orderEntries) := by decide
  have returned : Returns (.map .plain (personEntries ++ orderEntries)) order
      ⟨[("name", ["required"]), ("pieces", ["min:1", "min:2"]), ("note", ["max:5"])]⟩ := by decide +kernel
  have entries (kind : MapKind) (entries : List (Value × Value)) :
      (Value.map kind entries).entries? = some entries := rfl
  obtain ⟨_, reports, orders⟩ := validate_composes (entries .plain personEntries) (entries .readOnly orderEntries)
    (entries .plain (personEntries ++ orderEntries)) distinct order
  obtain ⟨r₁, r₂, returned₁, returned₂, fields, _⟩ := reports _ returned
  obtain ⟨raises, reordered⟩ := orders _ _ (entries .plain (orderEntries ++ personEntries)) List.perm_append_comm
  obtain ⟨report', returned', _, same, _⟩ := reordered _ returned
  refine ⟨distinct, ⟨r₁, r₂, returned₁, returned₂, fields⟩, ?_, report', returned', same "pieces"⟩
  rw [raises, raises_iff_not_returns]
  exact not_not.mpr ⟨_, returned⟩

end FormRules
