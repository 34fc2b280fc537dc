import FormRules.Proofs.Shapes
import FormRules.Session

/-!
# Edits of a session act locally

An edit of the form bears on the field of the edited key, and on the paths that begin with it and
are no keys of the form themselves. An edit of the rules bears on the field of the edited rule. All
other fields keep their values and their failing tokens, and they are listed in the same order.
Questions change nothing: in a run each is answered from the edits before it, whatever else was asked.
-/

namespace FormRules.Value

/-- The mapping that a record with different names makes has no key twice. -/
theorem distinct_ofFields {m : Fields Value} (distinct : m.names.Nodup) : (ofFields m).HasDistinctKeys := by
  intro entries mapping
  cases mapping
  refine List.pairwise_map.mpr ((List.pairwise_map.mp distinct).imp fun differ => ?_)
  simpa [sameKey] using differ

end FormRules.Value

namespace FormRules.Session

/-- The form of a session as a target. -/
def target (s : Session) : Target := .ofValue (.ofFields s.form)

/-- The value that a field has in the form of a session. -/
def value (s : Session) (field : String) : Except Fault (Option String) := s.target.resolve field

/-- A key of the form bears on a field: it is the field itself, or the field is a path and no key of
the form, and begins with it. -/
def Bears (s : Session) (key field : String) : Prop :=
  field = key ∨
    pathDelimiter ∈ field.toList ∧ field ∉ s.form.names ∧ (Target.steps field).head? = some key

/-- A change of what the form has under a key. -/
inductive Edit.ChangesForm (key : String) : Edit → Prop
  | set (v : Value) : ChangesForm key (.setValue key v)
  | drop : ChangesForm key (.dropValue key)

/-- A change of the rule of a field. -/
inductive Edit.ChangesRule (field : String) : Edit → Prop
  | set (rule : Value) : ChangesRule field (.setRule field rule)
  | drop : ChangesRule field (.dropRule field)

variable {s s' : Session} {e : Edit} {report report' : Report}

/-! ## What edits keep -/

theorem value_eq (s : Session) (field : String) :
    s.value field = .ok (((s.form.get? field).or
      (if pathDelimiter ∈ field.toList then Target.atPath? s.form (Target.steps field) else none)).bind Value.text?) := by
  rw [← Target.held?_entries]
  rfl

/-- A field on which a key does not bear has the same value in forms that differ under the key only. -/
theorem value_of_others {key field : String} (others : ∀ name, name ≠ key → s'.form.get? name = s.form.get? name)
    (spared : ¬ s.Bears key field) : s'.value field = s.value field := by
  obtain ⟨differ, shadowed⟩ := not_or.mp spared
  rw [value_eq, value_eq, others field differ]
  cases whole : s.form.get? field with
  | some v => rfl
  | none =>
    by_cases dotted : pathDelimiter ∈ field.toList
    · have absent : field ∉ s.form.names := by
        rw [← Fields.get?_isSome_iff, whole]
        simp
      -- of the form itself, a path asks for its first step only
      obtain ⟨first, rest, path⟩ := List.exists_cons_of_ne_nil (Text.segments_ne_nil pathDelimiter field)
      have other : first ≠ key := by
        rintro rfl
        exact shadowed ⟨dotted, absent, by rw [Target.steps, path]; rfl⟩
      have same : Target.atPath? s'.form (Target.steps field) = Target.atPath? s.form (Target.steps field) := by
        rw [Target.steps, path, Target.atPath?_cons, Target.atPath?_cons, others first other]
      rw [same]
    · simp [dotted]

theorem form_of_changesForm {key name : String} (changes : e.ChangesForm key) (differ : name ≠ key) :
    (s.edit e).form.get? name = s.form.get? name := by
  cases changes with
  | set v => exact Fields.get?_alter_of_ne differ _ _
  | drop => exact Fields.get?_erase_of_ne differ _

theorem rules_of_changesForm {key : String} (changes : e.ChangesForm key) : (s.edit e).rules = s.rules := by
  cases changes <;> rfl

theorem form_of_changesRule {field : String} (changes : e.ChangesRule field) : (s.edit e).form = s.form := by
  cases changes <;> rfl

theorem rule_of_changesRule {field other : String} (changes : e.ChangesRule field) (differ : other ≠ field) :
    (s.edit e).rules.get? other = s.rules.get? other := by
  cases changes with
  | set rule => exact Fields.get?_alter_of_ne differ _ _
  | drop => exact Fields.get?_erase_of_ne differ _

theorem names_of_changesRule {field : String} (changes : e.ChangesRule field) :
    (s.edit e).rules.names.filter (· ≠ field) = s.rules.names.filter (· ≠ field) := by
  cases changes with
  | set rule => exact Fields.names_alter_others _ _ _
  | drop => exact Fields.names_erase_others _ _

theorem distinct_edit (distinct : s.rules.names.Nodup) (e : Edit) : (s.edit e).rules.names.Nodup := by
  cases e with
  | setRule field rule => exact Fields.nodup_alter distinct _
  | dropRule field => exact Fields.nodup_erase distinct
  | setValue key v => exact distinct
  | dropValue key => exact distinct

/-! ## Looking up the reports of a session -/

theorem get?_validate_iff (distinct : s.rules.names.Nodup) (returned : s.validate = .ok report) (field : String)
    (texts : List String) :
    report.failures.get? field = some texts ↔
      texts ≠ [] ∧ ∃ rule, s.rules.get? field = some rule ∧ Judged s.target (.text field, rule) (field, texts) := by
  rw [get?_report_iff rfl (Value.distinct_ofFields distinct _ rfl) returned]
  refine and_congr_right fun _ => ⟨?_, ?_⟩
  · rintro ⟨entry, member, judged⟩
    obtain ⟨⟨name, rule⟩, named, rfl⟩ := List.mem_map.mp member
    have same : name = field := by cases judged; rfl
    subst same
    exact ⟨rule, (Fields.get?_eq_some_iff distinct _ _).mpr named, judged⟩
  · rintro ⟨rule, given, judged⟩
    exact ⟨_, List.mem_map.mpr ⟨_, (Fields.get?_eq_some_iff distinct _ _).mp given, rfl⟩, judged⟩

theorem failedFields_validate (distinct : s.rules.names.Nodup) (returned : s.validate = .ok report) :
    report.failedFields = s.rules.names.filter fun field => (report.failures.get? field).isSome := by
  refine failedFields_report ⟨_, rfl, ?_⟩ (Value.distinct_ofFields distinct) returned
  simp [Fields.names]

/-- A field with the same rule and the same value in two sessions fails the same tokens in both. -/
theorem get?_validate_congr (distinct : s.rules.names.Nodup) (distinct' : s'.rules.names.Nodup)
    (returned : s.validate = .ok report) (returned' : s'.validate = .ok report') {field : String}
    (rule : s'.rules.get? field = s.rules.get? field) (value : s'.value field = s.value field) :
    report'.failures.get? field = report.failures.get? field := by
  ext texts
  rw [get?_validate_iff distinct returned, get?_validate_iff distinct' returned', rule]
  have judged (given : Value) :
      Judged s'.target (.text field, given) (field, texts) ↔ Judged s.target (.text field, given) (field, texts) :=
    ⟨Judged.congr value, Judged.congr value.symm⟩
  simp only [judged]

/-- The fields that fail apart from one are listed in the order of their rules, whatever is known of
the one. -/
theorem filter_failedFields (distinct : s.rules.names.Nodup) (returned : s.validate = .ok report) {name : String}
    {failures : Fields (List String)}
    (same : ∀ field, field ≠ name → failures.get? field = report.failures.get? field) :
    (s.rules.names.filter (· ≠ name)).filter (fun field => (failures.get? field).isSome) =
      report.failedFields.filter (· ≠ name) := by
  rw [failedFields_validate distinct returned, List.filter_filter, List.filter_filter]
  refine List.filter_congr fun field _ => ?_
  by_cases here : field = name
  · simp [here]
  · simp [here, same field here]

/-! ## Runs -/

/-- The session after steps. -/
def after (s : Session) (steps : List Step) : Session :=
  steps.foldl (fun s step => (s.step step).1) s

/-- Whether a step is a change. -/
def Step.isEdit : Step → Bool
  | .edit _ => true
  | .ask _ => false

/-- An edit spares a field if it changes the rule of another one, or what the form has under a key
that does not bear on it. -/
inductive Edit.Spares (s : Session) (field : String) : Edit → Prop
  | form {e : Edit} {key : String} (changes : e.ChangesForm key) (spared : ¬ s.Bears key field) : Spares s field e
  | rule {e : Edit} {other : String} (changes : e.ChangesRule other) (differ : field ≠ other) : Spares s field e

/-- All edits among the steps of a session spare a field where they are made. -/
def Spared (field : String) : Session → List Step → Prop
  | _, [] => True
  | s, .edit e :: steps => e.Spares s field ∧ Spared field (s.edit e) steps
  | s, .ask _ :: steps => Spared field s steps

theorem edit_spares {field : String} (spares : e.Spares s field) :
    (s.edit e).rules.get? field = s.rules.get? field ∧ (s.edit e).value field = s.value field := by
  cases spares with
  | form changes spared =>
    refine ⟨by rw [rules_of_changesForm changes], ?_⟩
    exact value_of_others (fun _ differ => form_of_changesForm changes differ) spared
  | rule changes differ =>
    refine ⟨rule_of_changesRule changes differ, ?_⟩
    rw [value_eq, value_eq, form_of_changesRule changes]

theorem distinct_after (distinct : s.rules.names.Nodup) (steps : List Step) : (s.after steps).rules.names.Nodup := by
  induction steps generalizing s with
  | nil => exact distinct
  | cons step rest ih =>
    cases step with
    | edit e => exact ih (distinct_edit distinct e)
    | ask q => exact ih distinct

theorem after_spared {field : String} {steps : List Step} (spared : Spared field s steps) :
    (s.after steps).rules.get? field = s.rules.get? field ∧ (s.after steps).value field = s.value field := by
  induction steps generalizing s with
  | nil => exact ⟨rfl, rfl⟩
  | cons step rest ih =>
    cases step with
    | edit e =>
      obtain ⟨rule, value⟩ := edit_spares spared.1
      obtain ⟨rules, values⟩ := ih spared.2
      exact ⟨rules.trans rule, values.trans value⟩
    | ask q => exact ih (s := s) spared

/-- Questions leave no trace, whatever their answers are. -/
theorem after_edits (s : Session) (steps : List Step) : s.after steps = s.after (steps.filter Step.isEdit) := by
  induction steps generalizing s with
  | nil => rfl
  | cons step rest ih =>
    cases step with
    | edit e => exact ih (s.edit e)
    | ask q => exact ih s

theorem length_run (s : Session) (steps : List Step) : (s.run steps).length = steps.length := by
  induction steps generalizing s with
  | nil => rfl
  | cons step rest ih => rw [run, List.length_cons, ih, List.length_cons]

/-- What the steps of a run show is what they show one after the other from where the ones before them led. -/
theorem run_append (s : Session) (steps more : List Step) :
    s.run (steps ++ more) = s.run steps ++ (s.after steps).run more := by
  induction steps generalizing s with
  | nil => rfl
  | cons step rest ih =>
    rw [List.cons_append, run, run, List.cons_append, ih]
    rfl

/-- Wherever a question stands in a run, its answer is the one that the edits before it alone lead to. -/
theorem run_answers (s : Session) (steps rest : List Step) (q : Query) :
    (s.run (steps ++ .ask q :: rest))[steps.length]? =
      some (.answer ((s.after (steps.filter Step.isEdit)).answer q)) := by
  rw [run_append, List.getElem?_append_right (s.length_run steps).le, length_run, Nat.sub_self, ← after_edits]
  rfl

/-! ## Local changes -/

theorem get?_validate_edit (distinct : s.rules.names.Nodup) {field : String} (spares : e.Spares s field)
    (returned : s.validate = .ok report) (returned' : (s.edit e).validate = .ok report') :
    report'.failures.get? field = report.failures.get? field := by
  obtain ⟨rule, value⟩ := edit_spares spares
  exact get?_validate_congr distinct (distinct_edit distinct e) returned returned' rule value

theorem order_of_changesRule {name : String} (distinct : s.rules.names.Nodup) (changes : e.ChangesRule name)
    (returned : s.validate = .ok report) (returned' : (s.edit e).validate = .ok report') :
    report'.failedFields.filter (· ≠ name) = report.failedFields.filter (· ≠ name) :=
  calc report'.failedFields.filter (· ≠ name)
      = ((s.edit e).rules.names.filter (· ≠ name)).filter (fun field => (report'.failures.get? field).isSome) :=
        (filter_failedFields (distinct_edit distinct e) returned' fun _ _ => rfl).symm
    _ = (s.rules.names.filter (· ≠ name)).filter (fun field => (report'.failures.get? field).isSome) := by
        rw [names_of_changesRule changes]
    _ = report.failedFields.filter (· ≠ name) :=
        filter_failedFields distinct returned fun _ differ =>
          get?_validate_edit distinct (.rule changes differ) returned returned'

/-- A field whose rule is overwritten is listed where it was. -/
theorem order_of_overwritten {name : String} {rule : Value} (distinct : s.rules.names.Nodup)
    (member : name ∈ s.rules.names) (returned : s.validate = .ok report)
    (returned' : (s.edit (.setRule name rule)).validate = .ok report') :
    report'.failedFields.Sublist s.rules.names ∧
      ((name ∈ report'.failedFields ↔ name ∈ report.failedFields) → report'.failedFields = report.failedFields) := by
  have place : (s.edit (.setRule name rule)).rules.names = s.rules.names := Fields.names_alter_of_mem member _
  have listed := failedFields_validate (distinct_edit distinct _) returned'
  rw [place] at listed
  refine ⟨listed ▸ List.filter_sublist, fun alike => ?_⟩
  rw [listed, failedFields_validate distinct returned]
  refine List.filter_congr fun field _ => ?_
  by_cases here : field = name
  · subst here
    rw [Bool.eq_iff_iff, Fields.get?_isSome_iff, Fields.get?_isSome_iff]
    exact alike
  · rw [get?_validate_edit distinct (.rule (.set rule) here) returned returned']

theorem order_of_readded {name : String} {rule : Value} (distinct : s.rules.names.Nodup)
    (returned : s.validate = .ok report)
    (returned' : ((s.edit (.dropRule name)).edit (.setRule name rule)).validate = .ok report')
    (fails : name ∈ report'.failedFields) :
    report'.failedFields = report.failedFields.filter (· ≠ name) ++ [name] := by
  have dropped := distinct_edit distinct (.dropRule name)
  have distinct' := distinct_edit dropped (.setRule name rule)
  have place : ((s.edit (.dropRule name)).edit (.setRule name rule)).rules.names =
      s.rules.names.filter (· ≠ name) ++ [name] := by
    rw [← Fields.names_erase]
    refine Fields.names_alter_of_not_mem ?_ _
    change name ∉ (s.rules.erase name).names
    simp [Fields.names_erase]
  have others : ∀ field, field ≠ name → report'.failures.get? field = report.failures.get? field := by
    intro field differ
    obtain ⟨gone, value⟩ := edit_spares (s := s) (.rule .drop differ)
    obtain ⟨given, value'⟩ := edit_spares (s := s.edit (.dropRule name)) (.rule (.set rule) differ)
    exact get?_validate_congr distinct distinct' returned returned' (given.trans gone) (value'.trans value)
  have last : (report'.failures.get? name).isSome = true := (Fields.get?_isSome_iff _ _).mpr fails
  rw [failedFields_validate distinct' returned', place, List.filter_append, filter_failedFields distinct returned others]
  simp [last]

/-- An edit of the form leaves the value and the failing tokens of every field on which the key does
not bear. An edit of a rule leaves the failing tokens and the order of all other fields; a rule that
is overwritten keeps its place, and one that is dropped and given again comes last. Questions leave
the rules and the form, as steps are defined, and so in a run every question is answered from the edits
before it, whatever was asked in between; steps that all spare a field leave its value and its failing
tokens. -/
theorem edits_are_local (s : Session) (distinct : s.rules.names.Nodup) :
    (∀ e key field, Edit.ChangesForm key e → ¬ s.Bears key field →
        (s.edit e).value field = s.value field ∧
          ∀ report report', s.validate = .ok report → (s.edit e).validate = .ok report' →
            report'.failures.get? field = report.failures.get? field) ∧
      (∀ e name report report', Edit.ChangesRule name e → s.validate = .ok report →
        (s.edit e).validate = .ok report' →
          (∀ field, field ≠ name → report'.failures.get? field = report.failures.get? field) ∧
            report'.failedFields.filter (· ≠ name) = report.failedFields.filter (· ≠ name)) ∧
      (∀ name rule report report', name ∈ s.rules.names → s.validate = .ok report →
        (s.edit (.setRule name rule)).validate = .ok report' →
          report'.failedFields.Sublist s.rules.names ∧
            ((name ∈ report'.failedFields ↔ name ∈ report.failedFields) →
              report'.failedFields = report.failedFields)) ∧
      (∀ name rule report report', s.validate = .ok report →
        ((s.edit (.dropRule name)).edit (.setRule name rule)).validate = .ok report' →
          name ∈ report'.failedFields → report'.failedFields = report.failedFields.filter (· ≠ name) ++ [name]) ∧
      ∀ steps, s.after steps = s.after (steps.filter Step.isEdit) ∧
        (∀ q rest, (s.run (steps ++ .ask q :: rest))[steps.length]? =
          some (.answer ((s.after (steps.filter Step.isEdit)).answer q))) ∧
        ∀ field, Spared field s steps → (s.after steps).value field = s.value field ∧
          ∀ report report', s.validate = .ok report → (s.after steps).validate = .ok report' →
            report'.failures.get? field = report.failures.get? field := by
  refine ⟨?_, ?_, ?_, ?_, ?_⟩
  · intro e key field changes spared
    exact ⟨(edit_spares (.form changes spared)).2, fun _ _ => get?_validate_edit distinct (.form changes spared)⟩
  · intro e name report report' changes returned returned'
    exact ⟨fun field differ => get?_validate_edit distinct (.rule changes differ) returned returned',
      order_of_changesRule distinct changes returned returned'⟩
  · intro name rule report report' member returned returned'
    exact order_of_overwritten distinct member returned returned'
  · intro name rule report report' returned returned' fails
    exact order_of_readded distinct returned returned' fails
  · intro steps
    refine ⟨after_edits s steps, fun q rest => run_answers s steps rest q, fun field spared => ?_⟩
    obtain ⟨rule, value⟩ := after_spared spared
    exact ⟨value, fun report report' returned returned' =>
      get?_validate_congr distinct (distinct_after distinct steps) returned returned' rule value⟩

/-- A session with rules for two paths into a mapping and for a name. -/
def visit : Session where
  rules := [("address.zip", .text "min:4"), ("address.city", .text "required"), ("name", .text "required|min:3")]
  form := [("name", .text "Al"), ("address", .map .plain [(.text "city", .text "Leeds"), (.text "zip", .text "LS1")])]

theorem edits_are_local_visit :
    visit.rules.names.Nodup ∧
      visit.validate = .ok ⟨[("address.zip", ["min:4"]), ("name", ["min:3"])]⟩ ∧
      (∃ report', (visit.edit (.setValue "address.city" (.int 7))).validate = .ok report' ∧
        report'.failures.get? "address.city" = some ["required"] ∧
        (visit.edit (.setValue "address.city" (.int 7))).value "address.zip" = visit.value "address.zip" ∧
        report'.failures.get? "address.zip" = some ["min:4"]) ∧
      ∃ report', ((visit.edit (.dropRule "address.zip")).edit (.setRule "address.zip" (.text "max:2"))).validate =
          .ok report' ∧
        report'.failedFields = ["name", "address.zip"] := by
  have distinct : visit.rules.names.Nodup := by decide
  have before : visit.validate = .ok ⟨[("address.zip", ["min:4"]), ("name", ["min:3"])]⟩ := by decide +kernel
  have shadowed : (visit.edit (.setValue "address.city" (.int 7))).validate =
      .ok ⟨[("address.zip", ["min:4"]), ("address.city", ["required"]), ("name", ["min:3"])]⟩ := by decide +kernel
  have readded : ((visit.edit (.dropRule "address.zip")).edit (.setRule "address.zip" (.text "max:2"))).validate =
      .ok ⟨[("name", ["min:3"]), ("address.zip", ["max:2"])]⟩ := by decide +kernel
  have spared : ¬ visit.Bears "address.city" "address.zip" := by
    rintro (same | ⟨_, _, first⟩)
    · exact absurd same (by decide)
    · exact absurd first (by decide +kernel)
  obtain ⟨form, _, _, again, _⟩ := edits_are_local visit distinct
  obtain ⟨value, fails⟩ := form _ "address.city" "address.zip" (.set (.int 7)) spared
  refine ⟨distinct, before, ⟨_, shadowed, rfl, value, fails _ _ before shadowed⟩, _, readded, ?_⟩
  exact again "address.zip" (.text "max:2") _ _ before readded (by decide)

end FormRules.Session
