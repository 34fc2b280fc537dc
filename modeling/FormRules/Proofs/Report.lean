import FormRules.Report

/-!
# What reports hold after failures are recorded

The failures of one field, recorded one after the other, make one entry at the end of a report that
does not name the field yet. So the verdicts on fields with different names leave exactly the
entries of those that failed something, in order.
-/

namespace FormRules.Fields

variable {α : Type}

@[simp] theorem names_nil : names ([] : Fields α) = [] := rfl

@[simp] theorem names_cons (entry : String × α) (fields : Fields α) :
    names (entry :: fields) = entry.1 :: fields.names := rfl

@[simp] theorem names_append (fields others : Fields α) :
    names (fields ++ others) = fields.names ++ others.names := List.map_append

theorem alter_absent {name : String} {fields : Fields α} (absent : name ∉ fields.names)
    (change : Option α → α) : fields.alter name change = fields ++ [(name, change none)] := by
  induction fields with
  | nil => rfl
  | cons entry rest ih =>
    obtain ⟨n, a⟩ := entry
    simp only [names_cons, List.mem_cons, not_or] at absent
    rw [alter, if_neg (Ne.symm absent.1), ih absent.2]
    rfl

theorem alter_split {name : String} {before : Fields α} (absent : name ∉ before.names) (a : α)
    (change : Option α → α) (later : Fields α) :
    alter name change (before ++ (name, a) :: later) = before ++ (name, change (some a)) :: later := by
  induction before with
  | nil => simp [alter]
  | cons entry rest ih =>
    obtain ⟨n, b⟩ := entry
    simp only [names_cons, List.mem_cons, not_or] at absent
    rw [List.cons_append, alter, if_neg (Ne.symm absent.1), ih absent.2]
    rfl

end FormRules.Fields

namespace FormRules.Report

/-- Records that a field failed several tokens, one after the other. -/
def addAll (r : Report) (field : String) (tokens : List String) : Report :=
  tokens.foldl (fun r token => r.add field token) r

/-- Records the failures of several fields, one field after the other. -/
def addVerdicts (r : Report) (verdicts : Fields (List String)) : Report :=
  verdicts.foldl (fun r verdict => r.addAll verdict.1 verdict.2) r

/-- The verdicts that name a failure. -/
def negative (verdicts : Fields (List String)) : Fields (List String) :=
  verdicts.filter fun verdict => !verdict.2.isEmpty

theorem negative_cons (verdict : String × List String) (rest : Fields (List String)) :
    negative (verdict :: rest) = negative [verdict] ++ negative rest :=
  List.filter_append [verdict] rest

private theorem addAll_last {failures : Fields (List String)} {field : String}
    (absent : field ∉ failures.names) (earlier tokens : List String) :
    addAll ⟨failures ++ [(field, earlier)]⟩ field tokens =
      ⟨failures ++ [(field, earlier ++ tokens)]⟩ := by
  induction tokens generalizing earlier with
  | nil => simp [addAll]
  | cons token rest ih =>
    have added : add ⟨failures ++ [(field, earlier)]⟩ field token =
        ⟨failures ++ [(field, earlier ++ [token])]⟩ := by
      rw [add, Fields.alter_split absent]
      rfl
    rw [addAll, List.foldl_cons, added]
    exact (ih (earlier ++ [token])).trans (by simp)

/-- The failures of a field that is not named yet make one entry, if there are any. -/
theorem failures_addAll {r : Report} {field : String} (absent : field ∉ r.failedFields)
    (tokens : List String) :
    (r.addAll field tokens).failures = r.failures ++ negative [(field, tokens)] := by
  cases tokens with
  | nil => simp [addAll, negative]
  | cons token rest =>
    have first : r.add field token = ⟨r.failures ++ [(field, [token])]⟩ := by
      rw [add, Fields.alter_absent absent]
      rfl
    have later := addAll_last absent [token] rest
    rw [addAll, List.foldl_cons, first]
    exact (congrArg failures later).trans (by simp [negative])

theorem names_negative_sublist (verdicts : Fields (List String)) :
    (negative verdicts).names.Sublist verdicts.names :=
  List.Sublist.map _ List.filter_sublist

/-- Verdicts on different fields, none of them named yet, leave the entries of those that name a
failure. -/
theorem failures_addVerdicts {r : Report} {verdicts : Fields (List String)}
    (distinct : verdicts.names.Nodup) (absent : ∀ field ∈ verdicts.names, field ∉ r.failedFields) :
    (r.addVerdicts verdicts).failures = r.failures ++ negative verdicts := by
  induction verdicts generalizing r with
  | nil => simp [addVerdicts, negative]
  | cons verdict rest ih =>
    obtain ⟨field, tokens⟩ := verdict
    simp only [Fields.names_cons, List.nodup_cons] at distinct
    have first := failures_addAll (absent field (by simp)) tokens
    have later : ∀ other ∈ Fields.names rest, other ∉ (r.addAll field tokens).failedFields := by
      intro other member named
      rw [failedFields, first, Fields.names_append, List.mem_append] at named
      rcases named with before | new
      · exact absent other (by simp [member]) before
      · have same : other = field := by
          simpa using (names_negative_sublist [(field, tokens)]).subset new
        exact distinct.1 (same ▸ member)
    have restAdded : (addVerdicts (r.addAll field tokens) rest).failures =
        (r.addAll field tokens).failures ++ negative rest := ih distinct.2 later
    calc (r.addVerdicts ((field, tokens) :: rest)).failures
        = (addVerdicts (r.addAll field tokens) rest).failures := rfl
      _ = r.failures ++ (negative [(field, tokens)] ++ negative rest) := by
        rw [restAdded, first, List.append_assoc]
      _ = r.failures ++ negative ((field, tokens) :: rest) := by rw [← negative_cons]

end FormRules.Report
