import FormRules.Fields
import Mathlib.Data.List.Forall2

/-!
# Steps that may fail, one after the other

Rules are read, and fields are judged, entry by entry up to the first failure. A run gives the
result of every step, or else the failure of the first entry that has one.
-/

namespace FormRules.Traversal

variable {α β ε : Type}

/-- Two steps succeed exactly if the first does and the second does on its result. -/
theorem bind_ok_iff (first : Except ε α) (second : α → Except ε β) (b : β) :
    (first >>= second) = .ok b ↔ ∃ a, first = .ok a ∧ second a = .ok b := by
  cases first with
  | error e => exact ⟨nofun, fun ⟨_, impossible, _⟩ => nomatch impossible⟩
  | ok a => exact ⟨fun ran => ⟨a, rfl, ran⟩, fun ⟨_, same, ran⟩ => Except.ok.inj same ▸ ran⟩

/-- Two steps fail exactly as the first of them that fails. -/
theorem bind_error_iff (first : Except ε α) (second : α → Except ε β) (e : ε) :
    (first >>= second) = .error e ↔ first = .error e ∨ ∃ a, first = .ok a ∧ second a = .error e := by
  cases first with
  | error other =>
    constructor
    · intro same; exact .inl (congrArg _ (Except.error.inj same))
    · rintro (same | ⟨_, impossible, _⟩)
      · exact congrArg _ (Except.error.inj same)
      · cases impossible
  | ok a =>
    constructor
    · intro ran; exact .inr ⟨a, rfl, ran⟩
    · rintro (impossible | ⟨_, same, ran⟩)
      · cases impossible
      · exact Except.ok.inj same ▸ ran

theorem bind_error_iff_first {first : Except ε α} {second : α → Except ε β} {e : ε}
    (total : ∀ a, second a ≠ .error e) : (first >>= second) = .error e ↔ first = .error e := by
  rw [bind_error_iff]
  exact or_iff_left fun ⟨a, _, failed⟩ => total a failed

/-- Every entry of a list has a result. -/
def AllSucceed (step : α → Except ε β) (inputs : List α) : Prop :=
  ∀ a ∈ inputs, ∃ b, step a = .ok b

private theorem allSucceed_nil (step : α → Except ε β) : AllSucceed step [] :=
  fun _ member => absurd member List.not_mem_nil

/-- The first entry of a list that fails, between the entries before and after it. -/
structure FirstFailure (step : α → Except ε β) (inputs before : List α) (a : α) (after : List α)
    (e : ε) : Prop where
  place : inputs = before ++ a :: after
  earlier : AllSucceed step before
  failure : step a = .error e

private theorem mapM_nil_eq (step : α → Except ε β) : [].mapM step = .ok [] := rfl

private theorem mapM_cons_ok {step : α → Except ε β} {a : α} {b : β} (ran : step a = .ok b)
    (rest : List α) :
    (a :: rest).mapM step = (rest.mapM step).map (b :: ·) := by
  rw [List.mapM_cons, ran]
  cases rest.mapM step <;> rfl

private theorem mapM_cons_error {step : α → Except ε β} {a : α} {e : ε} (ran : step a = .error e)
    (rest : List α) : (a :: rest).mapM step = .error e := by
  rw [List.mapM_cons, ran]
  rfl

/-- A run gives results exactly when they are the results of its steps, in order. -/
theorem mapM_ok_iff (step : α → Except ε β) (inputs : List α) (outputs : List β) :
    inputs.mapM step = .ok outputs ↔ List.Forall₂ (fun a b => step a = .ok b) inputs outputs := by
  induction inputs generalizing outputs with
  | nil =>
    rw [mapM_nil_eq, List.forall₂_nil_left_iff]
    exact ⟨fun same => (Except.ok.inj same).symm, fun same => same ▸ rfl⟩
  | cons a rest ih =>
    cases ran : step a with
    | error e =>
      rw [mapM_cons_error ran]
      constructor
      · intro impossible; cases impossible
      · intro steps
        cases steps with
        | cons head tail => cases ran.symm.trans head
    | ok b =>
      rw [mapM_cons_ok ran]
      cases tailRun : rest.mapM step with
      | error e =>
        constructor
        · intro impossible; cases impossible
        · intro steps
          cases steps with
          | cons head tail => cases tailRun.symm.trans ((ih _).mpr tail)
      | ok bs =>
        constructor
        · intro same
          cases same
          exact .cons ran ((ih bs).mp tailRun)
        · intro steps
          cases steps with
          | cons head tail =>
            cases ran.symm.trans head
            cases tailRun.symm.trans ((ih _).mpr tail)
            rfl

theorem mapM_returns_iff (step : α → Except ε β) (inputs : List α) :
    (∃ outputs, inputs.mapM step = .ok outputs) ↔ AllSucceed step inputs := by
  induction inputs with
  | nil => exact ⟨fun _ => allSucceed_nil step, fun _ => ⟨[], rfl⟩⟩
  | cons a rest ih =>
    constructor
    · rintro ⟨outputs, ran⟩
      cases (mapM_ok_iff step _ _).mp ran with
      | cons head tail =>
        have later : AllSucceed step rest := ih.mp ⟨_, (mapM_ok_iff step _ _).mpr tail⟩
        intro x member
        rcases List.mem_cons.mp member with same | inRest
        · exact ⟨_, same ▸ head⟩
        · exact later x inRest
    · intro all
      obtain ⟨b, ran⟩ := all a (by simp)
      obtain ⟨bs, restRun⟩ := ih.mpr fun x member => all x (by simp [member])
      exact ⟨b :: bs, by rw [mapM_cons_ok ran, restRun]; rfl⟩

/-- A run fails exactly as the first of its entries that fails. -/
theorem mapM_error_iff (step : α → Except ε β) (inputs : List α) (e : ε) :
    inputs.mapM step = .error e ↔ ∃ before a after, FirstFailure step inputs before a after e := by
  constructor
  · intro failed
    induction inputs with
    | nil => cases failed
    | cons a rest ih =>
      cases ran : step a with
      | error first =>
        rw [mapM_cons_error ran] at failed
        cases failed
        exact ⟨[], a, rest, rfl, allSucceed_nil step, ran⟩
      | ok b =>
        rw [mapM_cons_ok ran] at failed
        cases restRun : rest.mapM step with
        | ok bs => rw [restRun] at failed; cases failed
        | error later =>
          rw [restRun] at failed
          cases failed
          obtain ⟨before, x, after, place, earlier, failure⟩ := ih restRun
          refine ⟨a :: before, x, after, by rw [place]; rfl, ?_, failure⟩
          intro y member
          rcases List.mem_cons.mp member with same | inBefore
          · exact ⟨b, same ▸ ran⟩
          · exact earlier y inBefore
  · rintro ⟨before, a, after, place, earlier, failure⟩
    subst place
    induction before with
    | nil => exact mapM_cons_error failure after
    | cons x before ih =>
      obtain ⟨b, ran⟩ := earlier x (by simp)
      rw [List.cons_append, mapM_cons_ok ran, ih fun y member => earlier y (by simp [member])]
      rfl

/-! ## Entries and their results -/

theorem mem_right_of_forall₂ {R : α → β → Prop} {inputs : List α} {outputs : List β}
    (steps : List.Forall₂ R inputs outputs) {b : β} (member : b ∈ outputs) : ∃ a ∈ inputs, R a b := by
  induction steps with
  | nil => cases member
  | cons head _ ih =>
    rcases List.mem_cons.mp member with rfl | later
    · exact ⟨_, List.mem_cons_self, head⟩
    · obtain ⟨a, inRest, holds⟩ := ih later
      exact ⟨a, List.mem_cons_of_mem _ inRest, holds⟩

theorem mem_left_of_forall₂ {R : α → β → Prop} {inputs : List α} {outputs : List β}
    (steps : List.Forall₂ R inputs outputs) {a : α} (member : a ∈ inputs) : ∃ b ∈ outputs, R a b :=
  mem_right_of_forall₂ steps.flip member

theorem forall₂_append_left_iff {R : α → β → Prop} {first second : List α} {outputs : List β} :
    List.Forall₂ R (first ++ second) outputs ↔
      ∃ front back, List.Forall₂ R first front ∧ List.Forall₂ R second back ∧ outputs = front ++ back := by
  constructor
  · intro steps
    induction first generalizing outputs with
    | nil => exact ⟨[], outputs, .nil, steps, rfl⟩
    | cons a rest ih =>
      cases steps with
      | cons head later =>
        obtain ⟨front, back, inFirst, inSecond, rfl⟩ := ih later
        exact ⟨_ :: front, back, .cons head inFirst, inSecond, rfl⟩
  · rintro ⟨front, back, inFirst, inSecond, rfl⟩
    exact List.rel_append inFirst inSecond

theorem exists_forall₂ {R : α → β → Prop} {inputs : List α} (each : ∀ a ∈ inputs, ∃ b, R a b) :
    ∃ outputs, List.Forall₂ R inputs outputs := by
  induction inputs with
  | nil => exact ⟨[], .nil⟩
  | cons a rest ih =>
    obtain ⟨⟨b, head⟩, later⟩ := List.forall_mem_cons.mp each
    obtain ⟨outputs, tail⟩ := ih later
    exact ⟨b :: outputs, .cons head tail⟩

/-! ## First entries with a property -/

/-- The first entry of a list that has a property. -/
def First (p : α → Prop) (inputs : List α) (a : α) : Prop :=
  ∃ before after, inputs = before ++ a :: after ∧ (∀ x ∈ before, ¬ p x) ∧ p a

theorem First.mem {p : α → Prop} {inputs : List α} {a : α} (first : First p inputs a) :
    a ∈ inputs ∧ p a := by
  obtain ⟨before, after, rfl, _, holds⟩ := first
  exact ⟨List.mem_append_right _ List.mem_cons_self, holds⟩

theorem first_cons_iff {p : α → Prop} {x a : α} {rest : List α} :
    First p (x :: rest) a ↔ p x ∧ a = x ∨ ¬ p x ∧ First p rest a := by
  constructor
  · rintro ⟨before, after, place, earlier, holds⟩
    cases before with
    | nil =>
      obtain ⟨rfl, -⟩ := List.cons.inj place
      exact .inl ⟨holds, rfl⟩
    | cons y before =>
      obtain ⟨rfl, inRest⟩ := List.cons.inj place
      obtain ⟨other, others⟩ := List.forall_mem_cons.mp earlier
      exact .inr ⟨other, before, after, inRest, others, holds⟩
  · rintro (⟨holds, rfl⟩ | ⟨other, before, after, rfl, others, holds⟩)
    · exact ⟨[], rest, rfl, fun _ member => absurd member List.not_mem_nil, holds⟩
    · exact ⟨x :: before, after, rfl, List.forall_mem_cons.mpr ⟨other, others⟩, holds⟩

theorem first_map_iff {γ : Type} {p : γ → Prop} {f : α → γ} {inputs : List α} {c : γ} :
    First p (inputs.map f) c ↔ ∃ a, First (fun x => p (f x)) inputs a ∧ f a = c := by
  induction inputs with
  | nil =>
    refine ⟨fun first => absurd first.mem.1 List.not_mem_nil, ?_⟩
    rintro ⟨a, first, _⟩
    exact absurd first.mem.1 List.not_mem_nil
  | cons x rest ih =>
    simp only [List.map_cons, first_cons_iff, ih]
    constructor
    · rintro (⟨holds, rfl⟩ | ⟨other, a, first, rfl⟩)
      · exact ⟨x, .inl ⟨holds, rfl⟩, rfl⟩
      · exact ⟨a, .inr ⟨other, first⟩, rfl⟩
    · rintro ⟨a, ⟨holds, rfl⟩ | ⟨other, first⟩, rfl⟩
      · exact .inl ⟨holds, rfl⟩
      · exact .inr ⟨other, a, first, rfl⟩

theorem exists_first {p : α → Prop} {inputs : List α} (some_has : ∃ a ∈ inputs, p a) :
    ∃ a, First p inputs a := by
  induction inputs with
  | nil =>
    obtain ⟨_, member, _⟩ := some_has
    cases member
  | cons x rest ih =>
    by_cases holds : p x
    · exact ⟨x, first_cons_iff.mpr (.inl ⟨holds, rfl⟩)⟩
    · obtain ⟨a, member, has⟩ := some_has
      rcases List.mem_cons.mp member with rfl | inRest
      · exact absurd has holds
      · obtain ⟨b, first⟩ := ih ⟨a, inRest, has⟩
        exact ⟨b, first_cons_iff.mpr (.inr ⟨holds, first⟩)⟩

/-- A run fails as the first entry with a property without which all entries succeed. -/
theorem mapM_error_of_first {step : α → Except ε β} {p : α → Prop} {inputs : List α} {a : α} {e : ε}
    (succeeds : ∀ x ∈ inputs, ¬ p x → ∃ b, step x = .ok b) (first : First p inputs a)
    (failure : step a = .error e) : inputs.mapM step = .error e := by
  obtain ⟨before, after, rfl, earlier, _⟩ := first
  refine (mapM_error_iff _ _ _).mpr ⟨before, a, after, rfl, ?_, failure⟩
  intro x member
  exact succeeds x (List.mem_append_left _ member) (earlier x member)

end FormRules.Traversal

namespace FormRules.Fields

variable {α β ε : Type}

/-- One step over a record keeps the name of its entry. -/
def entryStep (f : String → α → Except ε β) (entry : String × α) : Except ε (String × β) :=
  (f entry.1 entry.2).map (Prod.mk entry.1)

theorem traverse_eq_mapM (f : String → α → Except ε β) (fields : Fields α) :
    fields.traverse f = List.mapM (entryStep f) fields := by
  induction fields with
  | nil => rfl
  | cons entry rest ih =>
    obtain ⟨name, a⟩ := entry
    rw [traverse, ih, List.mapM_cons, entryStep]
    cases f name a <;> rfl

theorem entryStep_ok_iff (f : String → α → Except ε β) (entry : String × α) (result : String × β) :
    entryStep f entry = .ok result ↔ entry.1 = result.1 ∧ f entry.1 entry.2 = .ok result.2 := by
  cases ran : f entry.1 entry.2 with
  | error e => simp [entryStep, ran, Except.map]
  | ok b => simp [entryStep, ran, Except.map, Prod.ext_iff]

theorem entryStep_error {f : String → α → Except ε β} {entry : String × α} {e : ε}
    (failed : f entry.1 entry.2 = .error e) : entryStep f entry = .error e := by
  rw [entryStep, failed]
  rfl

/-- A run over a record gives a record of the same names with the results of its entries. -/
theorem traverse_ok_iff (f : String → α → Except ε β) (fields : Fields α) (results : Fields β) :
    fields.traverse f = .ok results ↔
      List.Forall₂ (fun entry result => entry.1 = result.1 ∧ f entry.1 entry.2 = .ok result.2)
        fields results := by
  rw [traverse_eq_mapM, Traversal.mapM_ok_iff]
  simp only [entryStep_ok_iff]

theorem names_traverse {f : String → α → Except ε β} {fields : Fields α} {results : Fields β}
    (ran : fields.traverse f = .ok results) : results.names = fields.names := by
  have steps := (traverse_ok_iff f fields results).mp ran
  clear ran
  induction steps with
  | nil => rfl
  | cons head _ ih => rw [names, List.map_cons, ← head.1]; exact congrArg _ ih

end FormRules.Fields
