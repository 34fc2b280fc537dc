import FormRules.Proofs.Report
import Mathlib.Data.List.Nodup

/-!
# Records looked up and changed

What a record has under a name, and what putting and erasing entries do to that and to the order of
the names. Where no name comes twice, the entries that can be looked up are all entries.
-/

namespace FormRules.Fields

variable {α : Type}

/-! ## Lookups -/

theorem mem_of_get? {name : String} {fields : Fields α} {a : α} (found : fields.get? name = some a) :
    (name, a) ∈ fields := by
  induction fields with
  | nil => cases found
  | cons entry rest ih =>
    rw [get?] at found
    split at found
    · rename_i same
      cases found
      cases same
      exact List.mem_cons_self
    · exact List.mem_cons_of_mem _ (ih found)

theorem get?_append (name : String) (fields others : Fields α) :
    get? name (fields ++ others) = (get? name fields).or (get? name others) := by
  induction fields with
  | nil => rfl
  | cons entry rest ih =>
    by_cases same : entry.1 = name
    · simp [get?, same]
    · simp [get?, same, ih]

theorem get?_eq_some_iff {fields : Fields α} (distinct : fields.names.Nodup) (name : String) (a : α) :
    get? name fields = some a ↔ (name, a) ∈ fields := by
  refine ⟨mem_of_get?, fun member => ?_⟩
  induction fields with
  | nil => cases member
  | cons entry rest ih =>
    obtain ⟨fresh, later⟩ := List.nodup_cons.mp distinct
    rcases List.mem_cons.mp member with rfl | inRest
    · simp [get?]
    · have differ : entry.1 ≠ name := fun same => fresh (same ▸ List.mem_map_of_mem inRest)
      rw [get?, if_neg differ]
      exact ih later inRest

theorem get?_isSome_iff (name : String) (fields : Fields α) :
    (get? name fields).isSome = true ↔ name ∈ fields.names := by
  induction fields with
  | nil => simp [get?]
  | cons entry rest ih =>
    by_cases same : entry.1 = name
    · simp [get?, same]
    · simp [get?, same, Ne.symm same, ih]

theorem get?_eq_none_iff (name : String) (fields : Fields α) :
    get? name fields = none ↔ name ∉ fields.names := by
  rw [← get?_isSome_iff, Bool.not_eq_true, Option.isSome_eq_false_iff, Option.isNone_iff_eq_none]

/-- Two records with the same names in the same order are equal if they have the same under every
name. -/
theorem ext_of_names {fields others : Fields α} (distinct : fields.names.Nodup)
    (names : fields.names = others.names) (same : ∀ name, fields.get? name = others.get? name) : fields = others := by
  induction fields generalizing others with
  | nil => exact (List.map_eq_nil_iff.mp names.symm).symm
  | cons entry rest ih =>
    obtain ⟨name, a⟩ := entry
    obtain ⟨fresh, later⟩ := List.nodup_cons.mp distinct
    cases others with
    | nil => cases names
    | cons other tail =>
      obtain ⟨name', b⟩ := other
      obtain ⟨rfl, namesLater⟩ : name = name' ∧ Fields.names rest = Fields.names tail := List.cons.inj names
      have value : a = b := by simpa [get?] using same name
      have sameLater : ∀ other, get? other rest = get? other tail := by
        intro other
        by_cases here : name = other
        · -- the name stands in no later entry of either record
          subst here
          have absent : name ∉ Fields.names tail := namesLater ▸ fresh
          rw [(get?_eq_none_iff name rest).mpr fresh, (get?_eq_none_iff name tail).mpr absent]
        · simpa [get?, here] using same other
      rw [value, ih later namesLater sameLater]

/-- The names of the entries that a filter leaves are those that can still be looked up. -/
theorem names_filter {fields : Fields α} (distinct : fields.names.Nodup) (p : String × α → Bool) :
    names (fields.filter p) = fields.names.filter fun name => (get? name (fields.filter p)).isSome := by
  induction fields with
  | nil => rfl
  | cons entry rest ih =>
    obtain ⟨fresh, later⟩ := List.nodup_cons.mp distinct
    -- no later entry has the name, so it can be looked up exactly if this entry is kept
    have gone : entry.1 ∉ names (rest.filter p) := fun member =>
      fresh ((List.Sublist.map Prod.fst List.filter_sublist).subset member)
    have others : ∀ name ∈ names rest,
        (get? name ((entry :: rest).filter p)).isSome = (get? name (rest.filter p)).isSome := by
      intro name member
      have differ : entry.1 ≠ name := fun same => fresh (same ▸ member)
      by_cases kept : p entry <;> simp [kept, get?, differ]
    have same := List.filter_congr others
    rw [names_cons, @List.filter_cons _ entry.1 (names rest), same, ← ih later]
    by_cases kept : p entry
    · simp [kept, get?]
    · have missing := (get?_eq_none_iff entry.1 _).mpr gone
      simp [kept, missing]

/-! ## Changes -/

theorem get?_alter_self (name : String) (change : Option α → α) (fields : Fields α) :
    (fields.alter name change).get? name = some (change (fields.get? name)) := by
  induction fields with
  | nil => simp [alter, get?]
  | cons entry rest ih =>
    by_cases here : entry.1 = name
    · simp [alter, get?, here]
    · simp [alter, get?, here, ih]

theorem get?_alter_of_ne {name other : String} (differ : other ≠ name) (change : Option α → α) (fields : Fields α) :
    (fields.alter name change).get? other = fields.get? other := by
  induction fields with
  | nil => simp [alter, get?, Ne.symm differ]
  | cons entry rest ih =>
    by_cases here : entry.1 = name
    · simp [alter, get?, here, Ne.symm differ]
    · simp [alter, get?, here, ih]

theorem get?_erase_of_ne {name other : String} (differ : other ≠ name) (fields : Fields α) :
    (fields.erase name).get? other = fields.get? other := by
  induction fields with
  | nil => rfl
  | cons entry rest ih =>
    by_cases here : entry.1 = name
    · have elsewhere : entry.1 ≠ other := fun same => differ (same.symm.trans here)
      simpa [erase, get?, here, Ne.symm differ] using ih
    · by_cases found : entry.1 = other
      · simp [erase, get?, found, differ]
      · simpa [erase, get?, here, found] using ih

theorem names_alter_of_mem {name : String} {fields : Fields α} (member : name ∈ fields.names)
    (change : Option α → α) : (fields.alter name change).names = fields.names := by
  induction fields with
  | nil => cases member
  | cons entry rest ih =>
    by_cases here : entry.1 = name
    · simp [alter, here]
    · have later : name ∈ names rest := (List.mem_cons.mp member).resolve_left (Ne.symm here)
      simp [alter, here, ih later]

theorem names_alter_of_not_mem {name : String} {fields : Fields α} (absent : name ∉ fields.names)
    (change : Option α → α) : (fields.alter name change).names = fields.names ++ [name] := by
  rw [alter_absent absent, names_append]
  rfl

theorem names_erase (name : String) (fields : Fields α) :
    (fields.erase name).names = fields.names.filter (· ≠ name) := by
  rw [erase, names, names, List.filter_map]
  congr 1
  exact List.filter_congr fun entry _ => by by_cases same : entry.1 = name <;> simp [same]

theorem nodup_alter {name : String} {fields : Fields α} (distinct : fields.names.Nodup) (change : Option α → α) :
    (fields.alter name change).names.Nodup := by
  by_cases member : name ∈ fields.names
  · rw [names_alter_of_mem member]
    exact distinct
  · rw [names_alter_of_not_mem member]
    exact List.Nodup.append distinct (by simp) (by simpa using member)

theorem nodup_erase {name : String} {fields : Fields α} (distinct : fields.names.Nodup) :
    (fields.erase name).names.Nodup := by
  rw [names_erase]
  exact distinct.filter _

theorem names_alter_others (name : String) (change : Option α → α) (fields : Fields α) :
    (fields.alter name change).names.filter (· ≠ name) = fields.names.filter (· ≠ name) := by
  by_cases member : name ∈ fields.names
  · rw [names_alter_of_mem member]
  · rw [names_alter_of_not_mem member, List.filter_append]
    simp

theorem names_erase_others (name : String) (fields : Fields α) :
    (fields.erase name).names.filter (· ≠ name) = fields.names.filter (· ≠ name) := by
  rw [names_erase, List.filter_filter]
  simp

end FormRules.Fields
