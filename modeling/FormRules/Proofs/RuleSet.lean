import FormRules.Proofs.Traversal
import FormRules.RuleSet
import FormRules.Value.Key

/-!
# The fields of a rule set

A mapping has no key twice, and a value that is accepted as a rule set is such a mapping of texts to
texts. Reading its rules keeps its fields and their order, so no field of it is read twice.
-/

namespace FormRules.Value

/-- No two entries have the same key. -/
def DistinctKeys (entries : List (Value × Value)) : Prop :=
  entries.Pairwise fun one two => one.1.sameKey two.1 = false

instance (entries : List (Value × Value)) : Decidable (DistinctKeys entries) :=
  inferInstanceAs (Decidable (entries.Pairwise fun one two => one.1.sameKey two.1 = false))

/-- A value that, if it is a mapping, has no key twice. -/
def HasDistinctKeys (v : Value) : Prop :=
  ∀ entries, v.entries? = some entries → DistinctKeys entries

end FormRules.Value

namespace FormRules.RuleSet

/-- The field names of a rule set: its keys, in order. -/
def HasFields (rules : Value) (names : List String) : Prop :=
  ∃ entries, rules.entries? = some entries ∧ entries.map Prod.fst = names.map Value.text

theorem HasFields.nodup {rules : Value} {names : List String} (fields : HasFields rules names)
    (distinct : rules.HasDistinctKeys) : names.Nodup := by
  obtain ⟨entries, mapping, keys⟩ := fields
  have separate : (names.map Value.text).Pairwise fun one two => one.sameKey two = false :=
    keys ▸ List.pairwise_map.mpr (distinct entries mapping)
  refine (List.pairwise_map.mp separate).imp ?_
  rintro name _ differ rfl
  simp [Value.sameKey] at differ

theorem entryError_ne_ok (defect : String → Defect) (key : Value) (entry : String × String) :
    entryError defect key ≠ .ok entry := by
  unfold entryError
  cases Failure.ofNumeral key.display with
  | error e => nofun
  | ok field =>
    cases Failure.ofNumeral key.literal with
    | error e => nofun
    | ok shown => nofun

/-- An entry is accepted exactly if it is a text and a text that is not empty. -/
theorem ofEntry_ok_iff (entry : Value × Value) (field rule : String) :
    ofEntry entry = .ok (field, rule) ↔ entry = (.text field, .text rule) ∧ rule ≠ "" := by
  unfold ofEntry
  split
  · rename_i f r
    by_cases empty : r = ""
    · rw [if_pos empty]
      refine ⟨fun ok => absurd ok (entryError_ne_ok _ _ _), ?_⟩
      rintro ⟨⟨rfl, rfl⟩, given⟩
      exact absurd empty given
    · rw [if_neg empty]
      simp only [Except.ok.injEq, Prod.mk.injEq, Value.text.injEq, iff_self_and]
      rintro ⟨rfl, rfl⟩
      exact empty
  · rename_i f v notText
    refine ⟨fun ok => absurd ok (entryError_ne_ok _ _ _), ?_⟩
    rintro ⟨same, _⟩
    exact absurd (Prod.mk.inj same).2 (notText rule)
  · rename_i key v _ notText
    refine ⟨fun ok => absurd ok (entryError_ne_ok _ _ _), ?_⟩
    rintro ⟨same, _⟩
    exact absurd (Prod.mk.inj same).1 (notText field)

/-- The entry of a field and its rule. -/
def asEntry (named : String × String) : Value × Value := (.text named.1, .text named.2)

theorem entries_of_checked {entries : List (Value × Value)} {rules : RuleSet}
    (checked : entries.mapM ofEntry = .ok rules) :
    entries = rules.map asEntry := by
  have steps := (Traversal.mapM_ok_iff _ _ _).mp checked
  clear checked
  induction steps with
  | nil => rfl
  | cons head _ ih =>
    obtain ⟨shape, _⟩ := (ofEntry_ok_iff _ _ _).mp head
    simpa [asEntry, shape] using ih

theorem ofValue_mapping {v : Value} {entries : List (Value × Value)} (mapping : v.entries? = some entries) :
    ofValue v = entries.mapM ofEntry >>= fun rules =>
      if "" ∈ Fields.names rules then .error (.config (.general .emptyFieldName)) else .ok rules := by
  simp only [ofValue, mapping]
  refine bind_congr fun rules => ?_
  split <;> rfl

/-- A value is accepted as a rule set only if it is a mapping with the entries of that rule set. -/
theorem entries_ofValue {v : Value} {rules : RuleSet} (accepted : ofValue v = .ok rules) :
    v.entries? = some (rules.map asEntry) := by
  cases mapping : v.entries? with
  | none =>
    rw [ofValue, mapping] at accepted
    cases accepted
  | some entries =>
    rw [ofValue_mapping mapping, Traversal.bind_ok_iff] at accepted
    obtain ⟨checked, read, named⟩ := accepted
    split at named
    · cases named
    · cases named
      rw [entries_of_checked read]

theorem parseValue_ok_iff (v : Value) (parsed : Fields (List Rule.Token)) :
    parseValue v = .ok parsed ↔ ∃ rules, ofValue v = .ok rules ∧ parse rules = .ok parsed :=
  Traversal.bind_ok_iff _ _ _

/-- Reading the rules of an accepted value keeps its fields and their order. -/
theorem hasFields_parseValue {v : Value} {parsed : Fields (List Rule.Token)}
    (accepted : parseValue v = .ok parsed) : HasFields v parsed.names := by
  obtain ⟨rules, checked, read⟩ := (parseValue_ok_iff v parsed).mp accepted
  refine ⟨_, entries_ofValue checked, ?_⟩
  rw [Fields.names_traverse read]
  simp [Fields.names, asEntry, List.map_map, Function.comp_def]

end FormRules.RuleSet
