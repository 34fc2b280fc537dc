import FormRules.Proofs.RuleSet

/-!
# Which values are rule sets

A value is accepted as a rule set exactly if it is a mapping of any kind whose entries are all proper:
a field name and a rule string, neither of them empty. What is accepted are its entries, in their
order, and they are accepted again however they are carried. The rules that are read from a value are
those of the accepted entries, each under its field.
-/

namespace FormRules

theorem Value.entries?_eq_some_iff (v : Value) (entries : List (Value × Value)) :
    v.entries? = some entries ↔ ∃ kind, v = .map kind entries := by
  cases v <;> simp [entries?]

namespace RuleSet

/-- An entry of a field name and a rule string, neither of them empty. -/
def Proper (entry : Value × Value) : Prop :=
  ∃ field rule, entry = (.text field, .text rule) ∧ field ≠ "" ∧ rule ≠ ""

theorem asEntry_injective : Function.Injective asEntry := by
  rintro ⟨field, rule⟩ ⟨field', rule'⟩ same
  obtain ⟨fields, rules⟩ := Prod.mk.inj same
  exact Prod.ext (Value.text.inj fields) (Value.text.inj rules)

theorem proper_asEntry_iff (named : String × String) : Proper (asEntry named) ↔ named.1 ≠ "" ∧ named.2 ≠ "" := by
  constructor
  · rintro ⟨field, rule, same, given⟩
    obtain rfl : named = (field, rule) := asEntry_injective same
    exact given
  · intro given
    exact ⟨named.1, named.2, rfl, given⟩

/-- Proper entries are those of some row of field names and rule strings. -/
theorem exists_named_of_proper {entries : List (Value × Value)} (proper : ∀ entry ∈ entries, Proper entry) :
    ∃ rules : RuleSet, entries = rules.map asEntry := by
  induction entries with
  | nil => exact ⟨[], rfl⟩
  | cons entry rest ih =>
    obtain ⟨⟨field, rule, rfl, _⟩, later⟩ := List.forall_mem_cons.mp proper
    obtain ⟨rules, rfl⟩ := ih later
    exact ⟨(field, rule) :: rules, rfl⟩

theorem checked_iff (entries : List (Value × Value)) (rules : RuleSet) :
    entries.mapM ofEntry = .ok rules ↔ entries = rules.map asEntry ∧ ∀ named ∈ rules, named.2 ≠ "" := by
  constructor
  · intro checked
    have same := entries_of_checked checked
    subst same
    have steps := (Traversal.mapM_ok_iff _ _ _).mp checked
    rw [List.forall₂_map_left_iff, List.forall₂_same] at steps
    exact ⟨rfl, fun named member => ((ofEntry_ok_iff _ _ _).mp (steps named member)).2⟩
  · rintro ⟨rfl, given⟩
    rw [Traversal.mapM_ok_iff, List.forall₂_map_left_iff, List.forall₂_same]
    exact fun named member => (ofEntry_ok_iff _ _ _).mpr ⟨rfl, given named member⟩

/-- A value is accepted as just the rule set that has its entries, if they are all proper. -/
theorem ofValue_ok_iff (v : Value) (rules : RuleSet) :
    ofValue v = .ok rules ↔ v.entries? = some (rules.map asEntry) ∧ ∀ entry ∈ rules.map asEntry, Proper entry := by
  simp only [List.forall_mem_map, proper_asEntry_iff]
  constructor
  · intro accepted
    have mapping := entries_ofValue accepted
    rw [ofValue_mapping mapping, Traversal.bind_ok_iff] at accepted
    obtain ⟨others, checked, named⟩ := accepted
    split at named
    · cases named
    · rename_i unnamed
      cases named
      obtain ⟨-, given⟩ := (checked_iff _ _).mp checked
      refine ⟨mapping, fun named member => ⟨fun empty => unnamed ?_, given named member⟩⟩
      exact List.mem_map.mpr ⟨named, member, empty⟩
  · rintro ⟨mapping, given⟩
    have checked := (checked_iff _ rules).mpr ⟨rfl, fun named member => (given named member).2⟩
    have named : "" ∉ Fields.names rules := by
      intro empty
      obtain ⟨named, member, same⟩ := List.mem_map.mp empty
      exact (given named member).1 same
    rw [ofValue_mapping mapping, checked]
    exact if_neg named

/-- The rule set that a value is accepted as is accepted as itself, whichever kind of mapping it is put
into. -/
theorem ofValue_of_accepted {v : Value} {rules : RuleSet} (accepted : ofValue v = .ok rules) (kind : MapKind) :
    ofValue (.map kind (rules.map asEntry)) = .ok rules :=
  (ofValue_ok_iff _ rules).mpr ⟨rfl, ((ofValue_ok_iff v rules).mp accepted).2⟩

theorem ofValue_toValue {v : Value} {rules : RuleSet} (accepted : ofValue v = .ok rules) :
    ofValue rules.toValue = .ok rules :=
  ofValue_of_accepted accepted .plain

theorem ofValue_returns_iff (v : Value) :
    (∃ rules, ofValue v = .ok rules) ↔ ∃ kind entries, v = .map kind entries ∧ ∀ entry ∈ entries, Proper entry := by
  simp only [ofValue_ok_iff, Value.entries?_eq_some_iff]
  constructor
  · rintro ⟨rules, ⟨kind, mapping⟩, proper⟩
    exact ⟨kind, _, mapping, proper⟩
  · rintro ⟨kind, entries, mapping, proper⟩
    obtain ⟨rules, rfl⟩ := exists_named_of_proper proper
    exact ⟨rules, ⟨kind, mapping⟩, proper⟩

/-- What is made of a mapping, or why nothing is, does not depend on its kind. -/
theorem ofValue_kind (kind other : MapKind) (entries : List (Value × Value)) :
    ofValue (.map kind entries) = ofValue (.map other entries) := rfl

/-- Exactly the mappings of field names to rule strings, none of them empty, are accepted, and what is
accepted are their entries in order. No answer depends on the kind of the mapping, so what is accepted
is accepted again as it is. The rules are read from a value exactly if it is accepted and each of its
rule strings is read, and they stand under the same fields in the same order. -/
theorem ofValue_accepts_proper (v : Value) :
    ((∃ rules, ofValue v = .ok rules) ↔
      ∃ kind entries, v = .map kind entries ∧ ∀ entry ∈ entries, Proper entry) ∧
    (∀ rules, ofValue v = .ok rules → v.entries? = some (rules.map asEntry) ∧
      ofValue rules.toValue = .ok rules ∧ ∀ kind, ofValue (.map kind (rules.map asEntry)) = .ok rules) ∧
    (∀ kind other entries, v = .map kind entries → ofValue v = ofValue (.map other entries)) ∧
    ∀ parsed, parseValue v = .ok parsed ↔
      ∃ rules, ofValue v = .ok rules ∧
        List.Forall₂ (fun named read => named.1 = read.1 ∧ Rule.parse named.2 (some named.1) = .ok read.2)
          rules parsed := by
  refine ⟨ofValue_returns_iff v, fun rules accepted => ?_, ?_, fun parsed => ?_⟩
  · exact ⟨entries_ofValue accepted, ofValue_toValue accepted, ofValue_of_accepted accepted⟩
  · rintro kind other entries rfl
    exact ofValue_kind kind other entries
  · simp only [parseValue_ok_iff, parse, Fields.traverse_ok_iff]

/-- Rules with two bounds on one field and a bound written with a zero in front. -/
def visitorRules : RuleSet := [("name", "min:2|max:20"), ("age", "min:018")]

/-- The tokens of these rules. -/
def visitorTokens : Fields (List Rule.Token) :=
  [("name", [⟨.min 2, "min:2", by decide⟩, ⟨.max 20, "max:20", by decide⟩]),
    ("age", [⟨.min 18, "min:018", by decide⟩])]

theorem ofValue_accepts_proper_visitor :
    let view := Value.map .readOnly (visitorRules.map asEntry)
    let unnamed := Value.map .ordered [(.text "name", .text "email"), (.text "", .text "required")]
    ofValue view = .ok visitorRules ∧ ofValue visitorRules.toValue = .ok visitorRules ∧
      ofValue (.map .ordered (visitorRules.map asEntry)) = .ok visitorRules ∧
      parseValue view = .ok visitorTokens ∧ ¬ ∃ rules, ofValue unnamed = .ok rules := by
  intro view unnamed
  obtain ⟨_, accepts, kinds, reads⟩ := ofValue_accepts_proper view
  have accepted : ofValue view = .ok visitorRules := by decide +kernel
  obtain ⟨_, again, _⟩ := accepts visitorRules accepted
  have name : Rule.parse "min:2|max:20" (some "name") = .ok visitorTokens[0].2 := by decide +kernel
  have age : Rule.parse "min:018" (some "age") = .ok visitorTokens[1].2 := by decide +kernel
  have parsed := (reads visitorTokens).mpr ⟨visitorRules, accepted, .cons ⟨rfl, name⟩ (.cons ⟨rfl, age⟩ .nil)⟩
  refine ⟨accepted, again, (kinds .readOnly .ordered _ rfl).symm.trans accepted, parsed, ?_⟩
  rw [(ofValue_accepts_proper unnamed).1]
  rintro ⟨kind, entries, same, proper⟩
  obtain ⟨-, rfl⟩ := Value.map.inj same
  obtain ⟨field, rule, entry, named, _⟩ := proper (.text "", .text "required") (by simp)
  exact named (Value.text.inj (Prod.mk.inj entry).1).symm

end RuleSet

end FormRules
