import FormRules.Proofs.Acceptance
import FormRules.Proofs.CheckFiles
import FormRules.Proofs.Judgement

/-!
# What is loaded is read again

A document holds a rule set exactly if its rules are found and accepted, and the rule set has their
entries in their order. The rules are read once more wherever the rule set is used. They were read
before, so nothing can be wrong with them then.
-/

namespace FormRules

namespace RuleFile

/-- The entries of the rules that a document gives tell which rule set it holds, once they are accepted. -/
theorem ruleSetOf_ok_iff_entries (config : Value) (rules : RuleSet) :
    ruleSetOf config = .ok rules ↔
      ∃ given parsed, rulesOf config = .ok given ∧ RuleSet.parseValue given = .ok parsed ∧
        given.entries? = some (rules.map RuleSet.asEntry) := by
  rw [ruleSetOf_ok_iff]
  refine exists_congr fun given => exists_congr fun parsed => and_congr_right fun _ => ?_
  rw [RuleSet.parseValue_ok_iff]
  constructor
  · rintro ⟨checked, read⟩
    exact ⟨⟨rules, checked, read⟩, RuleSet.entries_ofValue checked⟩
  · rintro ⟨⟨others, checked, read⟩, entries⟩
    have same := Option.some.inj ((RuleSet.entries_ofValue checked).symm.trans entries)
    rw [← List.map_injective_iff.mpr RuleSet.asEntry_injective same]
    exact ⟨checked, read⟩

/-! ## What a rule set is read for -/

/-- A rule set with which nothing is wrong wherever it is read: it has tokens for each of its fields;
no configuration error ends the judgement of a form by it, and a fault that does is one that the form
raised; and its fields can be printed. -/
structure Sound (rules : RuleSet) : Prop where
  reads : ∃ parsed, RuleSet.parseValue rules.toValue = .ok parsed ∧
    List.Forall₂ (fun entry result => entry.1 = result.1 ∧ Rule.parse entry.2 (some entry.1) = .ok result.2)
      rules parsed
  judges : ∀ t failure, (validate rules.toValue t).outcome.1 = .error failure →
    (∀ e, failure ≠ .config e) ∧
      ∀ fault, failure = .raised fault → ∃ field ∈ Fields.names rules, t.resolve field = .error fault
  prints : (CheckFiles.fieldLines rules).2 = .ok ()

/-- A judgement by rules that are read fails at a field, and not by what is in the rules. -/
theorem failure_of_judgement {rules : Value} {parsed : Fields (List Rule.Token)} {t : Target} {failure : Failure}
    (accepted : RuleSet.parseValue rules = .ok parsed) (failed : (validate rules t).outcome.1 = .error failure) :
    (∀ e, failure ≠ .config e) ∧
      ∀ fault, failure = .raised fault → ∃ field ∈ parsed.names, t.resolve field = .error fault := by
  have course := (outcome_iff accepted t _ _).mp (Prod.ext failed rfl)
  obtain ⟨before, field, tokens, after, place, _, _, verdict⟩ := course.failed
  have member : field ∈ parsed.names := by
    rw [place]
    simp
  cases verdict with
  | raised answer =>
    refine ⟨nofun, ?_⟩
    rintro fault ⟨⟩
    exact ⟨field, member, answer⟩
  | tooLong answer _ long => exact ⟨nofun, nofun⟩

theorem sound_of_ruleSetOf {config : Value} {rules : RuleSet} (held : ruleSetOf config = .ok rules) :
    Sound rules := by
  obtain ⟨given, parsed, _, checked, read⟩ := (ruleSetOf_ok_iff config rules).mp held
  have accepted : RuleSet.parseValue rules.toValue = .ok parsed :=
    (RuleSet.parseValue_ok_iff _ parsed).mpr ⟨rules, RuleSet.ofValue_toValue checked, read⟩
  constructor
  · exact ⟨parsed, accepted, (Fields.traverse_ok_iff _ _ _).mp read⟩
  · intro t failure failed
    rw [← Fields.names_traverse read]
    exact failure_of_judgement accepted failed
  · rw [CheckFiles.fieldLines_of_parse read]

/-! ## Loading -/

theorem checkFile_of_load {reader : Reader} {find : String → Found} {path : String} {rules : RuleSet}
    (loaded : load reader find path = .ok rules) : (CheckFiles.checkFile reader find path).2 = .ok true := by
  have settled : ∀ failure, ¬ CheckFiles.MeetsAccident reader find path failure := by
    intro failure accident
    obtain ⟨failed, _⟩ := (load_accident_iff reader find path failure).mpr accident
    cases loaded.symm.trans failed
  rw [CheckFiles.checkFile_settled settled]
  simp [CheckFiles.accepts, loaded, Except.toBool]

/-- Loading a file goes on from its document alone. Whatever the document is, it holds a rule set exactly
if its rules are found and accepted, and then one with just their entries, in their order; otherwise what
went wrong with them goes out unchanged. Nothing is wrong with a rule set that is held so, or loaded, in
whatever way it is read again. -/
theorem load_keeps_rules (reader : Reader) (find : String → Found) (path : String) :
    (∀ bytes config, find (Path.normalize path) = .file bytes →
      documentOf reader (Path.normalize path) bytes = .ok config →
        load reader find path = LoadFailure.ofRules (ruleSetOf config)) ∧
    (∀ config,
      (∀ rules, ruleSetOf config = .ok rules ↔
        ∃ given parsed, rulesOf config = .ok given ∧ RuleSet.parseValue given = .ok parsed ∧
          given.entries? = some (rules.map RuleSet.asEntry)) ∧
      (∀ failure, ruleSetOf config = .error failure ↔
        rulesOf config = .error failure ∨
          ∃ given, rulesOf config = .ok given ∧ RuleSet.parseValue given = .error failure) ∧
      ∀ rules, ruleSetOf config = .ok rules → Sound rules) ∧
    ∀ rules, load reader find path = .ok rules → Sound rules ∧ (CheckFiles.checkFile reader find path).2 = .ok true := by
  refine ⟨?_, fun config => ?_, ?_⟩
  · intro bytes config found document
    rw [load_file found, document]
    rfl
  · exact ⟨ruleSetOf_ok_iff_entries config, ruleSetOf_error_iff config, fun rules => sound_of_ruleSetOf⟩
  · intro rules loaded
    obtain ⟨_, config, _, _, held⟩ := load_ok loaded
    exact ⟨sound_of_ruleSetOf held, checkFile_of_load loaded⟩

theorem load_keeps_rules_good :
    ∃ bytes config, CheckFiles.mixedFiles (Path.normalize "good.yaml") = .file bytes ∧
      documentOf CheckFiles.terseReader (Path.normalize "good.yaml") bytes = .ok config ∧
      load CheckFiles.terseReader CheckFiles.mixedFiles "good.yaml" = LoadFailure.ofRules (ruleSetOf config) ∧
      (∃ given parsed, rulesOf config = .ok given ∧ RuleSet.parseValue given = .ok parsed ∧
        given.entries? = some [(.text "name", .text "required")]) ∧
      Sound [("name", "required")] ∧ (CheckFiles.checkFile CheckFiles.terseReader CheckFiles.mixedFiles "good.yaml").2 = .ok true := by
  obtain ⟨opened, holds, kept⟩ := load_keeps_rules CheckFiles.terseReader CheckFiles.mixedFiles "good.yaml"
  obtain ⟨bytes, config, found, document, held⟩ := load_ok CheckFiles.mixedFiles_good
  obtain ⟨sound, checked⟩ := kept _ CheckFiles.mixedFiles_good
  exact ⟨bytes, config, found, document, opened bytes config found document, ((holds config).1 _).mp held, sound,
    checked⟩

end RuleFile

end FormRules
