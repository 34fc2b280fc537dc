import FormRules.Proofs.Grammar
import FormRules.Proofs.Literal
import FormRules.Proofs.RuleSet

/-!
# Why a rule set is refused

A mapping that is offered as a rule set is looked through three times: for the first entry of a
wrong shape, for an empty field name, and for the first piece of a rule that is no token. What a
later pass would find does not matter once an earlier one has found something. Every refusal is a
configuration error about what was found, unless an integer is too long to be shown or read.
-/

namespace FormRules.ConfigError

theorem message_of_field {e : ConfigError} {field : String} (known : e.field = some field) :
    e.message = field ++ ": " ++ e.defect.message := by
  rw [message, known]

/-- An error shows its bare cause exactly if it is about no field; an empty name is shown, too. -/
theorem message_eq_iff (e : ConfigError) : e.message = e.defect.message ↔ e.field = none := by
  cases known : e.field with
  | none => simp [message, known]
  | some field =>
    rw [message_of_field known]
    refine ⟨fun same => ?_, nofun⟩
    have sizes := congrArg String.length same
    simp only [String.length_append] at sizes
    have mark : ": ".length = 2 := rfl
    omega

end FormRules.ConfigError

namespace FormRules.RuleSet

open Numeral (Unwritable)
open Rule (WellFormed OnlyTooLong)
open Traversal (First)

/-- An entry whose key is no text, whose rule is no text, or whose rule is the empty text. -/
def Misshapen (entry : Value × Value) : Prop :=
  (∀ field, entry.1 ≠ .text field) ∨ (∀ rule, entry.2 ≠ .text rule) ∨ entry.2 = .text ""

/-- An entry with a rule of which some piece is no token. -/
def Malformed (entry : Value × Value) : Prop :=
  ∃ rule pieces, entry.2 = .text rule ∧ Text.Pieces '|' rule pieces ∧ ∃ s ∈ pieces, ¬ WellFormed s

/-- How the entries of a mapping are refused as a rule set. -/
inductive Refusal (entries : List (Value × Value)) (failure : Failure) : Prop
  | misshapen {entry : Value × Value} (first : First Misshapen entries entry)
      (failed : ofEntry entry = .error failure)
  | unnamed (shaped : ∀ entry ∈ entries, ¬ Misshapen entry) (empty : .text "" ∈ entries.map Prod.fst)
      (failed : failure = .config (.general .emptyFieldName))
  | malformed {field rule s : String} {pieces : List String} (shaped : ∀ entry ∈ entries, ¬ Misshapen entry)
      (named : .text "" ∉ entries.map Prod.fst) (first : First Malformed entries (.text field, .text rule))
      (cut : Text.Pieces '|' rule pieces) (leftmost : First (¬ WellFormed ·) pieces s)
      (failed : Rule.Token.parse s (some field) = .error failure)

/-! ## Shapes -/

theorem not_misshapen_iff (entry : Value × Value) :
    ¬ Misshapen entry ↔ ∃ field rule, entry = (.text field, .text rule) ∧ rule ≠ "" := by
  obtain ⟨key, value⟩ := entry
  constructor
  · intro shaped
    simp only [Misshapen, not_or, not_forall, not_not] at shaped
    obtain ⟨⟨field, rfl⟩, ⟨rule, rfl⟩, given⟩ := shaped
    exact ⟨field, rule, rfl, fun empty => given (by rw [empty])⟩
  · rintro ⟨field, rule, same, given⟩
    obtain ⟨rfl, rfl⟩ := Prod.mk.inj same
    rintro (noText | noText | empty)
    · exact noText field rfl
    · exact noText rule rfl
    · exact given (Value.text.inj empty)

theorem ofEntry_returns_iff (entry : Value × Value) : (∃ checked, ofEntry entry = .ok checked) ↔ ¬ Misshapen entry := by
  rw [not_misshapen_iff]
  constructor
  · rintro ⟨⟨field, rule⟩, checked⟩
    exact ⟨field, rule, (ofEntry_ok_iff entry field rule).mp checked⟩
  · rintro ⟨field, rule, shape⟩
    exact ⟨(field, rule), (ofEntry_ok_iff entry field rule).mpr shape⟩

theorem entryError_cases (defect : String → Defect) (key : Value) :
    (∃ field shown, key.display = .ok field ∧
        entryError defect key = .error (.config ⟨defect shown, some field, none⟩)) ∨
      key.Unshowable ∧ entryError defect key = .error (.overlong .number) := by
  unfold entryError
  by_cases unshowable : key.Unshowable
  · right
    have display := (Value.display_error_iff key .number).mpr ⟨unshowable, rfl⟩
    rw [display]
    exact ⟨unshowable, rfl⟩
  · left
    obtain ⟨⟨field, display⟩, shown, literal⟩ := Value.shown_of_showable unshowable
    rw [display, literal]
    exact ⟨field, shown, rfl, rfl⟩

/-- A misshapen entry is reported under its key as shown, if it can be shown. -/
theorem ofEntry_misshapen {entry : Value × Value} (misshapen : Misshapen entry) :
    (∃ defect field, entry.1.display = .ok field ∧
        ofEntry entry = .error (.config ⟨defect, some field, none⟩)) ∨
      entry.1.Unshowable ∧ ofEntry entry = .error (.overlong .number) := by
  have reported : ∃ defect, ofEntry entry = entryError defect entry.1 := by
    unfold ofEntry
    split
    · rename_i field rule
      by_cases empty : rule = ""
      · exact ⟨.entryEmpty, if_pos empty⟩
      · exact absurd misshapen ((not_misshapen_iff _).mpr ⟨field, rule, rfl, empty⟩)
    · exact ⟨.entryNotText, rfl⟩
    · exact ⟨.fieldNotText, rfl⟩
  obtain ⟨defect, same⟩ := reported
  rw [same]
  rcases entryError_cases defect entry.1 with ⟨field, shown, display, failed⟩ | unshowable
  · exact .inl ⟨_, field, display, failed⟩
  · exact .inr unshowable

/-! ## Passes over a mapping -/

variable {v : Value} {entries : List (Value × Value)}

theorem parseValue_not_mapping (other : v.entries? = none) :
    parseValue v = .error (.config (.general .ruleSetNotMapping)) := by
  rw [parseValue, ofValue, other]
  rfl

theorem parseValue_misshapen (mapping : v.entries? = some entries) {entry : Value × Value}
    (first : First Misshapen entries entry) {failure : Failure} (failed : ofEntry entry = .error failure) :
    parseValue v = .error failure := by
  have checked : entries.mapM ofEntry = .error failure :=
    Traversal.mapM_error_of_first (fun x _ => (ofEntry_returns_iff x).mpr) first failed
  rw [parseValue, ofValue_mapping mapping, checked]
  rfl

theorem checked_of_shaped (shaped : ∀ entry ∈ entries, ¬ Misshapen entry) :
    ∃ rules, entries.mapM ofEntry = .ok rules :=
  (Traversal.mapM_returns_iff ofEntry entries).mpr fun entry member =>
    (ofEntry_returns_iff entry).mpr (shaped entry member)

theorem mem_names_iff (rules : RuleSet) :
    "" ∈ Fields.names rules ↔ .text "" ∈ (rules.map asEntry).map Prod.fst := by
  simp [Fields.names, asEntry]

theorem parseValue_unnamed (mapping : v.entries? = some entries) (shaped : ∀ entry ∈ entries, ¬ Misshapen entry)
    (empty : .text "" ∈ entries.map Prod.fst) :
    parseValue v = .error (.config (.general .emptyFieldName)) := by
  obtain ⟨rules, checked⟩ := checked_of_shaped shaped
  rw [entries_of_checked checked, ← mem_names_iff] at empty
  rw [parseValue, ofValue_mapping mapping, checked]
  change (if "" ∈ Fields.names rules then _ else _) >>= parse = _
  rw [if_pos empty]
  rfl

theorem ofValue_named (mapping : v.entries? = some entries) (shaped : ∀ entry ∈ entries, ¬ Misshapen entry)
    (named : .text "" ∉ entries.map Prod.fst) :
    ∃ rules, ofValue v = .ok rules ∧ entries = rules.map asEntry := by
  obtain ⟨rules, checked⟩ := checked_of_shaped shaped
  rw [entries_of_checked checked, ← mem_names_iff] at named
  refine ⟨rules, ?_, entries_of_checked checked⟩
  rw [ofValue_mapping mapping, checked]
  change (if "" ∈ Fields.names rules then _ else _) = _
  rw [if_neg named]

/-! ## Pieces of rules -/

theorem malformed_iff (key : Value) (rule : String) :
    Malformed (key, .text rule) ↔ ∃ s ∈ Text.segments '|' rule, ¬ WellFormed s := by
  constructor
  · rintro ⟨_, pieces, same, cut, bad⟩
    obtain rfl := Value.text.inj same
    rwa [(Text.pieces_iff _ _ _).mp cut] at bad
  · intro bad
    exact ⟨rule, _, rfl, (Text.pieces_iff _ _ _).mpr rfl, bad⟩

theorem rule_given {rules : RuleSet} (shaped : ∀ entry ∈ rules.map asEntry, ¬ Misshapen entry) :
    ∀ named ∈ rules, named.2 ≠ "" := by
  rintro ⟨field, rule⟩ member rfl
  exact shaped _ (List.mem_map.mpr ⟨_, member, rfl⟩) (.inr (.inr rfl))

theorem ruleStep_returns {named : String × String} (given : named.2 ≠ "") (good : ¬ Malformed (asEntry named)) :
    ∃ result, Fields.entryStep (fun field rule => Rule.parse rule (some field)) named = .ok result := by
  have pieces : ∀ s ∈ Text.segments Rule.delimiter named.2, WellFormed s := by
    intro s member
    by_contra bad
    exact good ((malformed_iff _ _).mpr ⟨s, member, bad⟩)
  obtain ⟨tokens, read⟩ := (Rule.parse_returns_iff named.2 (some named.1)).mpr ⟨given, pieces⟩
  exact ⟨(named.1, tokens), (Fields.entryStep_ok_iff _ _ _).mpr ⟨rfl, read⟩⟩

theorem parseValue_malformed (mapping : v.entries? = some entries) (shaped : ∀ entry ∈ entries, ¬ Misshapen entry)
    (named : .text "" ∉ entries.map Prod.fst) {field rule s : String} {pieces : List String}
    (first : First Malformed entries (.text field, .text rule)) (cut : Text.Pieces '|' rule pieces)
    (leftmost : First (¬ WellFormed ·) pieces s) {failure : Failure}
    (failed : Rule.Token.parse s (some field) = .error failure) : parseValue v = .error failure := by
  obtain ⟨rules, accepted, rfl⟩ := ofValue_named mapping shaped named
  have given := rule_given shaped
  obtain ⟨⟨field', rule'⟩, firstRule, same⟩ := Traversal.first_map_iff.mp first
  obtain ⟨rfl, rfl⟩ : field' = field ∧ rule' = rule := by simpa [asEntry] using same
  obtain ⟨before, after, place, earlier, _⟩ := leftmost
  rw [(Text.pieces_iff _ _ _).mp cut] at place
  have unread : Rule.parse rule' (some field') = .error failure :=
    Rule.parse_first_bad (given _ firstRule.mem.1) place (fun x member => not_not.mp (earlier x member)) failed
  rw [parseValue, accepted]
  change parse rules = _
  rw [parse, Fields.traverse_eq_mapM]
  exact Traversal.mapM_error_of_first (fun x member good => ruleStep_returns (given x member) good) firstRule
    (Fields.entryStep_error unread)

theorem parseValue_returns (mapping : v.entries? = some entries) (shaped : ∀ entry ∈ entries, ¬ Misshapen entry)
    (named : .text "" ∉ entries.map Prod.fst) (good : ∀ entry ∈ entries, ¬ Malformed entry) :
    ∃ parsed, parseValue v = .ok parsed := by
  obtain ⟨rules, accepted, rfl⟩ := ofValue_named mapping shaped named
  rw [parseValue, accepted]
  change ∃ parsed, parse rules = _
  simp only [parse, Fields.traverse_eq_mapM]
  refine (Traversal.mapM_returns_iff _ rules).mpr fun x member => ?_
  exact ruleStep_returns (rule_given shaped x member) (good _ (List.mem_map.mpr ⟨x, member, rfl⟩))

/-- A mapping is refused by its first flaw in the order of the passes. -/
theorem parseValue_error_iff (mapping : v.entries? = some entries) (failure : Failure) :
    parseValue v = .error failure ↔ Refusal entries failure := by
  constructor
  · intro refused
    -- each pass is reached only where those before it have found nothing
    by_cases misshapen : ∃ entry ∈ entries, Misshapen entry
    · obtain ⟨entry, first⟩ := Traversal.exists_first misshapen
      cases checked : ofEntry entry with
      | ok result => exact absurd first.mem.2 ((ofEntry_returns_iff entry).mp ⟨result, checked⟩)
      | error failure' =>
        cases refused.symm.trans (parseValue_misshapen mapping first checked)
        exact .misshapen first checked
    have shaped : ∀ entry ∈ entries, ¬ Misshapen entry := fun entry member bad => misshapen ⟨entry, member, bad⟩
    by_cases empty : .text "" ∈ entries.map Prod.fst
    · cases refused.symm.trans (parseValue_unnamed mapping shaped empty)
      exact .unnamed shaped empty rfl
    by_cases malformed : ∃ entry ∈ entries, Malformed entry
    · obtain ⟨⟨key, value⟩, first⟩ := Traversal.exists_first malformed
      obtain ⟨field, rule, same, _⟩ := (not_misshapen_iff _).mp (shaped _ first.mem.1)
      obtain ⟨rfl, rfl⟩ := Prod.mk.inj same
      obtain ⟨s, leftmost⟩ := Traversal.exists_first ((malformed_iff _ _).mp first.mem.2)
      have cut := (Text.pieces_iff '|' rule _).mpr rfl
      cases read : Rule.Token.parse s (some field) with
      | ok token => exact absurd ((Rule.Token.parse_returns_iff s (some field)).mp ⟨token, read⟩) leftmost.mem.2
      | error failure' =>
        cases refused.symm.trans (parseValue_malformed mapping shaped empty first cut leftmost read)
        exact .malformed shaped empty first cut leftmost read
    · obtain ⟨parsed, accepted⟩ := parseValue_returns mapping shaped empty fun entry member bad =>
        malformed ⟨entry, member, bad⟩
      cases refused.symm.trans accepted
  · rintro (⟨first, failed⟩ | ⟨shaped, empty, rfl⟩ | ⟨shaped, named, first, cut, leftmost, failed⟩)
    · exact parseValue_misshapen mapping first failed
    · exact parseValue_unnamed mapping shaped empty
    · exact parseValue_malformed mapping shaped named first cut leftmost failed

/-! ## What is reported -/

theorem Refusal.config_or_overlong {failure : Failure} (refusal : Refusal entries failure) :
    (∃ e, failure = .config e) ∨ ∃ refused, failure = .overlong refused := by
  rcases refusal with ⟨first, failed⟩ | ⟨_, _, rfl⟩ | ⟨_, _, _, _, _, failed⟩
  · rcases ofEntry_misshapen first.mem.2 with ⟨_, _, _, reported⟩ | ⟨_, reported⟩
    · cases failed.symm.trans reported
      exact .inl ⟨_, rfl⟩
    · cases failed.symm.trans reported
      exact .inr ⟨_, rfl⟩
  · exact .inl ⟨_, rfl⟩
  · rcases Rule.Token.parse_error failed with ⟨_, rfl, _⟩ | ⟨_, _, rfl⟩
    · exact .inl ⟨_, rfl⟩
    · exact .inr ⟨_, rfl⟩

theorem parseValue_error {failure : Failure} (refused : parseValue v = .error failure) :
    (∃ e, failure = .config e) ∨ ∃ refused, failure = .overlong refused := by
  cases mapping : v.entries? with
  | none =>
    cases refused.symm.trans (parseValue_not_mapping mapping)
    exact .inl ⟨_, rfl⟩
  | some entries => exact ((parseValue_error_iff mapping failure).mp refused).config_or_overlong

/-- A value is refused as a rule set by a configuration error, except where the first misshapen entry
has a key that is too long to be shown, or where the first piece of a rule that is no token has nothing
wrong but the length of its number. -/
theorem parseValue_overlong_iff (v : Value) :
    (∀ failure, parseValue v = .error failure →
        (∃ e, failure = .config e) ∨ ∃ refused, failure = .overlong refused) ∧
      ∀ refused, parseValue v = .error (.overlong refused) ↔
        ∃ entries, v.entries? = some entries ∧
          ((∃ entry, First Misshapen entries entry ∧ entry.1.Unshowable ∧ refused = .number) ∨
            (∀ entry ∈ entries, ¬ Misshapen entry) ∧ .text "" ∉ entries.map Prod.fst ∧
              ∃ field rule pieces s count, First Malformed entries (.text field, .text rule) ∧
                Text.Pieces '|' rule pieces ∧ First (¬ WellFormed ·) pieces s ∧ OnlyTooLong s count ∧
                refused = .text count) := by
  refine ⟨fun failure => parseValue_error, fun refused => ⟨fun failed => ?_, ?_⟩⟩
  · cases mapping : v.entries? with
    | none => cases failed.symm.trans (parseValue_not_mapping mapping)
    | some entries =>
      refine ⟨entries, rfl, ?_⟩
      rcases (parseValue_error_iff mapping _).mp failed with
        ⟨first, failed⟩ | ⟨_, _, impossible⟩ | ⟨shaped, named, first, cut, leftmost, failed⟩
      · rcases ofEntry_misshapen first.mem.2 with ⟨_, _, _, reported⟩ | ⟨unshowable, reported⟩
        · cases failed.symm.trans reported
        · cases failed.symm.trans reported
          exact .inl ⟨_, first, unshowable, rfl⟩
      · cases impossible
      · rcases Rule.Token.parse_error failed with ⟨_, impossible, _⟩ | ⟨count, long, same⟩
        · cases impossible
        · cases same
          exact .inr ⟨shaped, named, _, _, _, _, count, first, cut, leftmost, long, rfl⟩
  · rintro ⟨entries, mapping, ⟨entry, first, unshowable, rfl⟩ |
      ⟨shaped, named, field, rule, pieces, s, count, first, cut, leftmost, long, rfl⟩⟩
    · refine (parseValue_error_iff mapping _).mpr (.misshapen first ?_)
      rcases ofEntry_misshapen first.mem.2 with ⟨_, field, display, _⟩ | ⟨_, reported⟩
      · cases display.symm.trans ((Value.display_error_iff entry.1 .number).mpr ⟨unshowable, rfl⟩)
      · exact reported
    · exact (parseValue_error_iff mapping _).mpr
        (.malformed shaped named first cut leftmost ((Rule.Token.parse_overlong_iff s _ count).mpr long))

/-- A rule with a bound of ones. -/
def onesRule (count : Nat) : String := "min:" ++ ones count

theorem onlyTooLong_onesRule {count : Nat} (long : Numeral.digitLimit < count) :
    OnlyTooLong (onesRule count) count := by
  have shape : (onesRule count).toList = "min".toList ++ ':' :: (ones count).toList := by
    rw [onesRule, String.toList_append]
    rfl
  have spelled := @spelling_ones count (by omega)
  exact ⟨_, _, _, ⟨_, shape, by decide, .inl (List.infix_refl _), spelled⟩, List.length_replicate, long⟩

theorem pieces_onesRule (count : Nat) : Text.Pieces '|' (onesRule count) [onesRule count] := by
  have noBar : '|' ∉ (onesRule count).toList := by
    rw [onesRule, String.toList_append, List.mem_append]
    rintro (inName | inNumber)
    · exact absurd inName (by decide)
    · rw [ones, String.toList_ofList] at inNumber
      exact absurd (List.eq_of_mem_replicate inNumber) (by decide)
  exact ⟨List.cons_ne_nil _ _, by simpa using noBar, by simp⟩

/-- A rule set whose only bound is too long is refused by no configuration error. -/
theorem parseValue_fails_on_ones :
    parseValue (.map .plain [(.text "n", .text (onesRule 4301))]) = .error (.overlong (.text 4301)) := by
  have long : OnlyTooLong (onesRule 4301) 4301 := onlyTooLong_onesRule (by decide)
  have bad : ¬ WellFormed (onesRule 4301) := fun good => good.not_onlyTooLong 4301 long
  have given : onesRule 4301 ≠ "" := fun empty => absurd long.length_gt (by rw [empty]; decide)
  refine (parseValue_error_iff rfl _).mpr (.malformed ?_ ?_
    (Traversal.first_cons_iff.mpr (.inl ⟨⟨_, _, rfl, pieces_onesRule 4301, _, List.mem_singleton_self _, bad⟩, rfl⟩))
    (pieces_onesRule 4301) (Traversal.first_cons_iff.mpr (.inl ⟨bad, rfl⟩))
    ((Rule.Token.parse_overlong_iff _ _ _).mpr long))
  · intro entry member
    rw [List.mem_singleton.mp member]
    exact (not_misshapen_iff _).mpr ⟨_, _, rfl, given⟩
  · simp

/-- Where no integer is too long, a mapping is refused by a configuration error about its first
misshapen entry, else about no entry for an empty field name, else about the first piece that is no
token of the first rule with one. -/
theorem parseValue_reports_first (mapping : v.entries? = some entries)
    (keys : ∀ entry ∈ entries, ∀ n, entry.1.Holds n → ¬ Unwritable n)
    (parameters : ∀ entry ∈ entries, ∀ rule pieces, entry.2 = .text rule → Text.Pieces '|' rule pieces →
      ∀ s ∈ pieces, ∀ count, ¬ OnlyTooLong s count)
    {failure : Failure} (refused : parseValue v = .error failure) :
    ∃ e, failure = .config e ∧
      ((∃ entry ∈ entries, Misshapen entry) → ∃ entry field, First Misshapen entries entry ∧
        entry.1.display = .ok field ∧ e.field = some field ∧ e.token = none) ∧
      ((∀ entry ∈ entries, ¬ Misshapen entry) → .text "" ∈ entries.map Prod.fst →
        e.field = none ∧ e.token = none) ∧
      ((∀ entry ∈ entries, ¬ Misshapen entry) → .text "" ∉ entries.map Prod.fst →
        ∃ field rule pieces s, First Malformed entries (.text field, .text rule) ∧
          Text.Pieces '|' rule pieces ∧ First (¬ WellFormed ·) pieces s ∧
          e.field = some field ∧ e.token = some s) ∧
      (∀ field, e.field = some field → e.message = field ++ ": " ++ e.defect.message) ∧
      (e.message = e.defect.message ↔ e.field = none) := by
  rcases (parseValue_error_iff mapping failure).mp refused with
    ⟨first, failed⟩ | ⟨shaped, empty, rfl⟩ | ⟨shaped, named, first, cut, leftmost, failed⟩
  · rcases ofEntry_misshapen first.mem.2 with ⟨defect, field, display, reported⟩ | ⟨⟨n, held, long⟩, _⟩
    · cases failed.symm.trans reported
      have ruledOut : ¬ ∀ entry ∈ entries, ¬ Misshapen entry := fun shaped => shaped _ first.mem.1 first.mem.2
      exact ⟨_, rfl, fun _ => ⟨_, field, first, display, rfl, rfl⟩, fun shaped => absurd shaped ruledOut,
        fun shaped => absurd shaped ruledOut, fun _ => ConfigError.message_of_field, ConfigError.message_eq_iff _⟩
    · exact absurd long (keys _ first.mem.1 n held)
  · exact ⟨_, rfl, fun ⟨entry, member, bad⟩ => absurd bad (shaped entry member), fun _ _ => ⟨rfl, rfl⟩,
      fun _ named => absurd empty named, fun _ => ConfigError.message_of_field, ConfigError.message_eq_iff _⟩
  · rcases Rule.Token.parse_error failed with ⟨defect, rfl, _⟩ | ⟨count, long, _⟩
    · exact ⟨_, rfl, fun ⟨entry, member, bad⟩ => absurd bad (shaped entry member),
        fun _ empty => absurd empty named, fun _ _ => ⟨_, _, _, _, first, cut, leftmost, rfl, rfl⟩,
        fun _ => ConfigError.message_of_field, ConfigError.message_eq_iff _⟩
    · exact absurd long (parameters _ first.mem.1 _ _ rfl cut _ leftmost.mem.1 count)

/-- Entries with a malformed rule, a key that is no text, and no name and no rule, in this order. -/
def flawedEntries : List (Value × Value) :=
  [(.text "a", .text "email|min:x"), (.int 7, .text "required"), (.text "", .text "")]

theorem parseValue_reports_first_flawed :
    ∃ e, parseValue (.map .readOnly flawedEntries) = .error (.config e) ∧ e.field = some "7" ∧
      e.token = none ∧ e.message = "7: " ++ e.defect.message := by
  have keys : ∀ entry ∈ flawedEntries, ∀ n, entry.1.Holds n → ¬ Unwritable n := by
    intro entry member n held
    simp only [flawedEntries, List.mem_cons, List.not_mem_nil, or_false] at member
    rcases member with rfl | rfl | rfl
    · cases held with
      | part inside _ => cases inside
    · cases held with
      | self => exact Numeral.writable_of_lt (by decide)
      | part inside _ => cases inside
    · cases held with
      | part inside _ => cases inside
  have short : ∀ entry ∈ flawedEntries, ∀ s ∈ Text.segments '|' (entry.2.text?.getD ""), s.length ≤ 10 := by
    decide +kernel
  have parameters : ∀ entry ∈ flawedEntries, ∀ rule pieces, entry.2 = .text rule →
      Text.Pieces '|' rule pieces → ∀ s ∈ pieces, ∀ count, ¬ OnlyTooLong s count := by
    intro entry member rule pieces same cut s inPieces count long
    have small := short entry member s (by rw [same]; exact (Text.pieces_iff _ _ _).mp cut ▸ inPieces)
    have large : 4300 < s.length := long.length_gt
    omega
  have refused : parseValue (.map .readOnly flawedEntries) =
      .error (.config ⟨.fieldNotText "7", some "7", none⟩) := by decide +kernel
  obtain ⟨e, same, _, _, _, message, _⟩ := parseValue_reports_first rfl keys parameters refused
  cases same
  exact ⟨_, refused, rfl, rfl, message _ rfl⟩

end FormRules.RuleSet
