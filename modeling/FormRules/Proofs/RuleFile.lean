import FormRules.Proofs.Rejection
import FormRules.RuleFile

/-!
# How a rule file fails to load

A file is rejected if it is missing or a configuration error is found in it. Anything else that
keeps it from loading is an accident of reading it: bytes that are no text, a scalar that stands
for no value, or an integer that is too long to be shown or read.
-/

namespace FormRules.RuleFile

open Traversal (bind_ok_iff bind_error_iff bind_error_iff_first)

/-- Why the file that a path leads to is rejected. -/
inductive Rejection (path : String) : Found → LoadFailure → Prop
  | missing : Rejection path .missing (.missing path)
  | flawed (bytes : List UInt8) (e : ConfigError) : Rejection path (.file bytes) (.rules (.config e))

variable (reader : Reader)

/-- What keeps the file that a path leads to from being loaded or rejected. -/
inductive Accident (path : String) : Found → LoadFailure → Prop
  | directory : Accident path .directory (.directory path)
  | tooLong : Accident path .tooLong (.tooLong path)
  | undecodable {bytes : List UInt8} {misfit : Text.Utf8.Misfit}
      (noText : Text.Utf8.decode bytes = .error misfit) : Accident path (.file bytes) (.undecodable misfit)
  | unreadable {bytes : List UInt8} {cs : List Char} {reason : Yaml.Unreadable}
      (text : Text.Utf8.decode bytes = .ok cs)
      (noValue : reader (Yaml.unifyBreaks cs) = .error (.unreadable reason)) :
      Accident path (.file bytes) (.unreadable reason)
  | version {bytes : List UInt8} {config v : Value} {entries : List (Value × Value)}
      (document : documentOf reader path bytes = .ok config) (mapping : entriesOf config = .ok entries)
      (given : Value.find? versionKey entries = some v) (long : v.Unshowable) :
      Accident path (.file bytes) (.rules (.overlong .number))
  | rules {bytes : List UInt8} {config rules : Value} {refused : Numeral.Overlong}
      (document : documentOf reader path bytes = .ok config) (given : rulesOf config = .ok rules)
      (long : RuleSet.parseValue rules = .error (.overlong refused)) :
      Accident path (.file bytes) (.rules (.overlong refused))

variable {reader}

theorem Rejection.isRejection {path : String} {found : Found} {failure : LoadFailure}
    (rejection : Rejection path found failure) : failure.isRejection = true := by
  cases rejection <;> rfl

theorem Accident.not_rejection {path : String} {found : Found} {failure : LoadFailure}
    (accident : Accident reader path found failure) : failure.isRejection = false := by
  cases accident <;> rfl

/-! ## Documents and their rules -/

theorem documentOf_error {path : String} {bytes : List UInt8} {failure : LoadFailure}
    (failed : documentOf reader path bytes = .error failure) :
    Rejection path (.file bytes) failure ∨ Accident reader path (.file bytes) failure := by
  unfold documentOf at failed
  cases text : Text.Utf8.decode bytes with
  | error misfit =>
    rw [text] at failed
    cases failed
    exact .inr (.undecodable text)
  | ok cs =>
    simp only [text] at failed
    cases read : reader (Yaml.unifyBreaks cs) with
    | ok v =>
      rw [read] at failed
      cases failed
    | error misfit =>
      cases misfit with
      | malformed said =>
        rw [read] at failed
        cases failed
        exact .inl (.flawed bytes _)
      | unreadable reason =>
        rw [read] at failed
        cases failed
        exact .inr (.unreadable text read)

theorem entriesOf_error {config : Value} {failure : Failure} (failed : entriesOf config = .error failure) :
    ∃ e, failure = .config e := by
  unfold entriesOf reject at failed
  split at failed
  · cases failed
    exact ⟨_, rfl⟩
  · split at failed
    · cases failed
      exact ⟨_, rfl⟩
    · cases failed
    · cases failed
      exact ⟨_, rfl⟩

/-- The rules of a document stay unknown by a configuration error, or if its version is too long to be
shown. -/
theorem rulesOf_error {config : Value} {failure : Failure} (failed : rulesOf config = .error failure) :
    (∃ e, failure = .config e) ∨
      ∃ entries v, entriesOf config = .ok entries ∧ Value.find? versionKey entries = some v ∧ v.Unshowable ∧
        failure = .overlong .number := by
  rw [rulesOf, bind_error_iff] at failed
  rcases failed with noEntries | ⟨entries, mapping, failed⟩
  · exact .inl (entriesOf_error noEntries)
  cases given : Value.find? versionKey entries with
  | none =>
    simp only [given, reject] at failed
    cases failed
    exact .inl ⟨_, rfl⟩
  | some v =>
    simp only [given] at failed
    cases shown : v.display with
    | error refused =>
      obtain ⟨long, rfl⟩ := (Value.display_error_iff v refused).mp shown
      rw [shown] at failed
      cases failed
      exact .inr ⟨entries, v, mapping, given, long, rfl⟩
    | ok version =>
      rw [shown] at failed
      change (if Text.beginsWith versionStart version then _ else _) = _ at failed
      left
      split at failed
      · split at failed
        · cases failed
          exact ⟨_, rfl⟩
        · cases failed
      · cases failed
        exact ⟨_, rfl⟩

theorem rulesOf_version_overlong {config v : Value} {entries : List (Value × Value)}
    (mapping : entriesOf config = .ok entries) (given : Value.find? versionKey entries = some v)
    (long : v.Unshowable) : rulesOf config = .error (.overlong .number) := by
  have unshown := (Value.display_error_iff v .number).mpr ⟨long, rfl⟩
  refine (bind_error_iff _ _ _).mpr (.inr ⟨entries, mapping, ?_⟩)
  simp only [given, unshown]
  rfl

/-- A document holds no rule set exactly if its rules are unknown or refused. -/
theorem ruleSetOf_error_iff (config : Value) (failure : Failure) :
    ruleSetOf config = .error failure ↔ rulesOf config = .error failure ∨
      ∃ rules, rulesOf config = .ok rules ∧ RuleSet.parseValue rules = .error failure := by
  rw [ruleSetOf, bind_error_iff]
  refine or_congr_right (exists_congr fun rules => and_congr_right fun _ => ?_)
  rw [RuleSet.parseValue, bind_error_iff, bind_error_iff]
  refine or_congr_right (exists_congr fun checked => and_congr_right fun _ => ?_)
  -- what is read from the rules is dropped, so the last step cannot fail
  exact bind_error_iff_first fun _ impossible => by cases impossible

theorem ruleSetOf_ok_iff (config : Value) (rules : RuleSet) :
    ruleSetOf config = .ok rules ↔
      ∃ given parsed, rulesOf config = .ok given ∧ RuleSet.ofValue given = .ok rules ∧ rules.parse = .ok parsed := by
  simp only [ruleSetOf, bind_ok_iff, pure, Except.pure, Except.ok.injEq]
  constructor
  · rintro ⟨given, found, _, checked, parsed, read, rfl⟩
    exact ⟨given, parsed, found, checked, read⟩
  · rintro ⟨given, parsed, found, checked, read⟩
    exact ⟨given, found, rules, checked, parsed, read, rfl⟩

/-! ## Loading -/

theorem ofRules_error_iff {α : Type} (run : Except Failure α) (failure : LoadFailure) :
    LoadFailure.ofRules run = .error failure ↔ ∃ f, run = .error f ∧ failure = .rules f := by
  cases run with
  | ok a => simp [LoadFailure.ofRules]
  | error f => simp [LoadFailure.ofRules, eq_comm]

theorem load_file {find : String → Found} {path : String} {bytes : List UInt8}
    (found : find (Path.normalize path) = .file bytes) :
    load reader find path =
      documentOf reader (Path.normalize path) bytes >>= fun config => LoadFailure.ofRules (ruleSetOf config) := by
  simp only [load, found]

theorem load_refused {find : String → Found} {path : String} {bytes : List UInt8} {config : Value}
    {failure : Failure} (found : find (Path.normalize path) = .file bytes)
    (document : documentOf reader (Path.normalize path) bytes = .ok config) (refused : ruleSetOf config = .error failure) :
    load reader find path = .error (.rules failure) := by
  rw [load_file found, bind_error_iff]
  exact .inr ⟨config, document, (ofRules_error_iff _ _).mpr ⟨failure, refused, rfl⟩⟩

/-- A file that is not loaded is rejected, or an accident happened while it was read. -/
theorem load_error {find : String → Found} {path : String} {failure : LoadFailure}
    (failed : load reader find path = .error failure) :
    Rejection (Path.normalize path) (find (Path.normalize path)) failure ∨
      Accident reader (Path.normalize path) (find (Path.normalize path)) failure := by
  cases found : find (Path.normalize path) with
  | missing =>
    simp only [load, found] at failed
    cases failed
    exact .inl .missing
  | directory =>
    simp only [load, found] at failed
    cases failed
    exact .inr .directory
  | tooLong =>
    simp only [load, found] at failed
    cases failed
    exact .inr .tooLong
  | file bytes =>
    rw [load_file found, bind_error_iff] at failed
    rcases failed with noDocument | ⟨config, document, refused⟩
    · exact documentOf_error noDocument
    obtain ⟨reason, unruled, rfl⟩ := (ofRules_error_iff _ _).mp refused
    rcases (ruleSetOf_error_iff _ _).mp unruled with unknown | ⟨rules, given, flawed⟩
    · rcases rulesOf_error unknown with ⟨e, rfl⟩ | ⟨entries, v, mapping, given, long, rfl⟩
      · exact .inl (.flawed bytes e)
      · exact .inr (.version document mapping given long)
    · rcases RuleSet.parseValue_error flawed with ⟨e, rfl⟩ | ⟨refused, rfl⟩
      · exact .inl (.flawed bytes e)
      · exact .inr (.rules document given flawed)

/-- Loading ends in an accident exactly if one happens to the file. -/
theorem load_accident_iff (reader : Reader) (find : String → Found) (path : String) (failure : LoadFailure) :
    load reader find path = .error failure ∧ failure.isRejection = false ↔
      Accident reader (Path.normalize path) (find (Path.normalize path)) failure := by
  constructor
  · rintro ⟨failed, unrejected⟩
    refine (load_error failed).resolve_left fun rejected => ?_
    cases unrejected.symm.trans rejected.isRejection
  intro accident
  refine ⟨?_, accident.not_rejection⟩
  generalize found : find (Path.normalize path) = it at accident
  cases accident with
  | directory => simp only [load, found]
  | tooLong => simp only [load, found]
  | undecodable noText =>
    rw [load_file found]
    simp only [documentOf, noText]
    rfl
  | unreadable text noValue =>
    rw [load_file found]
    simp only [documentOf, text, noValue]
    rfl
  | version document mapping given long =>
    exact load_refused found document ((ruleSetOf_error_iff _ _).mpr (.inl (rulesOf_version_overlong mapping given long)))
  | rules document given long =>
    exact load_refused found document ((ruleSetOf_error_iff _ _).mpr (.inr ⟨_, given, long⟩))

/-- Only a file with a document that holds a rule set is loaded. -/
theorem load_ok {find : String → Found} {path : String} {rules : RuleSet} (loaded : load reader find path = .ok rules) :
    ∃ bytes config, find (Path.normalize path) = .file bytes ∧
      documentOf reader (Path.normalize path) bytes = .ok config ∧ ruleSetOf config = .ok rules := by
  cases found : find (Path.normalize path) with
  | file bytes =>
    rw [load_file found, bind_ok_iff] at loaded
    obtain ⟨config, document, accepted⟩ := loaded
    refine ⟨bytes, config, rfl, document, ?_⟩
    cases held : ruleSetOf config with
    | error failure =>
      rw [held] at accepted
      cases accepted
    | ok others =>
      rw [held] at accepted
      cases accepted
      rfl
  | _ =>
    simp only [load, found] at loaded
    cases loaded

end FormRules.RuleFile
