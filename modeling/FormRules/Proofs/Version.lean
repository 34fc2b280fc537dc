import FormRules.Proofs.RuleFile
import FormRules.Proofs.Shapes

/-!
# The version of a rule file

A version counts by the text that it is shown as, so what is admitted depends on how each kind of value
is shown. Only a text is shown as it stands, and only a float with a point behind its first digit. All else
opens with a bracket, a quote or a letter, or is made of digits and signs up to there. So texts and floats
alone can be versions. The checks of a document come in a fixed order, in which its version is judged before
its rules are looked for.
-/

namespace FormRules.RuleFile

open Numeral (Overlong IsDigit)
open Text (beginsWith_iff)

/-- A version that rule files may have: a text or a float that is shown with `1.` in front. -/
inductive Supported : Value → Prop
  | text {s : String} (start : versionStart.toList <+: s.toList) : Supported (.text s)
  | float {x : Binary64} (start : versionStart.toList <+: (Value.numberLayout.text x).toList) : Supported (.float x)

/-- A mapping with these entries, at least one, that is no view of another. -/
inductive Mapping : Value → List (Value × Value) → Prop
  | of {kind : MapKind} {entries : List (Value × Value)} (owned : kind ≠ .readOnly) (filled : entries ≠ []) :
      Mapping (.map kind entries) entries

/-- What is wrong with a document before its rules are read. Each flaw is found only where the checks before it
have passed. -/
inductive Flawed : Value → Defect → Prop
  | void {config : Value} (void : config.isVoid = true) : Flawed config .emptyFile
  | noMapping {config : Value} (filled : config.isVoid = false) (other : ∀ entries, ¬ Mapping config entries) :
      Flawed config (.fileNotMapping config.typeName)
  | unversioned {config : Value} {entries : List (Value × Value)} (mapping : Mapping config entries)
      (missing : Value.find? versionKey entries = none) : Flawed config .missingVersion
  | unsupported {config version : Value} {entries : List (Value × Value)} {shown : String}
      (mapping : Mapping config entries) (given : Value.find? versionKey entries = some version)
      (refused : ¬ Supported version) (text : version.display = .ok shown) :
      Flawed config (.unsupportedVersion shown)
  | ruleless {config version : Value} {entries : List (Value × Value)} (mapping : Mapping config entries)
      (given : Value.find? versionKey entries = some version) (supported : Supported version)
      (missing : Value.find? rulesKey entries = none) : Flawed config .missingRules

/-- A document with a version that rule files may have, and the value under the key of its rules. -/
inductive Opens : Value → Value → Prop
  | of {config version rules : Value} {entries : List (Value × Value)} (mapping : Mapping config entries)
      (given : Value.find? versionKey entries = some version) (supported : Supported version)
      (present : Value.find? rulesKey entries = some rules) : Opens config rules

/-! ## What shown values begin with -/

theorem pointed_of_start {cs : List Char} (start : versionStart.toList <+: cs) : '.' ∈ cs :=
  start.subset (by decide)

theorem head_of_start {cs : List Char} (start : versionStart.toList <+: cs) : cs.head? = some '1' := by
  obtain ⟨rest, rfl⟩ := start
  rfl

/-- A text that opens with another character than versions do. -/
def Foreign (text : String) : Prop := text.toList.head?.any (· != '1') = true

instance (text : String) : Decidable (Foreign text) := inferInstanceAs (Decidable (_ = true))

theorem Foreign.not_start {text : String} (foreign : Foreign text) : ¬ versionStart.toList <+: text.toList := by
  intro start
  rw [Foreign, head_of_start start] at foreign
  exact absurd foreign (by decide)

theorem Foreign.append {front : String} (foreign : Foreign front) (rest : String) : Foreign (front ++ rest) := by
  unfold Foreign at foreign ⊢
  rw [String.toList_append, List.head?_append]
  cases opening : front.toList.head? with
  | none =>
    rw [opening] at foreign
    cases foreign
  | some c =>
    rw [opening] at foreign
    exact foreign

theorem foreign_bracketed {opening : String} (foreign : Foreign opening) (closing : String) (items : List String) :
    Foreign (Value.bracketed opening closing items) :=
  (foreign.append _).append _

theorem foreign_quoted (s : String) : Foreign (Text.quoted s) := by
  simp only [Foreign, Text.quoted, Text.quoteFor, String.toList_ofList, List.cons_append, List.head?_cons]
  split <;> rfl

theorem foreign_quotedBytes (bs : List UInt8) : Foreign (Text.quotedBytes bs) := by
  simp only [Foreign, Text.quotedBytes, String.toList_ofList, List.cons_append, List.head?_cons]
  rfl

theorem foreign_date (d : Calendar.Date) : Foreign d.literal :=
  (Foreign.append (by decide) _).append _

theorem foreign_moment (m : Calendar.Moment) : Foreign m.literal := by
  unfold Calendar.Moment.literal
  exact (Foreign.append (by decide) _).append _

theorem foreign_tupleText (items : List String) : Foreign (Value.tupleText items) := by
  unfold Value.tupleText
  split
  · exact (Foreign.append (by decide) _).append _
  · exact foreign_bracketed (by decide) _ _

theorem foreign_setText (members : List String) : Foreign (Value.setText members) := by
  unfold Value.setText
  split
  · decide
  · exact foreign_bracketed (by decide) _ _

theorem foreign_mapText (kind : MapKind) (entries : List (String × String)) :
    Foreign (Value.mapText kind entries) := by
  cases kind with
  | plain => exact foreign_bracketed (by decide) _ _
  | readOnly => exact (Foreign.append (by decide) _).append _
  | ordered =>
    simp only [Value.mapText]
    split
    · decide
    · exact foreign_bracketed (by decide) _ _

theorem foreign_of_parts {α : Type} {parts : Except Overlong α} {render : α → String} {text : String}
    (foreign : ∀ shown, Foreign (render shown)) (shown : (do return render (← parts)) = .ok text) : Foreign text := by
  obtain ⟨part, -, same⟩ := (Traversal.bind_ok_iff _ _ _).mp shown
  exact Except.ok.inj same ▸ foreign part

theorem foreign_shown (guise : Guise) : Foreign guise.shown :=
  (Foreign.append (by decide) _).append _

/-- Numbers aside, a value inside a message opens with a bracket, a quote or a letter. -/
theorem foreign_literal {v : Value} {text : String} (shown : v.literal = .ok text) (noInt : ∀ n, v ≠ .int n)
    (noFloat : ∀ x, v ≠ .float x) : Foreign text := by
  cases v with
  | int n => exact absurd rfl (noInt n)
  | float x => exact absurd rfl (noFloat x)
  | text s => exact Except.ok.inj shown ▸ foreign_quoted s
  | bytes bs => exact Except.ok.inj shown ▸ foreign_quotedBytes bs
  | date d => exact Except.ok.inj shown ▸ foreign_date d
  | moment m =>
    simp only [Value.literal, Except.ok.injEq] at shown
    exact shown ▸ foreign_moment m
  | list items => exact foreign_of_parts (fun _ => foreign_bracketed (by decide) _ _) shown
  | tuple items => exact foreign_of_parts foreign_tupleText shown
  | map kind entries => exact foreign_of_parts (foreign_mapText kind) shown
  | set members => exact foreign_of_parts foreign_setText shown
  | bool b =>
    cases shown
    cases b <;> decide
  | again isMapping =>
    cases shown
    cases isMapping <;> decide
  | null =>
    cases shown
    decide
  | _ => exact Except.ok.inj shown ▸ foreign_shown _

/-! ## Numbers and dates -/

theorem no_point_of_write {n : Int} {text : String} (written : Numeral.write n = .ok text) : '.' ∉ text.toList := by
  obtain ⟨digits, spelled, -⟩ := Numeral.spelling_of_write written
  intro point
  rcases spelled.chars _ point with digit | sign | sign
  · exact absurd digit (by unfold IsDigit; decide)
  · exact absurd sign (by decide)
  · exact absurd sign (by decide)

theorem no_point_padded (width n : Nat) : '.' ∉ (Calendar.padded width n).toList := by
  have digits : '.' ∉ (toString n).toList := by
    intro point
    rw [Nat.toString_eq_ofList_toDigits, String.toList_ofList] at point
    exact absurd ((Numeral.digits_toDigits n).2 _ point) (by unfold IsDigit; decide)
  simp only [Calendar.padded, String.toList_append, String.toList_ofList, List.mem_append, List.mem_replicate]
  rintro (⟨-, zero⟩ | point)
  · exact absurd zero (by decide)
  · exact digits point

theorem no_point_dateText (d : Calendar.Date) : '.' ∉ d.text.toList := by
  simp only [Calendar.Date.text, String.toList_append, List.mem_append, no_point_padded, false_or, or_false]
  decide

/-- A moment is shown with its date in front, and so with no point behind the first digit. -/
theorem not_start_momentText (m : Calendar.Moment) : ¬ versionStart.toList <+: m.text.toList := by
  intro start
  have date : m.date.text.toList <+: m.text.toList := by
    simp only [Calendar.Moment.text, String.toList_append, List.append_assoc]
    exact List.prefix_append _ _
  have long : versionStart.toList.length ≤ m.date.text.toList.length := by
    simp only [Calendar.Date.text, String.toList_append, List.length_append]
    have dashes : 1 = "-".toList.length := by decide
    have two : versionStart.toList.length = 2 := by decide
    omega
  have inDate := List.prefix_of_prefix_length_le start date long
  exact absurd (pointed_of_start inDate) (no_point_dateText m.date)

/-! ## The checks in their order -/

/-- What a value is shown as begins as versions do exactly if the value is a supported version. -/
theorem start_iff_supported {v : Value} {shown : String} (text : v.display = .ok shown) :
    versionStart.toList <+: shown.toList ↔ Supported v := by
  constructor
  · intro start
    cases v with
    | text s => exact .text (Except.ok.inj text ▸ start)
    | float x => exact .float (Except.ok.inj text ▸ start)
    | int n => exact absurd (pointed_of_start start) (no_point_of_write text)
    | date d => exact absurd (pointed_of_start start) (Except.ok.inj text ▸ no_point_dateText d)
    | moment m => exact absurd start (Except.ok.inj text ▸ not_start_momentText m)
    | map kind entries =>
      have foreign : Foreign shown := by
        cases kind <;> exact foreign_literal text nofun nofun
      exact absurd start foreign.not_start
    | _ => exact absurd start (foreign_literal text nofun nofun).not_start
  · intro supported
    cases supported with
    | text start => exact Except.ok.inj text ▸ start
    | float start => exact Except.ok.inj text ▸ start

theorem Supported.shown {v : Value} (supported : Supported v) : ∃ shown, v.display = .ok shown := by
  cases supported <;> exact ⟨_, rfl⟩

theorem entriesOf_of_mapping {config : Value} {entries : List (Value × Value)} (mapping : Mapping config entries) :
    entriesOf config = .ok entries := by
  cases mapping with
  | @of kind _ owned filled =>
    have full : (Value.map kind entries).isVoid = false := by simp [Value.isVoid, filled]
    unfold entriesOf
    rw [full]
    cases kind with
    | readOnly => exact absurd rfl owned
    | _ => rfl

theorem entriesOf_of_noMapping {config : Value} (filled : config.isVoid = false)
    (other : ∀ entries, ¬ Mapping config entries) : entriesOf config = reject (.fileNotMapping config.typeName) := by
  unfold entriesOf
  rw [filled]
  cases config with
  | map kind entries =>
    have some : entries ≠ [] := by simpa [Value.isVoid] using filled
    cases kind with
    | readOnly => rfl
    | _ => exact absurd (Mapping.of (by decide) some) (other entries)
  | _ => rfl

/-- Once a document is open, its version is found, shown and judged, and then its rules are found. -/
theorem rulesOf_of_mapping {config : Value} {entries : List (Value × Value)} (mapping : Mapping config entries) :
    rulesOf config =
      match Value.find? versionKey entries with
      | none => reject .missingVersion
      | some v => Failure.ofNumeral v.display >>= fun shown =>
        if Text.beginsWith versionStart shown then
          match Value.find? rulesKey entries with
          | none => reject .missingRules
          | some rules => .ok rules
        else reject (.unsupportedVersion shown) := by
  rw [rulesOf, entriesOf_of_mapping mapping]
  rfl

/-- A supported version stands in the way of nothing, so the rules decide. -/
theorem rulesOf_of_supported {config version : Value} {entries : List (Value × Value)}
    (mapping : Mapping config entries) (given : Value.find? versionKey entries = some version)
    (supported : Supported version) :
    rulesOf config =
      match Value.find? rulesKey entries with
      | none => reject .missingRules
      | some rules => .ok rules := by
  obtain ⟨shown, text⟩ := supported.shown
  have start := (beginsWith_iff _ _).mpr ((start_iff_supported text).mpr supported)
  rw [rulesOf_of_mapping mapping, given]
  simp only [text, Failure.ofNumeral]
  exact if_pos start

theorem rulesOf_of_opens {config rules : Value} (opens : Opens config rules) : rulesOf config = .ok rules := by
  obtain ⟨mapping, given, supported, present⟩ := opens
  rw [rulesOf_of_supported mapping given supported, present]

theorem rulesOf_of_flawed {config : Value} {defect : Defect} (flawed : Flawed config defect) :
    rulesOf config = reject defect := by
  cases flawed with
  | void void =>
    have empty : entriesOf config = reject .emptyFile := if_pos void
    rw [rulesOf, empty]
    rfl
  | noMapping filled other =>
    rw [rulesOf, entriesOf_of_noMapping filled other]
    rfl
  | unversioned mapping missing => rw [rulesOf_of_mapping mapping, missing]
  | unsupported mapping given refused text =>
    have apart := fun start => refused ((start_iff_supported text).mp ((beginsWith_iff _ _).mp start))
    rw [rulesOf_of_mapping mapping, given]
    simp only [text, Failure.ofNumeral]
    exact if_neg apart
  | ruleless mapping given supported missing => rw [rulesOf_of_supported mapping given supported, missing]

/-- A document opens or has a flaw, unless its version is too long to be shown. -/
theorem opens_or_flawed (config : Value) :
    (∃ rules, Opens config rules) ∨ (∃ defect, Flawed config defect) ∨
      ∃ entries version, Mapping config entries ∧ Value.find? versionKey entries = some version ∧
        version.Unshowable := by
  cases void : config.isVoid with
  | true => exact .inr (.inl ⟨_, .void void⟩)
  | false =>
    by_cases mapped : ∃ entries, Mapping config entries
    · obtain ⟨entries, mapping⟩ := mapped
      cases given : Value.find? versionKey entries with
      | none => exact .inr (.inl ⟨_, .unversioned mapping given⟩)
      | some version =>
        by_cases supported : Supported version
        · cases present : Value.find? rulesKey entries with
          | none => exact .inr (.inl ⟨_, .ruleless mapping given supported present⟩)
          | some rules => exact .inl ⟨rules, .of mapping given supported present⟩
        · by_cases long : version.Unshowable
          · exact .inr (.inr ⟨entries, version, mapping, given, long⟩)
          · obtain ⟨shown, text⟩ := (Value.shown_of_showable long).1
            exact .inr (.inl ⟨_, .unsupported mapping given supported text⟩)
    · exact .inr (.inl ⟨_, .noMapping void fun entries mapping => mapped ⟨entries, mapping⟩⟩)

theorem Mapping.unique {config : Value} {entries others : List (Value × Value)} (one : Mapping config entries)
    (two : Mapping config others) : entries = others := by
  cases one
  cases two
  rfl

theorem Mapping.unshowable_of_find? {config v : Value} {entries : List (Value × Value)} {key : String}
    (mapping : Mapping config entries) (given : Value.find? key entries = some v) (long : v.Unshowable) :
    config.Unshowable := by
  cases mapping
  exact (Value.unshowable_map_iff _ _).mpr ⟨_, Value.mem_of_find? given, .inr long⟩

/-- A document that can be shown opens or has a flaw. -/
theorem opens_or_flawed_of_showable {config : Value} (showable : ¬ config.Unshowable) :
    (∃ rules, Opens config rules) ∨ ∃ defect, Flawed config defect := by
  rcases opens_or_flawed config with opens | flawed | ⟨entries, version, mapping, given, long⟩
  · exact .inl opens
  · exact .inr flawed
  · exact absurd (mapping.unshowable_of_find? given long) showable

/-- A document opens exactly if it is a mapping with a supported version and with rules, which are given as they
stand there; no version but a text or a float ever counts. Where all values can be shown, any other document is
rejected for its first flaw, by an error about no field and no token, and an unsupported version is reported
whether or not there are rules. Last what is said of an unsupported version, which is quoted as it is shown, and
of rules that are missing after a supported one. -/
theorem rulesOf_admits_supported (config : Value) :
    (∀ rules, rulesOf config = .ok rules ↔ Opens config rules) ∧
      (∀ entries version rules, Mapping config entries → Value.find? versionKey entries = some version →
        rulesOf config = .ok rules → (∃ s, version = .text s) ∨ ∃ x, version = .float x) ∧
      (¬ config.Unshowable →
        (∀ failure, rulesOf config = .error failure ↔
          ∃ defect, Flawed config defect ∧ failure = .config ⟨defect, none, none⟩) ∧
        ∀ entries version, Mapping config entries → Value.find? versionKey entries = some version →
          ¬ Supported version → ∃ shown, version.display = .ok shown ∧
            rulesOf config = .error (.config ⟨.unsupportedVersion shown, none, none⟩)) ∧
      ∀ entries version, Mapping config entries → Value.find? versionKey entries = some version →
        (∀ shown, ¬ Supported version → version.display = .ok shown →
          (rulesOf config).mapError Failure.message =
            .error ("Rule file version " ++ shown ++ " not supported. Only version 1.x is supported.")) ∧
        (Supported version → Value.find? rulesKey entries = none →
          (rulesOf config).mapError Failure.message = .error "Rule file missing required 'rules' field") := by
  have opens_iff : ∀ rules, rulesOf config = .ok rules ↔ Opens config rules := by
    refine fun rules => ⟨fun loaded => ?_, rulesOf_of_opens⟩
    rcases opens_or_flawed config with ⟨others, opens⟩ | ⟨defect, flawed⟩ | ⟨entries, version, mapping, given, long⟩
    · cases loaded.symm.trans (rulesOf_of_opens opens)
      exact opens
    · cases loaded.symm.trans (rulesOf_of_flawed flawed)
    · cases loaded.symm.trans (rulesOf_version_overlong (entriesOf_of_mapping mapping) given long)
  refine ⟨opens_iff, fun entries version rules mapping given loaded => ?_, fun showable => ⟨fun failure => ?_, ?_⟩,
    fun entries version mapping given => ⟨fun shown refused text => ?_, fun supported missing => ?_⟩⟩
  · obtain ⟨opened, found, supported, -⟩ := (opens_iff rules).mp loaded
    cases mapping.unique opened
    cases given.symm.trans found
    cases supported with
    | text start => exact .inl ⟨_, rfl⟩
    | float start => exact .inr ⟨_, rfl⟩
  · constructor
    · intro failed
      rcases opens_or_flawed_of_showable showable with ⟨rules, opens⟩ | ⟨defect, flawed⟩
      · cases failed.symm.trans (rulesOf_of_opens opens)
      · cases failed.symm.trans (rulesOf_of_flawed flawed)
        exact ⟨defect, flawed, rfl⟩
    · rintro ⟨defect, flawed, rfl⟩
      exact rulesOf_of_flawed flawed
  · intro entries version mapping given refused
    have short : ¬ version.Unshowable := fun long => showable (mapping.unshowable_of_find? given long)
    obtain ⟨shown, text⟩ := (Value.shown_of_showable short).1
    exact ⟨shown, text, rulesOf_of_flawed (.unsupported mapping given refused text)⟩
  · rw [rulesOf_of_flawed (.unsupported mapping given refused text)]
    rfl
  · rw [rulesOf_of_flawed (.ruleless mapping given supported missing)]
    rfl

/-- The float 1.5. -/
def oneAndHalf : Value := .float (.finite false (3 * 2 ^ 51) (-52))

/-- A document of the version 1.5 opens whatever stands under its rules; one of the version `[1.5]` is rejected for
its version, though it has no rules either. -/
theorem rulesOf_admits_supported_half :
    let admitted := Value.map .plain [(.text "version", oneAndHalf), (.text "rules", .bool false)]
    let refused := Value.map .plain [(.text "version", .list [oneAndHalf])]
    rulesOf admitted = .ok (.bool false) ∧ ¬ refused.Unshowable ∧
      rulesOf refused = .error (.config ⟨.unsupportedVersion "[1.5]", none, none⟩) ∧
      (rulesOf refused).mapError Failure.message =
        .error "Rule file version [1.5] not supported. Only version 1.x is supported." := by
  intro admitted refused
  have supported : Supported oneAndHalf := .float (by decide +kernel)
  have opens : Opens admitted (.bool false) := .of (.of (by decide) (by decide)) rfl supported rfl
  have shown : (Value.list [oneAndHalf]).display = .ok "[1.5]" := by decide +kernel
  have showable : ¬ refused.Unshowable := by
    intro long
    have unshown : refused.literal = .error .number := (Value.literal_error_iff _ _).mpr ⟨long, rfl⟩
    have text : refused.literal = .ok "\x7b'version': [1.5]\x7d" := by decide +kernel
    cases unshown.symm.trans text
  obtain ⟨-, -, rejected, worded⟩ := rulesOf_admits_supported refused
  have mapping : Mapping refused [(.text "version", .list [oneAndHalf])] := .of (by decide) (by decide)
  obtain ⟨text, display, failed⟩ := (rejected showable).2 _ _ mapping rfl nofun
  cases shown.symm.trans display
  exact ⟨((rulesOf_admits_supported admitted).1 _).mpr opens, showable, failed,
    (worded _ _ mapping rfl).1 _ nofun shown⟩

end FormRules.RuleFile
