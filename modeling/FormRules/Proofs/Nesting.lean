import FormRules.Proofs.Resolution
import FormRules.Proofs.RuleSet
import FormRules.Proofs.Shapes

/-!
# What a mapping answers

A mapping answers for every key, with a text or with none. The entry under the whole key decides,
whatever it holds; where there is none, a path is followed step by step, and each step has to find a
mapping with an entry under its name. No step has a point in its name, so keys with points count in
the outermost mapping only.
-/

namespace FormRules.Value

/-! ## Entries under a name -/

theorem find?_cons_self (name : String) (v : Value) (rest : List (Value × Value)) :
    find? name ((.text name, v) :: rest) = some v := by
  rw [find?, if_pos rfl]

theorem find?_cons_of_ne {name : String} {entry : Value × Value} (differ : entry.1 ≠ .text name)
    (rest : List (Value × Value)) : find? name (entry :: rest) = find? name rest := by
  obtain ⟨key, v⟩ := entry
  cases key with
  | text k =>
    have other : k ≠ name := fun same => differ (congrArg _ same)
    rw [find?, if_neg other]
  | _ => rfl

theorem find?_eq_none_iff (name : String) (entries : List (Value × Value)) :
    find? name entries = none ↔ .text name ∉ entries.map Prod.fst := by
  induction entries with
  | nil => simp [find?]
  | cons entry rest ih =>
    by_cases same : entry.1 = .text name
    · obtain ⟨_, v⟩ := entry
      cases same
      simp [find?_cons_self]
    · rw [find?_cons_of_ne same, ih, List.map_cons, List.mem_cons, not_or]
      exact (and_iff_right (Ne.symm same)).symm

/-- In a mapping that has no key twice, a value stands under a name exactly if it is in the entry of
that name. -/
theorem find?_eq_some_iff {entries : List (Value × Value)} (distinct : DistinctKeys entries) (name : String)
    (v : Value) : find? name entries = some v ↔ (.text name, v) ∈ entries := by
  refine ⟨mem_of_find?, fun member => ?_⟩
  induction entries with
  | nil => cases member
  | cons entry rest ih =>
    obtain ⟨fresh, later⟩ := List.pairwise_cons.mp distinct
    rcases List.mem_cons.mp member with rfl | inRest
    · exact find?_cons_self name v rest
    · have differ : entry.1 ≠ .text name := by
        intro same
        have apart := fresh _ inRest
        simp [same, sameKey] at apart
      rw [find?_cons_of_ne differ]
      exact ih later inRest

theorem find?_map_snd (f : Value → Value) (name : String) (entries : List (Value × Value)) :
    find? name (entries.map fun entry => (entry.1, f entry.2)) = (find? name entries).map f := by
  induction entries with
  | nil => rfl
  | cons entry rest ih =>
    by_cases same : entry.1 = .text name
    · obtain ⟨_, v⟩ := entry
      cases same
      rw [List.map_cons, find?_cons_self, find?_cons_self]
      rfl
    · have differ : (entry.1, f entry.2).1 ≠ .text name := same
      rw [List.map_cons, find?_cons_of_ne same, find?_cons_of_ne differ, ih]

theorem text?_eq_some_iff (v : Value) (s : String) : v.text? = some s ↔ v = .text s := by
  cases v <;> simp [text?]

/-! ## Values without paths -/

/-- Whether a key is a path: a text with a point. -/
def isPath : Value → Bool
  | .text key => decide (pathDelimiter ∈ key.toList)
  | _ => false

mutual

/-- A value with no entry left that stands under a path. -/
def withoutPaths : Value → Value
  | .map kind entries => .map kind (entriesWithoutPaths entries)
  | v => v

/-- Entries without those whose keys are paths, also deeper down. -/
def entriesWithoutPaths : List (Value × Value) → List (Value × Value)
  | [] => []
  | (key, v) :: rest =>
    if key.isPath then entriesWithoutPaths rest else (key, v.withoutPaths) :: entriesWithoutPaths rest

end

theorem text?_withoutPaths (v : Value) : v.withoutPaths.text? = v.text? := by
  cases v <;> simp [withoutPaths, text?]

theorem entries?_withoutPaths (v : Value) : v.withoutPaths.entries? = v.entries?.map entriesWithoutPaths := by
  cases v <;> simp [withoutPaths, entries?]

theorem find?_entriesWithoutPaths {name : String} (undotted : pathDelimiter ∉ name.toList)
    (entries : List (Value × Value)) :
    find? name (entriesWithoutPaths entries) = (find? name entries).map withoutPaths := by
  induction entries with
  | nil => rfl
  | cons entry rest ih =>
    obtain ⟨key, v⟩ := entry
    by_cases same : key = .text name
    · subst same
      have kept : isPath (.text name) = false := by simpa [isPath] using undotted
      rw [entriesWithoutPaths, kept, find?_cons_self]
      exact find?_cons_self _ _ _
    · rw [entriesWithoutPaths, find?_cons_of_ne same, ← ih]
      cases key.isPath with
      | true => rfl
      | false => exact find?_cons_of_ne same _

theorem descend?_withoutPaths {names : List String} (undotted : ∀ name ∈ names, pathDelimiter ∉ name.toList)
    (v : Value) : v.withoutPaths.descend? names = (v.descend? names).map withoutPaths := by
  induction names generalizing v with
  | nil => rfl
  | cons name rest ih =>
    obtain ⟨first, later⟩ := List.forall_mem_cons.mp undotted
    rw [descend?, descend?, entries?_withoutPaths]
    cases v.entries? with
    | none => rfl
    | some entries =>
      simp only [Option.map_some, find?_entriesWithoutPaths first]
      cases find? name entries with
      | none => rfl
      | some next => exact ih later next

end FormRules.Value

namespace FormRules.Target

open Value (find? DistinctKeys)

/-- The entries of a mapping, with no paths among the keys further inside. -/
def withoutInnerPaths (entries : List (Value × Value)) : List (Value × Value) :=
  entries.map fun entry => (entry.1, entry.2.withoutPaths)

/-- Beyond the first step, a path is followed into the values of the entries. -/
theorem descend?_mapping (kind : MapKind) (entries : List (Value × Value)) (name : String) (rest : List String) :
    (Value.map kind entries).descend? (name :: rest) = (find? name entries).bind fun v => v.descend? rest := by
  rw [Value.descend?]
  simp only [Value.entries?]
  cases find? name entries <;> rfl

theorem steps_pieces (key : String) : Text.Pieces pathDelimiter key (steps key) :=
  (Text.pieces_iff _ _ _).mpr rfl

theorem held?_withoutInnerPaths (entries : List (Value × Value)) (key : String) :
    held? (withoutInnerPaths entries) key = (held? entries key).map Value.withoutPaths := by
  obtain ⟨first, rest, path⟩ := List.exists_cons_of_ne_nil (Text.segments_ne_nil pathDelimiter key)
  have undotted : ∀ name ∈ rest, pathDelimiter ∉ name.toList := by
    intro name member
    exact (steps_pieces key).clean name (by rw [steps, path]; exact List.mem_cons_of_mem _ member)
  have whole : find? key (withoutInnerPaths entries) = (find? key entries).map Value.withoutPaths :=
    Value.find?_map_snd _ _ _
  have below : (Value.map .plain (withoutInnerPaths entries)).descend? (steps key) =
      ((Value.map .plain entries).descend? (steps key)).map Value.withoutPaths := by
    rw [steps, path, descend?_mapping, descend?_mapping, withoutInnerPaths, Value.find?_map_snd]
    cases find? first entries with
    | none => rfl
    | some v => exact Value.descend?_withoutPaths undotted v
  rw [held?, whole, below, held?]
  cases find? key entries with
  | some v => rfl
  | none => by_cases dotted : pathDelimiter ∈ key.toList <;> simp [dotted]

/-- The kind of the outermost mapping does not matter for where a path leads. -/
theorem leads_mapping_iff (kind : MapKind) (entries : List (Value × Value)) (key : String) (v : Value) :
    (Value.map kind entries).Leads (steps key) v ↔ (Value.map .plain entries).Leads (steps key) v := by
  obtain ⟨first, rest, path⟩ := List.exists_cons_of_ne_nil (Text.segments_ne_nil pathDelimiter key)
  rw [← Value.descend?_eq_some_iff, ← Value.descend?_eq_some_iff, steps, path, descend?_mapping, descend?_mapping]

theorem resolve_mapping (kind : MapKind) (entries : List (Value × Value)) (key : String) :
    (ofValue (.map kind entries)).resolve key = .ok ((held? entries key).bind Value.text?) := rfl

/-- A text is the answer of a mapping exactly if the mapping holds it for the key. -/
theorem resolve_mapping_iff (kind : MapKind) (entries : List (Value × Value)) (key s : String) :
    (ofValue (.map kind entries)).resolve key = .ok (some s) ↔ Holds entries key (.text s) := by
  rw [resolve_mapping, ← held?_eq_some_iff, Except.ok.injEq, Option.bind_eq_some_iff]
  constructor
  · rintro ⟨v, held, text⟩
    rw [held, (Value.text?_eq_some_iff v s).mp text]
  · intro held
    exact ⟨_, held, rfl⟩

/-- Where a path leads to a value that has nothing under the next step, the whole key leads nowhere. -/
theorem not_leads_of_missing {v w u : Value} {before after : List String} {name : String}
    (leads : v.Leads before w) (missing : ∀ inner, w.entries? = some inner → find? name inner = none) :
    ¬ v.Leads (before ++ name :: after) u := by
  induction leads with
  | here v =>
    intro further
    cases further with
    | onward mapping entry _ => cases (missing _ mapping).symm.trans entry
  | onward mapping entry _ ih =>
    intro further
    cases further with
    | onward mapping' entry' later =>
      cases mapping.symm.trans mapping'
      cases entry.symm.trans entry'
      exact ih missing later

theorem resolve_mapping_eq_none {kind : MapKind} {entries : List (Value × Value)} {key : String}
    (holdsNo : ∀ s, ¬ Holds entries key (.text s)) : (ofValue (.map kind entries)).resolve key = .ok none := by
  cases answer : (held? entries key).bind Value.text? with
  | none => rw [resolve_mapping, answer]
  | some s =>
    have answered : (ofValue (.map kind entries)).resolve key = .ok (some s) := by rw [resolve_mapping, answer]
    exact absurd ((resolve_mapping_iff kind entries key s).mp answered) (holdsNo s)

/-- A mapping answers for every key, with a text exactly if it has it under the whole key, or has
nothing there and the key is a path that leads to it through mappings. So an entry under the whole
key hides what lies further inside; a path comes to nothing where it finds no mapping or no entry;
and dropping all entries under paths inside of the values changes no answer. -/
theorem resolve_of_mapping (kind : MapKind) (entries : List (Value × Value)) (key : String) :
    (∃ answer, (ofValue (.map kind entries)).resolve key = .ok answer) ∧
      (∀ s, (ofValue (.map kind entries)).resolve key = .ok (some s) ↔
        find? key entries = some (.text s) ∨
          find? key entries = none ∧ pathDelimiter ∈ key.toList ∧
            ∃ names, Text.Pieces pathDelimiter key names ∧ (Value.map kind entries).Leads names (.text s)) ∧
      (∀ v, find? key entries = some v → v.text? = none → (ofValue (.map kind entries)).resolve key = .ok none) ∧
      (∀ before name after w, Text.Pieces pathDelimiter key (before ++ name :: after) → find? key entries = none →
        (Value.map kind entries).Leads before w → (∀ inner, w.entries? = some inner → find? name inner = none) →
          (ofValue (.map kind entries)).resolve key = .ok none) ∧
      (ofValue (.map kind (withoutInnerPaths entries))).resolve key = (ofValue (.map kind entries)).resolve key ∧
      (find? key entries = none ↔ .text key ∉ entries.map Prod.fst) ∧
      (DistinctKeys entries → ∀ v, find? key entries = some v ↔ (.text key, v) ∈ entries) := by
  refine ⟨⟨_, resolve_mapping kind entries key⟩, ?_, ?_, ?_, ?_, Value.find?_eq_none_iff key entries, ?_⟩
  · intro s
    rw [resolve_mapping_iff]
    constructor
    · intro holds
      cases holds with
      | whole entry => exact .inl entry
      | inside missing dotted leads =>
        exact .inr ⟨missing, dotted, _, steps_pieces key, (leads_mapping_iff kind entries key _).mpr leads⟩
    · rintro (entry | ⟨missing, dotted, names, pieces, leads⟩)
      · exact .whole entry
      · cases (Text.pieces_iff _ _ _).mp pieces
        exact .inside missing dotted ((leads_mapping_iff kind entries key _).mp leads)
  · intro v entry noText
    rw [resolve_mapping, (held?_eq_some_iff entries key v).mpr (.whole entry)]
    exact congrArg Except.ok noText
  · intro before name after w pieces absent leads missing
    refine resolve_mapping_eq_none fun s holds => ?_
    cases holds with
    | whole entry => cases absent.symm.trans entry
    | inside _ _ inside =>
      have further := (leads_mapping_iff kind entries key _).mpr inside
      rw [steps, ← (Text.pieces_iff _ _ _).mp pieces] at further
      exact not_leads_of_missing leads missing further
  · rw [resolve_mapping, resolve_mapping, held?_withoutInnerPaths]
    cases held? entries key with
    | none => rfl
    | some v => exact congrArg Except.ok (Value.text?_withoutPaths v)
  · intro distinct
    exact Value.find?_eq_some_iff distinct key

/-- A parcel whose city is hidden, and with a path among the keys inside of its address. -/
def parcel : List (Value × Value) :=
  [(.text "to.city", .null),
    (.text "to", .map .readOnly [(.text "city", .text "Leeds"), (.text "geo.lat", .text "0"),
      (.text "geo", .map .plain [(.text "", .text "53.8")])])]

theorem resolve_of_mapping_parcel :
    DistinctKeys parcel ∧ (ofValue (.map .ordered parcel)).resolve "to.city" = .ok none ∧
      (ofValue (.map .ordered parcel)).resolve "to.geo." = .ok (some "53.8") ∧
      (ofValue (.map .ordered parcel)).resolve "to.geo.lat" = .ok none ∧
      (ofValue (.map .ordered parcel)).resolve "to.geo..lat" = .ok none := by
  have distinct : DistinctKeys parcel := by decide
  obtain ⟨_, _, hidden, _, _, _, entry⟩ := resolve_of_mapping .ordered parcel "to.city"
  obtain ⟨_, texts, _⟩ := resolve_of_mapping .ordered parcel "to.geo."
  obtain ⟨_, _, _, unmatched, _⟩ := resolve_of_mapping .ordered parcel "to.geo.lat"
  obtain ⟨_, _, _, past, _⟩ := resolve_of_mapping .ordered parcel "to.geo..lat"
  have geo : (Value.map .ordered parcel).Leads ["to", "geo"] (.map .plain [(.text "", .text "53.8")]) :=
    (Value.descend?_eq_some_iff _ _ _).mp rfl
  have lat : (Value.map .ordered parcel).Leads ["to", "geo", ""] (.text "53.8") :=
    (Value.descend?_eq_some_iff _ _ _).mp rfl
  refine ⟨distinct, hidden .null ((entry distinct .null).mpr List.mem_cons_self) rfl, ?_, ?_, ?_⟩
  · exact (texts "53.8").mpr (.inr ⟨rfl, by decide, _, ⟨by decide, by decide, by decide⟩, lat⟩)
  · refine unmatched ["to", "geo"] "lat" [] _ ⟨by decide, by decide, by decide⟩ rfl geo ?_
    rintro inner ⟨⟩
    rfl
  · exact past ["to", "geo", ""] "lat" [] _ ⟨by decide, by decide, by decide⟩ rfl lat nofun

end FormRules.Target
