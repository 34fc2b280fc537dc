import FormRules.Target

/-!
# What targets find

The lookups of fields, said apart from the answers made of them: a mapping holds a value for a key,
a path reaches a value or stops at a fault, a function gives a value or raises. A text that is found
is the answer. A fault that says that something is not there makes the field absent, and every other
fault is passed on; which faults count as the former is for each kind of target to say.
-/

namespace FormRules.Value

/-- A path leads from a value to another through mappings only. -/
inductive Leads : Value → List String → Value → Prop
  | here (v : Value) : Leads v [] v
  | onward {v next w : Value} {entries : List (Value × Value)} {name : String} {rest : List String}
      (mapping : v.entries? = some entries) (entry : find? name entries = some next)
      (later : Leads next rest w) : Leads v (name :: rest) w

/-- A path reaches a value, by entries of mappings and attributes of all else. -/
inductive Reaches : Value → List String → Value → Prop
  | here (v : Value) : Reaches v [] v
  | onward {v next w : Value} {name : String} {rest : List String} (step : v.step name = .ok next)
      (later : Reaches next rest w) : Reaches v (name :: rest) w

/-- A path stops at a fault of one of its steps. -/
def Stops (v : Value) (names : List String) (fault : Fault) : Prop :=
  ∃ before name after w, names = before ++ name :: after ∧ Reaches v before w ∧ w.step name = .error fault

theorem descend?_eq_some_iff (v w : Value) (names : List String) :
    v.descend? names = some w ↔ Leads v names w := by
  induction names generalizing v with
  | nil =>
    constructor
    · intro same
      cases same
      exact .here _
    · intro leads
      cases leads
      rfl
  | cons name rest ih =>
    constructor
    · intro found
      rw [descend?] at found
      cases mapping : v.entries? with
      | none => simp [mapping] at found
      | some entries =>
        cases entry : find? name entries with
        | none => simp [mapping, entry] at found
        | some next =>
          simp only [mapping, entry] at found
          exact .onward mapping entry ((ih next).mp found)
    · intro leads
      cases leads with
      | onward mapping entry later =>
        rw [descend?, mapping]
        simp only [entry]
        exact (ih _).mpr later

theorem walk_ok_iff (v w : Value) (names : List String) : v.walk names = .ok w ↔ Reaches v names w := by
  induction names generalizing v with
  | nil =>
    constructor
    · intro same
      cases same
      exact .here _
    · intro reaches
      cases reaches
      rfl
  | cons name rest ih =>
    constructor
    · intro walked
      rw [walk] at walked
      cases step : v.step name with
      | error fault => simp [step] at walked
      | ok next =>
        simp only [step] at walked
        exact .onward step ((ih next).mp walked)
    · intro reaches
      cases reaches with
      | onward step later =>
        rw [walk, step]
        exact (ih _).mpr later

theorem walk_error_iff (v : Value) (names : List String) (fault : Fault) :
    v.walk names = .error fault ↔ Stops v names fault := by
  induction names generalizing v with
  | nil =>
    refine ⟨nofun, ?_⟩
    rintro ⟨before, name, after, w, place, _⟩
    exact absurd place.symm (by simp)
  | cons name rest ih =>
    rw [walk]
    cases step : v.step name with
    | error first =>
      -- the path stops at once: any fault further on would need this step to pass
      constructor
      · intro same
        cases same
        exact ⟨[], name, rest, v, rfl, .here v, step⟩
      · rintro ⟨before, other, after, w, place, reaches, failed⟩
        cases reaches with
        | here =>
          cases place
          exact congrArg _ (Except.error.inj (step.symm.trans failed))
        | onward passed _ =>
          cases place
          cases step.symm.trans passed
    | ok next =>
      refine (ih next).trans ⟨?_, ?_⟩
      · rintro ⟨before, other, after, w, rfl, reaches, failed⟩
        exact ⟨name :: before, other, after, w, rfl, .onward step reaches, failed⟩
      · rintro ⟨before, other, after, w, place, reaches, failed⟩
        cases reaches with
        | here =>
          cases place
          cases step.symm.trans failed
        | onward passed later =>
          cases place
          cases step.symm.trans passed
          exact ⟨_, other, after, w, rfl, later, failed⟩

end FormRules.Value

namespace FormRules.Target

/-- What the entries of a mapping hold for a key: the value under the whole key, or else, if the key
is a path, the value to which it leads through mappings. -/
inductive Holds (entries : List (Value × Value)) (key : String) : Value → Prop
  | whole {v : Value} (entry : Value.find? key entries = some v) : Holds entries key v
  | inside {v : Value} (missing : Value.find? key entries = none) (dotted : pathDelimiter ∈ key.toList)
      (leads : (Value.map .plain entries).Leads (steps key) v) : Holds entries key v

theorem held?_eq_some_iff (entries : List (Value × Value)) (key : String) (v : Value) :
    held? entries key = some v ↔ Holds entries key v := by
  unfold held?
  cases whole : Value.find? key entries with
  | some w =>
    constructor
    · intro same
      cases same
      exact .whole whole
    · intro holds
      cases holds with
      | whole entry => exact whole.symm.trans entry
      | inside missing _ _ => cases whole.symm.trans missing
  | none =>
    by_cases dotted : pathDelimiter ∈ key.toList
    · simp only [dotted, if_true, Value.descend?_eq_some_iff]
      constructor
      · intro leads
        exact .inside whole dotted leads
      · intro holds
        cases holds with
        | whole entry => cases whole.symm.trans entry
        | inside _ _ leads => exact leads
    · simp only [dotted, if_false]
      refine ⟨nofun, fun holds => ?_⟩
      cases holds with
      | whole entry => cases whole.symm.trans entry
      | inside _ dotted' _ => exact absurd dotted' dotted

/-- The value that an adapted target comes upon for a key. -/
inductive Finds : Target → String → Value → Prop
  | held {entries : List (Value × Value)} {key : String} {v : Value} (holds : Holds entries key v) :
      Finds (.mapping entries) key v
  | given {call : String → Except Fault Value} {key : String} {v : Value} (gave : call key = .ok v) :
      Finds (.function call) key v
  | reached {root : Value} {key : String} {v : Value} (reaches : root.Reaches (steps key) v) :
      Finds (.attributes root) key v

/-- The fault that an adapted target comes upon for a key: one that the function raises, or one at
which the path stops. A mapping comes upon none. -/
inductive Meets : Target → String → Fault → Prop
  | raised {call : String → Except Fault Value} {key : String} {fault : Fault} (raised : call key = .error fault) :
      Meets (.function call) key fault
  | stopped {root : Value} {key : String} {fault : Fault} (stops : root.Stops (steps key) fault) :
      Meets (.attributes root) key fault

/-- The targets that are made of values: of all that do not answer by themselves, and of any
function of keys. -/
inductive Adapted : Target → Prop
  | value (v : Value) (own : ∀ guise entries, v ≠ .source guise entries) : Adapted (ofValue v)
  | function (call : String → Except Fault Value) : Adapted (.function call)

theorem Adapted.cases_on_kind {t : Target} (adapted : Adapted t) :
    (∃ entries, t = .mapping entries) ∨ (∃ call, t = .function call) ∨ ∃ root, t = .attributes root := by
  cases adapted with
  | function call => exact .inr (.inl ⟨call, rfl⟩)
  | value v own =>
    cases v with
    | source guise entries => exact absurd rfl (own guise entries)
    | map kind entries => exact .inl ⟨entries, rfl⟩
    | function guise table otherwise => exact .inr (.inl ⟨_, rfl⟩)
    | lookup guise entries => exact .inr (.inl ⟨_, rfl⟩)
    | _ => exact .inr (.inr ⟨_, rfl⟩)

theorem Finds.resolve {t : Target} {key : String} {v : Value} (finds : t.Finds key v) :
    t.resolve key = .ok v.text? := by
  cases finds with
  | held holds => rw [Target.resolve, (held?_eq_some_iff _ _ _).mpr holds]; rfl
  | given gave => rw [Target.resolve, gave]; rfl
  | reached reaches => rw [Target.resolve, (Value.walk_ok_iff _ _ _).mpr reaches]; rfl

theorem resolve_raised {call : String → Except Fault Value} {key : String} {fault : Fault}
    (raised : call key = .error fault) :
    resolve (.function call) key = if absentFromCall fault then .ok none else .error fault := by
  rw [resolve, raised]
  rfl

theorem resolve_stopped {root : Value} {key : String} {fault : Fault} (stops : root.Stops (steps key) fault) :
    resolve (.attributes root) key = if absentFromPath fault then .ok none else .error fault := by
  rw [resolve, (Value.walk_error_iff _ _ _).mpr stops]
  rfl

theorem Meets.resolve_ne {t : Target} {key : String} {fault : Fault} (meets : t.Meets key fault) (s : String) :
    t.resolve key ≠ .ok (some s) := by
  cases meets with
  | raised raised =>
    rw [resolve_raised raised]
    split <;> nofun
  | stopped stops =>
    rw [resolve_stopped stops]
    split <;> nofun

/-- An adapted target finds a value or meets a fault, except for a mapping that holds nothing for the
key, which has no answer. -/
theorem finds_or_meets {t : Target} (adapted : Adapted t) (key : String) :
    (∃ v, t.Finds key v) ∨ (∃ fault, t.Meets key fault) ∨ t.resolve key = .ok none := by
  rcases adapted.cases_on_kind with ⟨entries, rfl⟩ | ⟨call, rfl⟩ | ⟨root, rfl⟩
  · cases held : held? entries key with
    | some v => exact .inl ⟨v, .held ((held?_eq_some_iff _ _ _).mp held)⟩
    | none => exact .inr (.inr (by rw [resolve, held]; rfl))
  · cases called : call key with
    | ok v => exact .inl ⟨v, .given called⟩
    | error fault => exact .inr (.inl ⟨fault, .raised called⟩)
  · cases walked : root.walk (steps key) with
    | ok v => exact .inl ⟨v, .reached ((Value.walk_ok_iff _ _ _).mp walked)⟩
    | error fault => exact .inr (.inl ⟨fault, .stopped ((Value.walk_error_iff _ _ _).mp walked)⟩)

theorem absentFromCall_iff (fault : Fault) :
    absentFromCall fault = true ↔
      (fault.kind = .attribute ∨ fault.kind = .key) ∨ fault.kind = .index ∨ fault.kind = .lookup := by
  obtain ⟨kind, said⟩ := fault
  cases kind <;> simp [absentFromCall, Fault.isLookup]

theorem absentFromPath_iff (fault : Fault) :
    absentFromPath fault = true ↔ fault.kind = .attribute ∨ fault.kind = .key := by
  simp [absentFromPath]

/-- Where an adapted target lacks a key or an attribute, the field is absent, and so it is where a
function fails to look something up in any other way; but an index or another lookup that fails on a
path is passed on, like every fault that is no failed lookup. Without a fault there is no failure,
and the answers are the texts that are found. -/
theorem resolve_on_failed_lookup {t : Target} (adapted : Adapted t) (key : String) :
    (∀ fault, t.Meets key fault → fault.kind = .attribute ∨ fault.kind = .key →
        t.resolve key = .ok none) ∧
      (∀ fault, t.Meets key fault → fault.kind = .index ∨ fault.kind = .lookup →
        (∀ call, t = .function call → t.resolve key = .ok none) ∧
          ∀ root, t = .attributes root → t.resolve key = .error fault) ∧
      (∀ fault name, t.Meets key fault → fault.kind = .other name → t.resolve key = .error fault) ∧
      ((∀ fault, ¬ t.Meets key fault) → ∃ answer, t.resolve key = .ok answer) ∧
      ∀ s, t.resolve key = .ok (some s) ↔ t.Finds key (.text s) := by
  refine ⟨?_, ?_, ?_, ?_, ?_⟩
  · intro fault meets missing
    cases meets with
    | raised raised => rw [resolve_raised raised, if_pos ((absentFromCall_iff fault).mpr (.inl missing))]
    | stopped stops => rw [resolve_stopped stops, if_pos ((absentFromPath_iff fault).mpr missing)]
  · intro fault meets failed
    cases meets with
    | raised raised =>
      rw [resolve_raised raised, if_pos ((absentFromCall_iff fault).mpr (.inr failed))]
      exact ⟨fun _ _ => rfl, nofun⟩
    | stopped stops =>
      have kept : ¬ absentFromPath fault = true := by
        rw [absentFromPath_iff]
        rcases failed with same | same <;> simp [same]
      rw [resolve_stopped stops, if_neg kept]
      exact ⟨nofun, fun _ _ => rfl⟩
  · intro fault name meets other
    cases meets with
    | raised raised =>
      have kept : ¬ absentFromCall fault = true := by simp [absentFromCall_iff, other]
      rw [resolve_raised raised, if_neg kept]
    | stopped stops =>
      have kept : ¬ absentFromPath fault = true := by simp [absentFromPath_iff, other]
      rw [resolve_stopped stops, if_neg kept]
  · intro clear
    rcases finds_or_meets adapted key with ⟨v, finds⟩ | ⟨fault, meets⟩ | absent
    · exact ⟨_, finds.resolve⟩
    · exact absurd meets (clear fault)
    · exact ⟨none, absent⟩
  · intro s
    constructor
    · intro answered
      -- an answer that is a text comes from no fault, whatever faults are taken for
      rcases finds_or_meets adapted key with ⟨v, finds⟩ | ⟨fault, meets⟩ | absent
      · have same : v.text? = some s := Except.ok.inj (finds.resolve.symm.trans answered)
        cases v <;> cases same
        exact finds
      · exact absurd answered (meets.resolve_ne s)
      · cases absent.symm.trans answered
    · intro finds
      exact finds.resolve

/-- Orders with properties that raise where they are read. -/
def orders : Value :=
  .object ⟨"Orders", "orders"⟩
    [("first", .error ⟨.attribute, "no orders"⟩), ("last", .error ⟨.index, "list index out of range"⟩),
      ("total", .error ⟨.other "RuntimeError", "down"⟩)] [("__doc__", .null)]

/-- A profile with a mapping and with such orders. -/
def profile : Value :=
  .object ⟨"Profile", "profile"⟩
    [("address", .ok (.map .plain [(.text "city", .text "Leeds")])), ("orders", .ok orders)] [("__doc__", .null)]

theorem own_profile (guise : Guise) (entries : List (Value × Value)) : profile ≠ .source guise entries := by
  intro same
  cases same

theorem resolve_on_failed_lookup_profile :
    Adapted (ofValue profile) ∧ (ofValue profile).resolve "address.city" = .ok (some "Leeds") ∧
      (ofValue profile).resolve "address.zip" = .ok none ∧
      (ofValue profile).resolve "orders.first.date" = .ok none ∧
      (ofValue profile).resolve "orders.total" = .error ⟨.other "RuntimeError", "down"⟩ := by
  have adapted : Adapted (ofValue profile) := .value profile own_profile
  have city : profile.Reaches (steps "address.city") (.text "Leeds") := (Value.walk_ok_iff _ _ _).mp (by cbv)
  have zip : profile.Stops (steps "address.zip") ⟨.key, "zip"⟩ := (Value.walk_error_iff _ _ _).mp (by cbv)
  have first : profile.Stops (steps "orders.first.date") ⟨.attribute, "no orders"⟩ :=
    (Value.walk_error_iff _ _ _).mp (by cbv)
  have total : profile.Stops (steps "orders.total") ⟨.other "RuntimeError", "down"⟩ :=
    (Value.walk_error_iff _ _ _).mp (by cbv)
  obtain ⟨_, _, _, _, texts⟩ := resolve_on_failed_lookup adapted "address.city"
  obtain ⟨noKey, _⟩ := resolve_on_failed_lookup adapted "address.zip"
  obtain ⟨noAttribute, _⟩ := resolve_on_failed_lookup adapted "orders.first.date"
  obtain ⟨_, _, other, _⟩ := resolve_on_failed_lookup adapted "orders.total"
  exact ⟨adapted, (texts "Leeds").mpr (.reached city), noKey _ (.stopped zip) (.inr rfl),
    noAttribute _ (.stopped first) (.inl rfl), other _ _ (.stopped total) rfl⟩

/-- An index that fails on a path of this profile is passed on, although it is a failed lookup. -/
theorem resolve_raises_index_fault :
    Adapted (ofValue profile) ∧
      (ofValue profile).Meets "orders.last" ⟨.index, "list index out of range"⟩ ∧
      Fault.isLookup ⟨.index, "list index out of range"⟩ = true ∧
      (ofValue profile).resolve "orders.last" = .error ⟨.index, "list index out of range"⟩ ∧
      (ofValue profile).resolve "orders.last" ≠ .ok none := by
  have stops : profile.Stops (steps "orders.last") ⟨.index, "list index out of range"⟩ :=
    (Value.walk_error_iff _ _ _).mp (by cbv)
  have raised : (ofValue profile).resolve "orders.last" = .error ⟨.index, "list index out of range"⟩ :=
    resolve_stopped stops
  refine ⟨.value profile own_profile, .stopped stops, rfl, raised, ?_⟩
  rw [raised]
  intro same
  cases same

end FormRules.Target
