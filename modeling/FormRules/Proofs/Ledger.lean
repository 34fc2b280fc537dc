import FormRules.Proofs.Failures

/-!
# Reports kept in two containers

A ledger keeps the failed fields in a list and the tokens of each field in a record beside it. Both
are written under one condition, and a reader looks at one of them only. What a caller gets is a
copy of the list, at a place of its own, to which the caller may append at any time.
-/

namespace FormRules

/-- The lists by place, the place of the failed fields, the places of the copies that callers have,
and the tokens of every failed field. -/
structure Ledger where
  lists : List (List String)
  own : Nat
  handed : List Nat
  tokens : Fields (List String)

namespace Ledger

/-- The ledger without failures: one list, which is empty and its own. -/
def empty : Ledger := ⟨[[]], 0, [], []⟩

/-- The list at a place; nothing stands beyond the last place. -/
def listAt (l : Ledger) (place : Nat) : List String := (l.lists[place]?).getD []

/-- The failed fields, as the list of the ledger has them. -/
def failedFields (l : Ledger) : List String := l.listAt l.own

/-- Whether no field has failed, by the list alone. -/
def isValid (l : Ledger) : Bool := l.failedFields.isEmpty

/-- Whether a field has failed, by the record of tokens alone. -/
def contains (l : Ledger) (field : String) : Bool := (l.tokens.get? field).isSome

/-- Appends a text to the list at a place, whoever holds it. -/
def write (l : Ledger) (place : Nat) (text : String) : Ledger :=
  { l with lists := l.lists.modify place (· ++ [text]) }

/-- Enters a field in both containers, unless it has tokens already. -/
def enter (l : Ledger) (field : String) : Ledger :=
  if l.contains field then l else { l.write l.own field with tokens := l.tokens.put field [] }

/-- Adds a token to those of a field. -/
def append (l : Ledger) (field token : String) : Ledger :=
  { l with tokens := l.tokens.alter field fun earlier => earlier.getD [] ++ [token] }

/-- Records a token that a field has failed. -/
def add (l : Ledger) (field token : String) : Ledger := (l.enter field).append field token

/-- Copies the failed fields to a new place for a caller, if there are any. -/
def handOut (l : Ledger) : Option Nat × Ledger :=
  if l.isValid then (none, l)
  else
    let place := l.lists.length
    (some place, { l with lists := l.lists ++ [l.failedFields], handed := l.handed ++ [place] })

/-- What a caller reads in the copy that is handed out to it. -/
def failedFields? (l : Ledger) : Option (List String) := l.handOut.1.map l.handOut.2.listAt

/-- What is done to a ledger and to the copies that callers have. -/
inductive Step where
  | add (field token : String)
  | handOut
  | write (copy : Nat) (text : String)

/-- The ledger after a step. A caller can write to copies that it was given, and to nothing else. -/
def step (l : Ledger) : Step → Ledger
  | .add field token => l.add field token
  | .handOut => l.handOut.2
  | .write copy text => (l.handed[copy]?).elim l fun place => l.write place text

/-- The ledger after steps one after the other. -/
def after (l : Ledger) (steps : List Step) : Ledger := steps.foldl step l

/-- The failure that a step records. -/
def Step.failure? : Step → Option (String × String)
  | .add field token => some (field, token)
  | _ => none

/-- The failures that steps record, in order. -/
def failures (steps : List Step) : List (String × String) := steps.filterMap Step.failure?

/-! ## One step -/

theorem listAt_write_self {l : Ledger} {place : Nat} (inside : place < l.lists.length) (text : String) :
    (l.write place text).listAt place = l.listAt place ++ [text] := by
  simp [write, listAt, inside]

theorem listAt_write_of_ne {l : Ledger} {place other : Nat} (differ : place ≠ other) (text : String) :
    (l.write place text).listAt other = l.listAt other := by
  simp [write, listAt, differ]

/-- The ledger holds the same as the report, and no caller has its list of failed fields. -/
structure Keeps (l : Ledger) (r : Report) : Prop where
  inside : l.own < l.lists.length
  apart : l.own ∉ l.handed
  fields : l.failedFields = r.failedFields
  tokens : l.tokens = r.failures

theorem keeps_empty : empty.Keeps .empty :=
  ⟨Nat.zero_lt_one, List.not_mem_nil, rfl, rfl⟩

variable {l : Ledger} {r : Report}

theorem Keeps.contains_iff (keeps : l.Keeps r) (field : String) :
    l.contains field = true ↔ field ∈ r.failedFields := by
  rw [contains, keeps.tokens]
  exact Fields.get?_isSome_iff field r.failures

theorem Keeps.append (keeps : l.Keeps r) {field : String} (known : field ∈ r.failedFields) (token : String) :
    (l.append field token).Keeps (r.add field token) := by
  refine ⟨keeps.inside, keeps.apart, ?_, ?_⟩
  · rw [Report.failedFields_add, if_pos known]
    exact keeps.fields
  · rw [Ledger.append, keeps.tokens]
    rfl

theorem Keeps.enter (keeps : l.Keeps r) {field : String} (fresh : field ∉ r.failedFields) :
    (l.enter field).Keeps ⟨r.failures ++ [(field, [])]⟩ := by
  have entered : l.enter field = { l.write l.own field with tokens := l.tokens.put field [] } :=
    if_neg (mt (keeps.contains_iff field).mp fresh)
  rw [entered]
  -- the field comes to the end of both containers, for the time being without tokens
  refine ⟨?_, keeps.apart, ?_, ?_⟩
  · simpa [write] using keeps.inside
  · have appended : (l.write l.own field).listAt l.own = l.failedFields ++ [field] :=
      listAt_write_self keeps.inside field
    rw [Report.failedFields, Fields.names_append]
    exact appended.trans (congrArg (· ++ [field]) keeps.fields)
  · rw [keeps.tokens]
    exact Fields.alter_absent fresh _

theorem Keeps.add (keeps : l.Keeps r) (field token : String) : (l.add field token).Keeps (r.add field token) := by
  by_cases known : field ∈ r.failedFields
  · have entered : l.enter field = l := if_pos ((keeps.contains_iff field).mpr known)
    rw [Ledger.add, entered]
    exact keeps.append known token
  · have listed : field ∈ Report.failedFields ⟨r.failures ++ [(field, [])]⟩ := by simp [Report.failedFields]
    have same : Report.add ⟨r.failures ++ [(field, [])]⟩ field token = r.add field token := by
      rw [Report.add, Report.add, Fields.alter_split known, Fields.alter_absent known]
      rfl
    rw [← same]
    exact (keeps.enter known).append listed token

theorem Keeps.handOut (keeps : l.Keeps r) : l.handOut.2.Keeps r := by
  cases valid : l.isValid with
  | true =>
    rw [Ledger.handOut, if_pos valid]
    exact keeps
  | false =>
    rw [Ledger.handOut, if_neg (by simp [valid])]
    refine ⟨?_, ?_, ?_, keeps.tokens⟩
    · rw [List.length_append]
      exact Nat.lt_add_right _ keeps.inside
    · have fresh : l.own ≠ l.lists.length := Nat.ne_of_lt keeps.inside
      simpa using ⟨keeps.apart, fresh⟩
    · have unmoved : (l.lists ++ [l.failedFields])[l.own]? = l.lists[l.own]? :=
        List.getElem?_append_left keeps.inside
      rw [← keeps.fields, failedFields, listAt, unmoved]
      rfl

theorem Keeps.write (keeps : l.Keeps r) {place : Nat} (copy : place ∈ l.handed) (text : String) :
    (l.write place text).Keeps r := by
  -- a caller has copies only, so what is written is not what is read
  have differ : place ≠ l.own := fun same => keeps.apart (same ▸ copy)
  refine ⟨?_, keeps.apart, ?_, keeps.tokens⟩
  · simpa [Ledger.write] using keeps.inside
  · rw [← keeps.fields]
    exact listAt_write_of_ne differ text

/-- A step changes the report only if it records a failure. -/
theorem Keeps.step (keeps : l.Keeps r) (taken : Step) :
    (l.step taken).Keeps (taken.failure?.elim r fun failure => r.add failure.1 failure.2) := by
  cases taken with
  | add field token => exact keeps.add field token
  | handOut => exact keeps.handOut
  | write copy text =>
    rw [Ledger.step]
    cases found : l.handed[copy]? with
    | none => exact keeps
    | some place => exact keeps.write (List.mem_of_getElem? found) text

/-! ## Runs -/

theorem ofFailures_concat (steps : List Step) (last : Step) :
    Report.ofFailures (failures (steps ++ [last])) =
      last.failure?.elim (.ofFailures (failures steps))
        fun failure => (Report.ofFailures (failures steps)).add failure.1 failure.2 := by
  cases last <;> simp [failures, List.filterMap_cons, Step.failure?, Report.ofFailures]

/-- Only the recorded failures decide what a ledger holds after a run. -/
theorem keeps_after (steps : List Step) : (empty.after steps).Keeps (.ofFailures (failures steps)) := by
  induction steps using List.reverseRecOn with
  | nil => exact keeps_empty
  | append_singleton steps last ih =>
    have run : empty.after (steps ++ [last]) = (empty.after steps).step last := by simp [after]
    rw [run, ofFailures_concat]
    exact ih.step last

end Ledger

/-! ## What readers see -/

/-- What is shown of the failures: the failed fields, their tokens, whether there are none, which
fields are among them, and the list for a caller. -/
structure Shown where
  failedFields : List String
  tokens : Fields (List String)
  isValid : Bool
  contains : String → Bool
  failedFields? : Option (List String)

/-- What a report shows. -/
def Report.shown (r : Report) : Shown :=
  ⟨r.failedFields, r.failures, r.isValid, r.contains, r.failedFields?⟩

/-- What a ledger shows. -/
def Ledger.shown (l : Ledger) : Shown :=
  ⟨l.failedFields, l.tokens, l.isValid, l.contains, l.failedFields?⟩

/-- What is shown is a row of failures, by field. -/
structure Shown.Reflects (s : Shown) (failures : List (String × String)) : Prop where
  names : s.failedFields = s.tokens.names
  distinct : s.failedFields.Nodup
  listed : ∀ field, field ∈ s.failedFields ↔ field ∈ failures.map Prod.fst
  order : s.failedFields.Pairwise fun one two =>
    (failures.map Prod.fst).idxOf one < (failures.map Prod.fst).idxOf two
  tokens : ∀ field, s.tokens.get? field =
    if field ∈ failures.map Prod.fst then some (tokensOf field failures) else none
  nonempty : ∀ field, s.tokens.get? field ≠ some []
  contains : ∀ field, s.contains field = true ↔ field ∈ failures.map Prod.fst
  valid : s.isValid = true ↔ failures = []
  optional : s.failedFields? = if failures = [] then none else some s.failedFields
  never : s.failedFields? ≠ some []

namespace Report

theorem isValid_iff (r : Report) : r.isValid = true ↔ r.failedFields = [] :=
  List.isEmpty_iff.trans List.map_eq_nil_iff.symm

theorem isValid_ofFailures (failures : List (String × String)) :
    (ofFailures failures).isValid = true ↔ failures = [] := by
  rw [isValid_iff, List.eq_nil_iff_forall_not_mem]
  constructor
  · intro nothing
    refine List.eq_nil_iff_forall_not_mem.mpr fun failure member => ?_
    exact nothing failure.1 ((mem_failedFields _ _).mpr (List.mem_map_of_mem member))
  · rintro rfl field member
    cases member

theorem shown_ofFailures (failures : List (String × String)) : (ofFailures failures).shown.Reflects failures where
  names := rfl
  distinct := nodup_failedFields failures
  listed field := mem_failedFields field failures
  order := by
    have sorted := pairwise_idxOf_eraseDups (failures.map Prod.fst)
    rwa [← failedFields_ofFailures] at sorted
  tokens field := get?_ofFailures field failures
  nonempty field := by
    intro nothing
    have under := (get?_ofFailures field failures).symm.trans nothing
    by_cases known : field ∈ failures.map Prod.fst
    · rw [if_pos known] at under
      exact (tokensOf_eq_nil_iff field failures).mp (Option.some.inj under) known
    · rw [if_neg known] at under
      cases under
  contains field := (Fields.get?_isSome_iff field _).trans (mem_failedFields field failures)
  valid := isValid_ofFailures failures
  optional := by
    have same := isValid_ofFailures failures
    by_cases nothing : failures = []
    · rw [if_pos nothing]
      exact if_pos (same.mpr nothing)
    · rw [if_neg nothing]
      exact if_neg (mt same.mp nothing)
  never := by
    intro blank
    by_cases valid : (ofFailures failures).isValid = true
    · simp [shown, failedFields?, valid] at blank
    · have fields : (ofFailures failures).failedFields = [] := by simpa [shown, failedFields?, valid] using blank
      exact valid ((isValid_iff _).mpr fields)

end Report

namespace Ledger

theorem Keeps.shown {l : Ledger} {r : Report} (keeps : l.Keeps r) : l.shown = r.shown := by
  have valid : l.isValid = r.isValid := by
    rw [isValid, keeps.fields]
    exact List.isEmpty_map
  have contains : l.contains = r.contains := by
    funext field
    rw [Ledger.contains, keeps.tokens]
    rfl
  have optional : l.failedFields? = r.failedFields? := by
    rw [failedFields?, Ledger.handOut, Report.failedFields?, ← valid]
    by_cases nothing : l.isValid = true
    · rw [if_pos nothing, if_pos nothing]
      rfl
    · rw [if_neg nothing, if_neg nothing, ← keeps.fields]
      simp [listAt]
  rw [Ledger.shown, Report.shown, keeps.fields, keeps.tokens, valid, contains, optional]

/-- Whatever callers do with their copies, a ledger shows what a report on the recorded failures
shows: every field where it first comes among them, with all its tokens in order. -/
theorem shown_after (steps : List Step) :
    (empty.after steps).shown = (Report.ofFailures (failures steps)).shown ∧
      (empty.after steps).shown.Reflects (failures steps) := by
  have same := (keeps_after steps).shown
  refine ⟨same, ?_⟩
  rw [same]
  exact Report.shown_ofFailures (failures steps)

example : (empty.after [.add "b" "required", .handOut, .write 0 "c", .add "a" "required", .add "b" "email",
    .write 0 "d"]).shown.failedFields? = some ["b", "a"] := by decide

end Ledger

end FormRules
