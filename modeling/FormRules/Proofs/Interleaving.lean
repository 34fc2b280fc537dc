import FormRules.Proofs.Ledger
import Mathlib.Logic.Relation

/-!
# Failures recorded in another order

Two rows of failures give equal reports exactly if they name the fields first in the same order and
agree on the tokens of every field. Such rows can be turned into each other by moving failures of
fields that have failed before past failures of other fields: both can be brought to the row that
lists the failures field by field.
-/

namespace FormRules

/-- The fields come first in the same order, and every field fails the same tokens in order. -/
structure SameByField (failures others : List (String × String)) : Prop where
  fields : (failures.map Prod.fst).eraseDups = (others.map Prod.fst).eraseDups
  tokens : ∀ field, tokensOf field failures = tokensOf field others

/-- A failure of a field that has failed before, moved past failures of other fields. -/
inductive Moved : List (String × String) → List (String × String) → Prop
  | past {before middle : List (String × String)} {field : String} (known : field ∈ before.map Prod.fst)
      (others : field ∉ middle.map Prod.fst) (token : String) (later : List (String × String)) :
      Moved (before ++ (field, token) :: (middle ++ later)) (before ++ middle ++ (field, token) :: later)

theorem eraseDups_known {name : String} {names : List String} (known : name ∈ names) (later : List String) :
    (names ++ name :: later).eraseDups = (names ++ later).eraseDups := by
  have removed : (name :: later).removeAll names = later.removeAll names := by simp [List.removeAll, known]
  rw [List.eraseDups_append, removed, ← List.eraseDups_append]

theorem tokensOf_cons (field : String) (failure : String × String) (failures : List (String × String)) :
    tokensOf field (failure :: failures) = tokensOf field [failure] ++ tokensOf field failures :=
  tokensOf_append field [failure] failures

theorem Moved.sameByField {failures others : List (String × String)} (moved : Moved failures others) :
    SameByField failures others := by
  obtain @⟨before, middle, field, known, absent, token, later⟩ := moved
  constructor
  · have knownLater : field ∈ before.map Prod.fst ++ middle.map Prod.fst := List.mem_append_left _ known
    simp only [List.map_append, List.map_cons]
    rw [eraseDups_known known, eraseDups_known knownLater, List.append_assoc]
  · intro name
    have swapped : tokensOf name [(field, token)] ++ tokensOf name middle =
        tokensOf name middle ++ tokensOf name [(field, token)] := by
      by_cases same : name = field
      · rw [same, (tokensOf_eq_nil_iff field middle).mpr absent, List.append_nil, List.nil_append]
      · have none : tokensOf name [(field, token)] = [] := (tokensOf_eq_nil_iff _ _).mpr (by simpa using same)
        rw [none, List.append_nil, List.nil_append]
    calc tokensOf name (before ++ (field, token) :: (middle ++ later))
        = tokensOf name before ++ ((tokensOf name [(field, token)] ++ tokensOf name middle) ++ tokensOf name later) := by
          rw [tokensOf_append, tokensOf_cons, tokensOf_append name middle, List.append_assoc]
      _ = tokensOf name before ++ ((tokensOf name middle ++ tokensOf name [(field, token)]) ++ tokensOf name later) := by
          rw [swapped]
      _ = tokensOf name (before ++ middle ++ (field, token) :: later) := by
          rw [tokensOf_append, tokensOf_append, tokensOf_cons name _ later]
          simp only [List.append_assoc]

theorem Moved.append {failures others : List (String × String)} (moved : Moved failures others)
    (more : List (String × String)) : Moved (failures ++ more) (others ++ more) := by
  obtain ⟨known, absent, token, later⟩ := moved
  simpa using Moved.past known absent token (later ++ more)

namespace Report

theorem eq_iff_sameByField (failures others : List (String × String)) :
    ofFailures failures = ofFailures others ↔ SameByField failures others := by
  constructor
  · intro same
    constructor
    · rw [← failedFields_ofFailures, ← failedFields_ofFailures, same]
    · intro field
      rw [← getD_tokensOf, ← get?_ofFailures, same, get?_ofFailures, getD_tokensOf]
  · intro same
    have names : (ofFailures failures).failedFields = (ofFailures others).failedFields := by
      rw [failedFields_ofFailures, failedFields_ofFailures, same.fields]
    have under : ∀ field, (ofFailures failures).failures.get? field = (ofFailures others).failures.get? field := by
      intro field
      have listed : field ∈ failures.map Prod.fst ↔ field ∈ others.map Prod.fst := by
        rw [← mem_failedFields, names, mem_failedFields]
      rw [get?_ofFailures, get?_ofFailures, same.tokens field]
      simp only [listed]
    exact congrArg mk (Fields.ext_of_names (nodup_failedFields failures) names under)

/-! ## Rows that list the failures field by field -/

/-- The failures of a record, field by field. -/
def row (failures : Fields (List String)) : List (String × String) :=
  failures.flatMap fun entry => entry.2.map fun token => (entry.1, token)

theorem row_split (field : String) (tokens : List String) (before later : Fields (List String)) :
    row (before ++ (field, tokens) :: later) =
      row before ++ (tokens.map fun token => (field, token)) ++ row later := by
  simp [row]

theorem mem_names_of_mem_row {field : String} {failures : Fields (List String)}
    (member : field ∈ (row failures).map Prod.fst) : field ∈ failures.names := by
  obtain ⟨failure, inRow, rfl⟩ := List.mem_map.mp member
  obtain ⟨entry, inside, token⟩ := List.mem_flatMap.mp inRow
  obtain ⟨_, _, rfl⟩ := List.mem_map.mp token
  exact List.mem_map_of_mem inside

/-- The entry of a field that failed something, with its first failure set apart. -/
theorem entry_of_known {failures : List (String × String)} {field : String}
    (known : field ∈ (ofFailures failures).failedFields) :
    ∃ before first tokens later, (ofFailures failures).failures = before ++ (field, first :: tokens) :: later ∧
      field ∉ Fields.names before ∧ field ∉ Fields.names later := by
  have recorded := (mem_failedFields field failures).mp known
  have found := get?_ofFailures field failures
  rw [if_pos recorded] at found
  obtain ⟨before, later, split⟩ := List.append_of_mem (Fields.mem_of_get? found)
  have distinct := nodup_failedFields failures
  rw [failedFields, split, Fields.names_append, Fields.names_cons] at distinct
  obtain ⟨-, distinctLater, apart⟩ := List.nodup_append.mp distinct
  cases tokens : tokensOf field failures with
  | nil => exact absurd recorded ((tokensOf_eq_nil_iff field failures).mp tokens)
  | cons first rest =>
    rw [tokens] at split
    refine ⟨before, first, rest, later, split, ?_, (List.nodup_cons.mp distinctLater).1⟩
    exact fun member => apart field member field List.mem_cons_self rfl

theorem row_add (failures : List (String × String)) (field token : String) :
    Relation.ReflTransGen Moved (row ((ofFailures failures).add field token).failures)
      (row (ofFailures failures).failures ++ [(field, token)]) := by
  by_cases known : field ∈ (ofFailures failures).failedFields
  · obtain ⟨before, first, tokens, later, split, absent, absentLater⟩ := entry_of_known known
    have added : ((ofFailures failures).add field token).failures =
        before ++ (field, first :: tokens ++ [token]) :: later := by
      rw [add, split]
      exact Fields.alter_split absent _ _ _
    have earlier : field ∈ (row before ++ (first :: tokens).map fun token => (field, token)).map Prod.fst := by simp
    have passed : field ∉ (row later).map Prod.fst := mt mem_names_of_mem_row absentLater
    -- the last failure moves to the others of its field, past the failures of all later fields
    have moved := Moved.past earlier passed token []
    rw [added, split, row_split, row_split]
    exact .single (by simpa using moved)
  · have absent : field ∉ Fields.names (ofFailures failures).failures := known
    have added : row ((ofFailures failures).add field token).failures =
        row (ofFailures failures).failures ++ [(field, token)] := by
      rw [add, Fields.alter_absent absent, row_split]
      simp [row]
    rw [added]

theorem row_moves (failures : List (String × String)) :
    Relation.ReflTransGen Moved (row (ofFailures failures).failures) failures := by
  induction failures using List.reverseRecOn with
  | nil => exact .refl
  | append_singleton failures failure ih =>
    have earlier := ih.lift (· ++ [failure]) fun _ _ moved => moved.append [failure]
    rw [ofFailures_concat]
    exact (row_add failures failure.1 failure.2).trans earlier

/-- Rows give equal reports exactly if moves turn one into the other. -/
theorem eq_iff_moves (failures others : List (String × String)) :
    ofFailures failures = ofFailures others ↔ Relation.EqvGen Moved failures others := by
  constructor
  · intro same
    -- both rows come from the row that lists the failures field by field
    have one := Relation.EqvGen.reflTransGen_le_eqvGen Moved _ _ (row_moves failures)
    have two := Relation.EqvGen.reflTransGen_le_eqvGen Moved _ _ (row_moves others)
    rw [← same] at two
    exact .trans _ _ _ (.symm _ _ one) two
  · intro moves
    induction moves with
    | rel failures others moved => exact (eq_iff_sameByField failures others).mpr moved.sameByField
    | refl failures => rfl
    | symm failures others _ ih => exact ih.symm
    | trans failures between others _ _ ih ihLater => exact ih.trans ihLater

end Report

/-! ## Ledgers -/

namespace Fields

variable {α : Type} [DecidableEq α]

/-- Whether two records have the same entries, in any order. -/
def sameEntries (fields others : Fields α) : Bool :=
  fields.length == others.length && fields.all fun entry => others.get? entry.1 == some entry.2

theorem sameEntries_iff {fields others : Fields α} (distinct : fields.names.Nodup)
    (names : fields.names = others.names) : fields.sameEntries others = true ↔ fields = others := by
  constructor
  · intro same
    rw [sameEntries, Bool.and_eq_true, List.all_eq_true] at same
    refine ext_of_names distinct names fun name => ?_
    cases found : fields.get? name with
    | some a => exact (eq_of_beq (same.2 (name, a) (mem_of_get? found))).symm
    | none =>
      have absent := (get?_eq_none_iff name fields).mp found
      rw [names] at absent
      exact ((get?_eq_none_iff name others).mpr absent).symm
  · rintro rfl
    rw [sameEntries, Bool.and_eq_true, List.all_eq_true]
    refine ⟨beq_self_eq_true _, fun entry member => ?_⟩
    exact beq_iff_eq.mpr ((get?_eq_some_iff distinct entry.1 entry.2).mpr member)

end Fields

namespace Ledger

/-- Whether two ledgers have equal containers: the fields in order, their tokens in any order. -/
def isSameAs (l other : Ledger) : Bool :=
  l.failedFields == other.failedFields && l.tokens.sameEntries other.tokens

theorem Keeps.isSameAs_iff {l other : Ledger} {r s : Report} (keeps : l.Keeps r) (keeps' : other.Keeps s)
    (distinct : r.failedFields.Nodup) : l.isSameAs other = true ↔ r = s := by
  rw [isSameAs, keeps.fields, keeps'.fields, keeps.tokens, keeps'.tokens, Bool.and_eq_true, beq_iff_eq]
  constructor
  · rintro ⟨names, same⟩
    exact congrArg Report.mk ((Fields.sameEntries_iff distinct names).mp same)
  · rintro rfl
    exact ⟨rfl, (Fields.sameEntries_iff distinct rfl).mpr rfl⟩

/-- Two ledgers are the same after their runs exactly if the recorded failures are the same by
field, as are the reports on them. So moving a failure of a field that has failed before past
failures of others changes nothing, and such moves account for all that can be changed. -/
theorem isSameAs_after_iff (steps others : List Step) :
    ((empty.after steps).isSameAs (empty.after others) = true ↔
      SameByField (failures steps) (failures others)) ∧
    (Report.ofFailures (failures steps) = Report.ofFailures (failures others) ↔
      SameByField (failures steps) (failures others)) ∧
    ((empty.after steps).isSameAs (empty.after others) = true ↔
      Relation.EqvGen Moved (failures steps) (failures others)) ∧
    (Moved (failures steps) (failures others) →
      (empty.after steps).isSameAs (empty.after others) = true ∧
        Report.ofFailures (failures steps) = Report.ofFailures (failures others)) := by
  have reports := Report.eq_iff_sameByField (failures steps) (failures others)
  have ledgers := (keeps_after steps).isSameAs_iff (keeps_after others) (Report.nodup_failedFields _)
  have moves := Report.eq_iff_moves (failures steps) (failures others)
  refine ⟨ledgers.trans reports, reports, ledgers.trans moves, fun moved => ?_⟩
  have same := reports.mpr moved.sameByField
  exact ⟨ledgers.mpr same, same⟩

/-- Two fields that fail twice each. -/
def failedTwice : List Step :=
  [.add "b" "required", .add "a" "required", .add "b" "email", .add "a" "min:3"]

/-- The same failures, the second ones the other way round, where a caller writes to a copy. -/
def failedTwiceMoved : List Step :=
  [.add "b" "required", .add "a" "required", .handOut, .write 0 "c", .add "a" "min:3", .add "b" "email"]

theorem isSameAs_after_failedTwice :
    Moved (failures failedTwice) (failures failedTwiceMoved) ∧
      (empty.after failedTwice).isSameAs (empty.after failedTwiceMoved) = true := by
  have known : "b" ∈ [("b", "required"), ("a", "required")].map Prod.fst := by decide
  have apart : "b" ∉ [("a", "min:3")].map Prod.fst := by decide
  have moved : Moved (failures failedTwice) (failures failedTwiceMoved) := Moved.past known apart "email" []
  exact ⟨moved, ((isSameAs_after_iff failedTwice failedTwiceMoved).2.2.2 moved).1⟩

end Ledger

end FormRules
