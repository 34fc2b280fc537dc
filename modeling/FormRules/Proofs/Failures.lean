import FormRules.Proofs.Fields
import Mathlib.Data.List.Induction

/-!
# Failures recorded one after the other

The report on a row of failures lists every field where it first comes in the row, and under it the
tokens that it fails, in the order of the row.
-/

namespace FormRules

/-- The tokens that one field fails, in the order of the row. -/
def tokensOf (field : String) (failures : List (String × String)) : List String :=
  (failures.filter fun failure => failure.1 = field).map Prod.snd

theorem tokensOf_append (field : String) (failures others : List (String × String)) :
    tokensOf field (failures ++ others) = tokensOf field failures ++ tokensOf field others := by
  simp [tokensOf]

theorem tokensOf_self (field token : String) : tokensOf field [(field, token)] = [token] := by
  simp [tokensOf]

theorem tokensOf_eq_nil_iff (field : String) (failures : List (String × String)) :
    tokensOf field failures = [] ↔ field ∉ failures.map Prod.fst := by
  rw [tokensOf, List.map_eq_nil_iff, List.filter_eq_nil_iff, List.mem_map, not_exists]
  refine forall_congr' fun failure => ?_
  simp

theorem getD_tokensOf (field : String) (failures : List (String × String)) :
    (if field ∈ failures.map Prod.fst then some (tokensOf field failures) else none).getD [] =
      tokensOf field failures := by
  by_cases known : field ∈ failures.map Prod.fst
  · rw [if_pos known]
    rfl
  · rw [if_neg known, (tokensOf_eq_nil_iff field failures).mpr known]
    rfl

theorem eraseDups_concat (names : List String) (name : String) :
    (names ++ [name]).eraseDups = if name ∈ names then names.eraseDups else names.eraseDups ++ [name] := by
  rw [List.eraseDups_append]
  by_cases earlier : name ∈ names
  · simp [List.removeAll, earlier]
  · simp [List.removeAll, earlier, List.eraseDups_cons]

/-- Names without repetitions are listed in the order in which they first come. -/
theorem pairwise_idxOf_eraseDups (names : List String) :
    names.eraseDups.Pairwise fun one two => names.idxOf one < names.idxOf two := by
  induction names using List.reverseRecOn with
  | nil => exact List.Pairwise.nil
  | append_singleton names name ih =>
    have before : names.eraseDups.Pairwise fun one two =>
        (names ++ [name]).idxOf one < (names ++ [name]).idxOf two := by
      refine ih.imp_of_mem fun first second earlier => ?_
      rw [List.idxOf_append_of_mem (List.mem_eraseDups.mp first), List.idxOf_append_of_mem (List.mem_eraseDups.mp second)]
      exact earlier
    rw [eraseDups_concat]
    by_cases known : name ∈ names
    · rw [if_pos known]
      exact before
    · rw [if_neg known]
      refine List.pairwise_append.mpr ⟨before, List.pairwise_singleton _ _, ?_⟩
      intro one member two last
      have inside := List.mem_eraseDups.mp member
      rw [List.mem_singleton.mp last, List.idxOf_append_of_mem inside, List.idxOf_append_of_notMem known]
      have bound := List.idxOf_lt_length_of_mem inside
      omega

namespace Report

/-- The report on a row of failures, each a field with a token that it fails. -/
def ofFailures (failures : List (String × String)) : Report :=
  failures.foldl (fun r failure => r.add failure.1 failure.2) .empty

theorem ofFailures_concat (failures : List (String × String)) (field token : String) :
    ofFailures (failures ++ [(field, token)]) = (ofFailures failures).add field token := by
  simp [ofFailures]

theorem failedFields_add (r : Report) (field token : String) :
    (r.add field token).failedFields =
      if field ∈ r.failedFields then r.failedFields else r.failedFields ++ [field] := by
  by_cases named : field ∈ r.failedFields
  · rw [if_pos named]
    exact Fields.names_alter_of_mem named _
  · rw [if_neg named]
    exact Fields.names_alter_of_not_mem named _

theorem nodup_failedFields (failures : List (String × String)) : (ofFailures failures).failedFields.Nodup := by
  induction failures using List.reverseRecOn with
  | nil => exact List.Pairwise.nil
  | append_singleton failures failure ih =>
    rw [ofFailures_concat]
    exact Fields.nodup_alter ih _

theorem failedFields_ofFailures (failures : List (String × String)) :
    (ofFailures failures).failedFields = (failures.map Prod.fst).eraseDups := by
  induction failures using List.reverseRecOn with
  | nil => rfl
  | append_singleton failures failure ih =>
    rw [ofFailures_concat, failedFields_add, ih, List.map_append, List.map_singleton, eraseDups_concat]
    simp only [List.mem_eraseDups]

theorem mem_failedFields (field : String) (failures : List (String × String)) :
    field ∈ (ofFailures failures).failedFields ↔ field ∈ failures.map Prod.fst := by
  rw [failedFields_ofFailures, List.mem_eraseDups]

/-- Under a field stand all tokens that are recorded for it, and nothing under any other. -/
theorem get?_ofFailures (field : String) (failures : List (String × String)) :
    (ofFailures failures).failures.get? field =
      if field ∈ failures.map Prod.fst then some (tokensOf field failures) else none := by
  induction failures using List.reverseRecOn with
  | nil => rfl
  | append_singleton failures failure ih =>
    obtain ⟨name, token⟩ := failure
    rw [ofFailures_concat, add, tokensOf_append]
    by_cases here : field = name
    · subst here
      have listed : field ∈ (failures ++ [(field, token)]).map Prod.fst := by simp
      rw [Fields.get?_alter_self, ih, getD_tokensOf, if_pos listed, tokensOf_self]
    · have listed : field ∈ (failures ++ [(name, token)]).map Prod.fst ↔ field ∈ failures.map Prod.fst := by
        simp [here]
      have noMore : tokensOf field [(name, token)] = [] := (tokensOf_eq_nil_iff _ _).mpr (by simpa using here)
      rw [Fields.get?_alter_of_ne here, ih, noMore, List.append_nil]
      simp only [listed]

end Report

end FormRules
