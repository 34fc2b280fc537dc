import FormRules.Proofs.Numeral
import FormRules.Value.Text

/-!
# Which values can be shown

A value is shown with all integers that it holds, at any depth. So it has a text unless one of
them has more digits than are converted, and then the failure says no more than that.
-/

namespace FormRules.Value

open Numeral (Overlong Unwritable)

/-- The values that a value is made of. -/
def parts : Value → List Value
  | .list items | .tuple items | .set items => items
  | .map _ entries => entries.flatMap fun entry => [entry.1, entry.2]
  | _ => []

/-- An integer stands in a value, by itself or at any depth. -/
inductive Holds (n : Int) : Value → Prop
  | self : Holds n (.int n)
  | part {v part : Value} (member : part ∈ v.parts) (held : Holds n part) : Holds n v

/-- A value that holds an integer of more digits than are converted. -/
def Unshowable (v : Value) : Prop := ∃ n, v.Holds n ∧ Unwritable n

theorem unshowable_iff (v : Value) :
    Unshowable v ↔ (∃ n, v = .int n ∧ Unwritable n) ∨ ∃ part ∈ v.parts, Unshowable part := by
  constructor
  · rintro ⟨n, held, long⟩
    cases held with
    | self => exact .inl ⟨n, rfl, long⟩
    | part member held => exact .inr ⟨_, member, n, held, long⟩
  · rintro (⟨n, rfl, long⟩ | ⟨part, member, n, held, long⟩)
    · exact ⟨n, .self, long⟩
    · exact ⟨n, .part member held, long⟩

theorem unshowable_map_iff (kind : MapKind) (entries : List (Value × Value)) :
    Unshowable (.map kind entries) ↔ ∃ entry ∈ entries, Unshowable entry.1 ∨ Unshowable entry.2 := by
  rw [unshowable_iff]
  simp only [reduceCtorEq, false_and, exists_false, false_or, parts, List.mem_flatMap, List.mem_cons,
    List.not_mem_nil, or_false]
  constructor
  · rintro ⟨part, ⟨entry, member, rfl | rfl⟩, unshowable⟩
    · exact ⟨entry, member, .inl unshowable⟩
    · exact ⟨entry, member, .inr unshowable⟩
  · rintro ⟨entry, member, unshowable | unshowable⟩
    · exact ⟨entry.1, ⟨entry, member, .inl rfl⟩, unshowable⟩
    · exact ⟨entry.2, ⟨entry, member, .inr rfl⟩, unshowable⟩

/-- A step that fails exactly under a condition, and then without saying more. -/
private def FailsIf {α : Type} (run : Except Overlong α) (condition : Prop) : Prop :=
  ∀ refused, run = .error refused ↔ condition ∧ refused = .number

private theorem failsIf_pure {α : Type} (a : α) : FailsIf (pure a) False :=
  fun _ => ⟨nofun, fun ⟨impossible, _⟩ => impossible.elim⟩

private theorem FailsIf.bind {α β : Type} {first : Except Overlong α} {next : α → Except Overlong β}
    {one two : Prop} (fails : FailsIf first one) (later : ∀ a, FailsIf (next a) two) :
    FailsIf (first >>= next) (one ∨ two) := by
  intro refused
  cases ran : first with
  | error failure =>
    obtain ⟨holds, rfl⟩ := (fails failure).mp ran
    change Except.error Overlong.number = Except.error refused ↔ _
    simp [holds, eq_comm]
  | ok a =>
    have passed : ¬ one := fun holds => by cases ran.symm.trans ((fails .number).mpr ⟨holds, rfl⟩)
    rw [or_iff_right passed]
    exact later a refused

mutual

/-- A value has no text inside a message exactly if it holds an integer that is too long. -/
theorem literal_error_iff (v : Value) (refused : Overlong) :
    v.literal = .error refused ↔ Unshowable v ∧ refused = .number := by
  cases v with
  | int n =>
    rw [unshowable_iff]
    simp [literal, Numeral.write_error_iff, parts]
  | list items =>
    rw [literal, unshowable_iff, or_comm]
    exact (FailsIf.bind (literals_error_iff items) (fun _ => failsIf_pure _) refused).trans (by simp [parts])
  | tuple items =>
    rw [literal, unshowable_iff, or_comm]
    exact (FailsIf.bind (literals_error_iff items) (fun _ => failsIf_pure _) refused).trans (by simp [parts])
  | set members =>
    rw [literal, unshowable_iff, or_comm]
    exact (FailsIf.bind (literals_error_iff members) (fun _ => failsIf_pure _) refused).trans (by simp [parts])
  | map kind entries =>
    rw [literal, unshowable_map_iff]
    exact (FailsIf.bind (entryLiterals_error_iff entries) (fun _ => failsIf_pure _) refused).trans (by simp)
  | _ =>
    rw [unshowable_iff]
    simp [literal, parts]

theorem literals_error_iff (items : List Value) (refused : Overlong) :
    literals items = .error refused ↔ (∃ v ∈ items, Unshowable v) ∧ refused = .number := by
  cases items with
  | nil => simp [literals]
  | cons v rest =>
    simp only [literals, List.mem_cons, exists_eq_or_imp]
    exact (FailsIf.bind (literal_error_iff v) (fun _ => FailsIf.bind (literals_error_iff rest)
      fun _ => failsIf_pure _) refused).trans (by rw [or_false])

theorem entryLiterals_error_iff (entries : List (Value × Value)) (refused : Overlong) :
    entryLiterals entries = .error refused ↔
      (∃ entry ∈ entries, Unshowable entry.1 ∨ Unshowable entry.2) ∧ refused = .number := by
  cases entries with
  | nil => simp [entryLiterals]
  | cons entry rest =>
    obtain ⟨k, v⟩ := entry
    simp only [entryLiterals, List.mem_cons, exists_eq_or_imp, or_assoc]
    exact (FailsIf.bind (literal_error_iff k) (fun _ => FailsIf.bind (literal_error_iff v)
      fun _ => FailsIf.bind (entryLiterals_error_iff rest) fun _ => failsIf_pure _) refused).trans
      (by rw [or_false])

end

/-- A value by itself has no text exactly if it has none inside a message. -/
theorem display_error_iff (v : Value) (refused : Overlong) :
    v.display = .error refused ↔ Unshowable v ∧ refused = .number := by
  unfold display
  split
  · rw [unshowable_iff]
    simp [parts]
  · rw [unshowable_iff]
    simp [parts]
  · rw [unshowable_iff]
    simp [parts]
  · rw [literal_error_iff, unshowable_map_iff, unshowable_map_iff]
  · exact literal_error_iff _ refused

theorem shown_of_showable {v : Value} (showable : ¬ Unshowable v) :
    (∃ text, v.display = .ok text) ∧ ∃ text, v.literal = .ok text := by
  constructor
  · cases shown : v.display with
    | ok text => exact ⟨text, rfl⟩
    | error refused => exact absurd ((display_error_iff v refused).mp shown).1 showable
  · cases shown : v.literal with
    | ok text => exact ⟨text, rfl⟩
    | error refused => exact absurd ((literal_error_iff v refused).mp shown).1 showable

end FormRules.Value
