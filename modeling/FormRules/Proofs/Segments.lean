import FormRules.Text.Segments
import Mathlib.Data.List.TakeWhile

/-!
# Cutting texts

What `segments` and `cut?` give, said without them: the segments are the only row of texts without
the separator that joins to the text, and a cut is made at the first separator.
-/

namespace FormRules.Text

/-- The pieces of a text at a separator: at least one, none with the separator inside, and joined
by it they are the text. -/
structure Pieces (sep : Char) (s : String) (pieces : List String) : Prop where
  nonempty : pieces ≠ []
  clean : ∀ piece ∈ pieces, sep ∉ piece.toList
  joined : (String.singleton sep).intercalate pieces = s

private theorem not_mem_of_mem_splitOn {sep : Char} {cs piece : List Char}
    (member : piece ∈ cs.splitOn sep) : sep ∉ piece := by
  induction cs generalizing piece with
  | nil =>
    have same : piece = [] := by simpa using member
    simp [same]
  | cons c rest ih =>
    rw [List.splitOn_cons_eq_if_modifyHead] at member
    by_cases atSep : c = sep
    · simp only [atSep, beq_self_eq_true, ↓reduceIte] at member
      rcases List.mem_cons.mp member with same | later
      · simp [same]
      · exact ih later
    · simp only [beq_iff_eq, atSep, ↓reduceIte] at member
      obtain ⟨head, tail, shape⟩ := List.exists_cons_of_ne_nil (List.splitOn_ne_nil sep rest)
      rw [shape, List.modifyHead_cons] at member
      rcases List.mem_cons.mp member with same | later
      · subst same
        have headClean : sep ∉ head := ih (by simp [shape])
        simp [headClean, Ne.symm atSep]
      · exact ih (by simp [shape, later])

private theorem segments_pieces (sep : Char) (s : String) : Pieces sep s (segments sep s) := by
  refine ⟨segments_ne_nil sep s, ?_, intercalate_segments sep s⟩
  intro piece member
  obtain ⟨cs, inSplit, rfl⟩ := List.mem_map.mp member
  rw [String.toList_ofList]
  exact not_mem_of_mem_splitOn inSplit

private theorem pieces_eq {sep : Char} {s : String} {pieces : List String} (cut : Pieces sep s pieces) :
    pieces = segments sep s := by
  have letters : s.toList = [sep].intercalate (pieces.map String.toList) := by
    rw [← cut.joined, String.toList_intercalate, String.toList_singleton]
  have clean : ∀ cs ∈ pieces.map String.toList, sep ∉ cs := by
    intro cs member
    obtain ⟨piece, inPieces, rfl⟩ := List.mem_map.mp member
    exact cut.clean piece inPieces
  have nonempty : pieces.map String.toList ≠ [] := by simpa using cut.nonempty
  rw [segments, letters, List.splitOn_intercalate sep clean nonempty]
  simp [List.map_map, Function.comp_def]

/-- The segments of a text are its pieces, and there is no other row of pieces. -/
theorem pieces_iff (sep : Char) (s : String) (pieces : List String) :
    Pieces sep s pieces ↔ pieces = segments sep s :=
  ⟨pieces_eq, fun same => same ▸ segments_pieces sep s⟩

/-- A text with a separator is cut at the first one. -/
theorem cut?_append {sep : Char} {s : String} {front back : List Char}
    (shape : s.toList = front ++ sep :: back) (first : sep ∉ front) :
    cut? sep s = some (String.ofList front, String.ofList back) := by
  have before : ∀ c ∈ front, (c != sep) = true := by
    intro c member
    simpa using fun same : c = sep => first (same ▸ member)
  have dropped : s.toList.dropWhile (· != sep) = sep :: back := by
    rw [shape, List.dropWhile_append_of_pos before]
    simp
  have taken : s.toList.takeWhile (· != sep) = front := by
    rw [shape, List.takeWhile_append_of_pos before]
    simp
  rw [cut?, dropped, taken]

/-- A text has one first separator. -/
theorem cut_unique {sep : Char} {s : String} {front other back rest : List Char}
    (shape : s.toList = front ++ sep :: back) (first : sep ∉ front)
    (shape' : s.toList = other ++ sep :: rest) (first' : sep ∉ other) : front = other ∧ back = rest := by
  have cuts := (cut?_append shape first).symm.trans (cut?_append shape' first')
  simpa only [Option.some.injEq, Prod.mk.injEq, String.ofList_inj] using cuts

/-- A text without the separator is not cut. -/
theorem cut?_eq_none_iff (sep : Char) (s : String) : cut? sep s = none ↔ sep ∉ s.toList := by
  constructor
  · intro uncut member
    obtain ⟨front, back, shape, first⟩ := List.eq_append_cons_of_mem member
    cases uncut.symm.trans (cut?_append shape first)
  · intro absent
    have dropped : s.toList.dropWhile (· != sep) = [] := by
      rw [List.dropWhile_eq_nil_iff]
      intro c member
      simpa using fun same : c = sep => absent (same ▸ member)
    rw [cut?, dropped]

/-- A cut names what stands before and after the first separator. -/
theorem cut?_eq_some_iff (sep : Char) (s name rest : String) :
    cut? sep s = some (name, rest) ↔ s.toList = name.toList ++ sep :: rest.toList ∧ sep ∉ name.toList := by
  constructor
  · intro cut
    by_cases member : sep ∈ s.toList
    · obtain ⟨front, back, shape, first⟩ := List.eq_append_cons_of_mem member
      cases cut.symm.trans (cut?_append shape first)
      simp [shape, first]
    · cases cut.symm.trans ((cut?_eq_none_iff sep s).mpr member)
  · rintro ⟨shape, first⟩
    simpa using cut?_append shape first

/-- A text that is joined of two at a separator has the segments of the first and then those of the
second. -/
theorem segments_append (sep : Char) (a b : String) :
    segments sep (a ++ String.singleton sep ++ b) = segments sep a ++ segments sep b := by
  have letters : (a ++ String.singleton sep ++ b).toList = a.toList ++ sep :: b.toList := by simp
  rw [segments, letters, List.splitOn_append_cons_self, List.map_append]
  rfl

theorem length_segments (sep : Char) (s : String) : (segments sep s).length = s.toList.count sep + 1 := by
  rw [segments, List.length_map]
  induction s.toList with
  | nil => rfl
  | cons c rest ih =>
    rw [List.splitOn_cons_eq_if_modifyHead]
    by_cases atSep : c = sep
    · simp [atSep, ih]
    · simp [atSep, ih]

/-- A text with another text in the place of every separator. -/
def replaced (sep : Char) (other s : String) : String :=
  String.ofList (s.toList.flatMap fun c => if c = sep then other.toList else [c])

private theorem intercalate_splitOn_eq (sep : Char) (other cs : List Char) :
    other.intercalate (cs.splitOn sep) = cs.flatMap fun c => if c = sep then other else [c] := by
  induction cs with
  | nil => simp
  | cons c rest ih =>
    obtain ⟨head, tail, shape⟩ := List.exists_cons_of_ne_nil (List.splitOn_ne_nil sep rest)
    rw [List.splitOn_cons_eq_if_modifyHead, List.flatMap_cons, ← ih, shape]
    by_cases atSep : c = sep
    · simp [atSep]
    · cases tail <;> simp [atSep]

/-- Joining the segments of a text with another text puts that text in the place of every separator. -/
theorem intercalate_segments_eq_replaced (sep : Char) (other s : String) :
    other.intercalate (segments sep s) = replaced sep other s := by
  apply String.toList_injective
  rw [String.toList_intercalate, segments, List.map_map, replaced, String.toList_ofList, ← intercalate_splitOn_eq]
  simp [Function.comp_def]

theorem occursAmong_iff (part cs : List Char) : occursAmong part cs = true ↔ part <:+: cs := by
  induction cs with
  | nil => rw [occursAmong, List.isEmpty_iff, List.infix_nil]
  | cons c rest ih => rw [occursAmong, Bool.or_eq_true, List.isPrefixOf_iff_prefix, ih, List.infix_cons_iff]

theorem occursIn_iff (part s : String) : occursIn part s = true ↔ part.toList <:+: s.toList :=
  occursAmong_iff part.toList s.toList

theorem beginsWith_iff (start s : String) : beginsWith start s = true ↔ start.toList <+: s.toList := by
  rw [beginsWith, List.isPrefixOf_iff_prefix]

end FormRules.Text
