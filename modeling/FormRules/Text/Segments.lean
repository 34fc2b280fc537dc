/-!
# Segments of a text

Texts cut at a separator: rule strings into tokens, key paths into steps, tokens into a name and a
parameter. There is always one segment more than there are separators, and joining the segments
with the separator gives the text back.
-/

namespace FormRules.Text

/-- The pieces of a text between the occurrences of a separator. -/
def segments (sep : Char) (s : String) : List String :=
  (s.toList.splitOn sep).map String.ofList

/-- What stands before and after the first separator, if there is one. -/
def cut? (sep : Char) (s : String) : Option (String × String) :=
  match s.toList.dropWhile (· != sep) with
  | [] => none
  | _ :: after => some (String.ofList (s.toList.takeWhile (· != sep)), String.ofList after)

/-- Whether characters begin at some place of a text. -/
def occursAmong (part : List Char) : List Char → Bool
  | [] => part.isEmpty
  | c :: rest => part.isPrefixOf (c :: rest) || occursAmong part rest

/-- Whether a text occurs in another as a contiguous piece. -/
def occursIn (part s : String) : Bool :=
  occursAmong part.toList s.toList

/-- Whether a text begins with another. -/
def beginsWith (start s : String) : Bool :=
  start.toList.isPrefixOf s.toList

theorem segments_ne_nil (sep : Char) (s : String) : segments sep s ≠ [] := by
  have joined : [sep].intercalate (s.toList.splitOn sep) = s.toList := List.intercalate_splitOn sep
  intro h
  have none_left : s.toList.splitOn sep = [] := List.map_eq_nil_iff.mp h
  rw [none_left] at joined
  have empty : s.toList = [] := by simpa using joined.symm
  simp [empty] at none_left

/-- Joining the segments with the separator gives the text back. -/
theorem intercalate_segments (sep : Char) (s : String) :
    (String.singleton sep).intercalate (segments sep s) = s := by
  apply String.toList_injective
  rw [String.toList_intercalate, segments, List.map_map]
  have inner : (String.toList ∘ String.ofList) = (id : List Char → List Char) := by
    funext cs
    exact String.toList_ofList
  rw [inner, List.map_id, String.toList_singleton]
  exact List.intercalate_splitOn sep

end FormRules.Text
