import FormRules.Pattern
import Mathlib.Data.List.Forall2

/-!
# What patterns describe

Matching one character at a time decides the language of a pattern: the pattern of what may follow
a character describes exactly the rests of the texts that begin with it. A pattern whose classes
take no notice of case describes a text in any case or in none.
-/

namespace FormRules.Pattern

variable {p q : Pattern} {accepts : Char → Bool} {c : Char} {s : List Char} {n : Nat}

/-! ## The language of each form of pattern -/

theorem not_matches_nothing (s : List Char) : ¬ Matches .nothing s := nofun

theorem matches_blank_iff : Matches .blank s ↔ s = [] := by
  constructor
  · rintro ⟨⟩
    rfl
  · rintro rfl
    exact .blank

theorem matches_one_iff : Matches (.one accepts) s ↔ ∃ c, s = [c] ∧ accepts c = true := by
  constructor
  · rintro ⟨⟩
    exact ⟨_, rfl, ‹_›⟩
  · rintro ⟨c, rfl, accepted⟩
    exact .one accepted

theorem matches_either_iff : Matches (.either p q) s ↔ Matches p s ∨ Matches q s := by
  constructor
  · intro described
    cases described with
    | left one => exact .inl one
    | right two => exact .inr two
  · rintro (one | two)
    · exact .left one
    · exact .right two

theorem matches_followedBy_iff :
    Matches (.followedBy p q) s ↔ ∃ front back, s = front ++ back ∧ Matches p front ∧ Matches q back := by
  constructor
  · intro described
    cases described with
    | followedBy first second => exact ⟨_, _, rfl, first, second⟩
  · rintro ⟨front, back, rfl, first, second⟩
    exact .followedBy first second

theorem matches_optional_iff : Matches (optional p) s ↔ s = [] ∨ Matches p s := by
  rw [optional, matches_either_iff, matches_blank_iff]

theorem matches_char_iff : Matches (char c) s ↔ s = [c] := by
  simp [char, matches_one_iff]

theorem matches_upTo_succ (described : Matches (.upTo n p) s) : Matches (.upTo (n + 1) p) s := by
  induction n generalizing s with
  | zero =>
    cases described with
    | upToNil => exact .upToNil
  | succ n ih =>
    cases described with
    | upToNil => exact .upToNil
    | upToCons first later => exact .upToCons first (ih later)

/-- Repetitions are a row of texts, each described by the repeated pattern. -/
theorem matches_many_iff :
    Matches (.many p) s ↔ ∃ parts : List (List Char), s = parts.flatten ∧ ∀ part ∈ parts, Matches p part := by
  constructor
  · intro described
    -- by induction on the description, of which only the two forms of repetitions can arise
    generalize repeated : Pattern.many p = r at described
    induction described with
    | manyNil => exact ⟨[], rfl, fun _ member => absurd member List.not_mem_nil⟩
    | @manyCons p' front back first _ _ ih =>
      cases repeated
      obtain ⟨parts, rfl, each⟩ := ih rfl
      exact ⟨front :: parts, rfl, List.forall_mem_cons.mpr ⟨first, each⟩⟩
    | _ => cases repeated
  · rintro ⟨parts, rfl, each⟩
    induction parts with
    | nil => exact .manyNil
    | cons part parts ih =>
      obtain ⟨first, later⟩ := List.forall_mem_cons.mp each
      exact .manyCons first (ih later)

theorem matches_many_one_iff : Matches (.many (.one accepts)) s ↔ ∀ c ∈ s, accepts c = true := by
  rw [matches_many_iff]
  constructor
  · rintro ⟨parts, rfl, each⟩ c member
    obtain ⟨part, inParts, inPart⟩ := List.mem_flatten.mp member
    obtain ⟨d, rfl, accepted⟩ := matches_one_iff.mp (each part inParts)
    rwa [List.mem_singleton.mp inPart]
  · intro all
    refine ⟨s.map fun c => [c], by rw [← List.flatMap_def, List.flatMap_singleton'], ?_⟩
    intro part member
    obtain ⟨c, inText, rfl⟩ := List.mem_map.mp member
    exact .one (all c inText)

theorem matches_oneOrMore_one_iff :
    Matches (oneOrMore (.one accepts)) s ↔ s ≠ [] ∧ ∀ c ∈ s, accepts c = true := by
  simp only [oneOrMore, matches_followedBy_iff, matches_one_iff, matches_many_one_iff]
  constructor
  · rintro ⟨_, back, rfl, ⟨c, rfl, accepted⟩, all⟩
    exact ⟨List.cons_ne_nil _ _, List.forall_mem_cons.mpr ⟨accepted, all⟩⟩
  · rintro ⟨given, all⟩
    obtain ⟨c, back, rfl⟩ := List.exists_cons_of_ne_nil given
    obtain ⟨accepted, rest⟩ := List.forall_mem_cons.mp all
    exact ⟨[c], back, rfl, ⟨c, rfl, accepted⟩, rest⟩

theorem matches_upTo_one_iff :
    Matches (.upTo n (.one accepts)) s ↔ s.length ≤ n ∧ ∀ c ∈ s, accepts c = true := by
  induction n generalizing s with
  | zero =>
    constructor
    · intro described
      cases described with
      | upToNil => simp
    · rintro ⟨short, _⟩
      obtain rfl : s = [] := List.length_eq_zero_iff.mp (by omega)
      exact .upToNil
  | succ n ih =>
    constructor
    · intro described
      cases described with
      | upToNil => simp
      | upToCons first later =>
        obtain ⟨c, rfl, accepted⟩ := matches_one_iff.mp first
        obtain ⟨short, all⟩ := ih.mp later
        exact ⟨by simpa using short, List.forall_mem_cons.mpr ⟨accepted, all⟩⟩
    · rintro ⟨short, all⟩
      cases s with
      | nil => exact .upToNil
      | cons c rest =>
        obtain ⟨accepted, later⟩ := List.forall_mem_cons.mp all
        exact .upToCons (.one accepted) (ih.mpr ⟨by simpa using short, later⟩)

/-! ## What follows a first character -/

theorem matches_orElse_iff : Matches (p.orElse q) s ↔ Matches p s ∨ Matches q s := by
  unfold orElse
  split
  · simp [not_matches_nothing]
  · simp [not_matches_nothing]
  · exact matches_either_iff

theorem matches_append_iff :
    Matches (p.append q) s ↔ ∃ front back, s = front ++ back ∧ Matches p front ∧ Matches q back := by
  unfold append
  split
  · simp [not_matches_nothing]
  · simp [matches_blank_iff]
  · exact matches_followedBy_iff

theorem acceptsEmpty_iff (p : Pattern) : p.acceptsEmpty = true ↔ Matches p [] := by
  induction p with
  | nothing => simp [acceptsEmpty, not_matches_nothing]
  | blank => simp [acceptsEmpty, matches_blank_iff]
  | one accepts => simp [acceptsEmpty, matches_one_iff]
  | either p q ihp ihq => simp [acceptsEmpty, matches_either_iff, ihp, ihq]
  | followedBy p q ihp ihq =>
    simp only [acceptsEmpty, Bool.and_eq_true, ihp, ihq, matches_followedBy_iff]
    constructor
    · rintro ⟨first, second⟩
      exact ⟨[], [], rfl, first, second⟩
    · rintro ⟨front, back, empty, first, second⟩
      obtain ⟨rfl, rfl⟩ := List.append_eq_nil_iff.mp empty.symm
      exact ⟨first, second⟩
  | many p _ => exact ⟨fun _ => .manyNil, fun _ => rfl⟩
  | upTo n p _ => exact ⟨fun _ => .upToNil, fun _ => rfl⟩

theorem matches_followedBy_cons_iff :
    Matches (.followedBy p q) (c :: s) ↔
      (∃ front back, s = front ++ back ∧ Matches p (c :: front) ∧ Matches q back) ∨
        (Matches p [] ∧ Matches q (c :: s)) := by
  rw [matches_followedBy_iff]
  constructor
  · rintro ⟨front, back, cut, first, second⟩
    cases front with
    | nil => exact .inr ⟨first, (List.nil_append back ▸ cut) ▸ second⟩
    | cons d front =>
      obtain ⟨rfl, rest⟩ := List.cons.inj cut
      exact .inl ⟨front, back, rest, first, second⟩
  · rintro (⟨front, back, rfl, first, second⟩ | ⟨first, second⟩)
    · exact ⟨c :: front, back, rfl, first, second⟩
    · exact ⟨[], c :: s, rfl, first, second⟩

/-- Of repetitions, the first that is not empty takes the first character. -/
theorem matches_many_cons_iff :
    Matches (.many p) (c :: s) ↔
      ∃ front back, s = front ++ back ∧ Matches p (c :: front) ∧ Matches (.many p) back := by
  constructor
  · intro described
    obtain ⟨parts, joined, each⟩ := matches_many_iff.mp described
    clear described
    induction parts with
    | nil => cases joined
    | cons part parts ih =>
      obtain ⟨first, later⟩ := List.forall_mem_cons.mp each
      cases part with
      | nil => exact ih joined later
      | cons d front =>
        obtain ⟨rfl, rest⟩ := List.cons.inj joined
        exact ⟨front, parts.flatten, rest, first, matches_many_iff.mpr ⟨parts, rfl, later⟩⟩
  · rintro ⟨front, back, rfl, first, later⟩
    exact .manyCons first later

theorem matches_upTo_cons_iff :
    Matches (.upTo (n + 1) p) (c :: s) ↔
      ∃ front back, s = front ++ back ∧ Matches p (c :: front) ∧ Matches (.upTo n p) back := by
  constructor
  · intro described
    generalize text : c :: s = cs at described
    induction n generalizing cs with
    | zero =>
      cases described with
      | upToNil => cases text
      | @upToCons _ _ part back first later =>
        cases later with
        | upToNil =>
          rw [List.append_nil] at text
          exact ⟨s, [], (List.append_nil s).symm, text ▸ first, .upToNil⟩
    | succ n ih =>
      cases described with
      | upToNil => cases text
      | @upToCons _ _ part back first later =>
        cases part with
        | nil =>
          -- an empty repetition is left out, which leaves one repetition to spare
          obtain ⟨front, rest, cut, taken, others⟩ := ih back text later
          exact ⟨front, rest, cut, taken, matches_upTo_succ others⟩
        | cons d front =>
          obtain ⟨rfl, rest⟩ := List.cons.inj text
          exact ⟨front, back, rest, first, later⟩
  · rintro ⟨front, back, rfl, first, later⟩
    exact .upToCons first later

/-- The pattern of what may follow a character describes the rests of the texts that begin with it. -/
theorem matches_after_iff (p : Pattern) (c : Char) (s : List Char) :
    Matches (p.after c) s ↔ Matches p (c :: s) := by
  induction p generalizing s with
  | nothing => simp [after, not_matches_nothing]
  | blank => simp [after, not_matches_nothing, matches_blank_iff]
  | one accepts =>
    by_cases accepted : accepts c = true
    · simp [after, accepted, matches_blank_iff, matches_one_iff]
    · simp [after, accepted, not_matches_nothing, matches_one_iff]
  | either p q ihp ihq => rw [after, matches_orElse_iff, ihp, ihq, matches_either_iff]
  | followedBy p q ihp ihq =>
    rw [after, matches_followedBy_cons_iff, ← acceptsEmpty_iff]
    by_cases empty : p.acceptsEmpty = true
    · simp only [empty, ↓reduceIte, matches_orElse_iff, matches_append_iff, ihp, ihq, true_and]
    · simp only [empty, Bool.false_eq_true, ↓reduceIte, matches_append_iff, ihp, false_and, or_false]
  | many p ih =>
    rw [after, matches_append_iff, matches_many_cons_iff]
    simp only [ih]
  | upTo n p ih =>
    cases n with
    | zero =>
      refine ⟨fun impossible => absurd impossible (not_matches_nothing s), ?_⟩
      rintro ⟨⟩
    | succ n =>
      rw [after, matches_append_iff, matches_upTo_cons_iff]
      simp only [ih]

/-- Matching decides the language of a pattern. -/
theorem fits_iff_matches (p : Pattern) (s : List Char) : p.fits s = true ↔ Matches p s := by
  induction s generalizing p with
  | nil => exact acceptsEmpty_iff p
  | cons c rest ih => rw [fits, ih, matches_after_iff]

/-! ## Patterns that take no notice of case -/

/-- Two characters that are the same but for the case of an ASCII letter. -/
def SameButCase (c d : Char) : Prop := c.toLower = d.toLower

/-- All classes of a pattern take both cases of a letter, or neither. -/
def IgnoresCase : Pattern → Prop
  | .nothing | .blank => True
  | .one accepts => ∀ c d, SameButCase c d → accepts d = true → accepts c = true
  | .either p q | .followedBy p q => IgnoresCase p ∧ IgnoresCase q
  | .many p | .upTo _ p => IgnoresCase p

private theorem split_same {front back t : List Char} (same : List.Forall₂ SameButCase t (front ++ back)) :
    ∃ start rest, t = start ++ rest ∧ List.Forall₂ SameButCase start front ∧
      List.Forall₂ SameButCase rest back :=
  ⟨_, _, (List.take_append_drop front.length t).symm, List.forall₂_take_append t front back same,
    List.forall₂_drop_append t front back same⟩

/-- A pattern that takes no notice of case describes a text with all that differ from it by case. -/
theorem Matches.change_case {t : List Char} (described : Matches p s) (ignores : p.IgnoresCase)
    (same : List.Forall₂ SameButCase t s) : Matches p t := by
  induction described generalizing t with
  | blank =>
    cases same
    exact .blank
  | one accepted =>
    cases same with
    | cons head rest =>
      cases rest
      exact .one (ignores _ _ head accepted)
  | left _ ih => exact .left (ih ignores.1 same)
  | right _ ih => exact .right (ih ignores.2 same)
  | followedBy _ _ ihFront ihBack =>
    obtain ⟨start, rest, rfl, front, back⟩ := split_same same
    exact .followedBy (ihFront ignores.1 front) (ihBack ignores.2 back)
  | manyNil =>
    cases same
    exact .manyNil
  | manyCons _ _ ihFront ihBack =>
    obtain ⟨start, rest, rfl, front, back⟩ := split_same same
    exact .manyCons (ihFront ignores front) (ihBack ignores back)
  | upToNil =>
    cases same
    exact .upToNil
  | upToCons _ _ ihFront ihBack =>
    obtain ⟨start, rest, rfl, front, back⟩ := split_same same
    exact .upToCons (ihFront ignores front) (ihBack ignores back)

end FormRules.Pattern
