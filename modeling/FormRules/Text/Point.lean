/-!
# Code points

A text may hold halves of surrogate pairs, which are no characters although an escape may name
one. It keeps such a half as two characters, a mark and a private character; a mark that stands
for itself is kept twice, and every other character as it is. Main statement: the points of what
is kept are the points that it was kept for, so no two rows of points are kept alike.
-/

namespace FormRules.Text

/-- A character, or the half of a surrogate pair at a place among them. -/
inductive Point where
  | char (c : Char)
  | half (place : Fin 2048)
  deriving DecidableEq, Repr

namespace Point

/-- The number of the first half. -/
def firstHalf : Nat := 0xd800

/-- The point of a number. -/
def ofCode (n : Nat) : Point :=
  if h : firstHalf ≤ n ∧ n - firstHalf < 2048 then half ⟨n - firstHalf, h.2⟩
  else char (Char.ofNat n)

/-- The number of a point. -/
def code : Point → Nat
  | char c => c.toNat
  | half place => firstHalf + place

/-- What stands before a character that is not kept as it is; no document holds it outside
escapes. -/
def mark : Char := '\ufffe'

/-- The number of the first private character. -/
def firstPrivate : Nat := 0xe000

/-- The private character for a half. -/
def privateChar (place : Fin 2048) : Char := Char.ofNat (firstPrivate + place)

/-- The characters that a text keeps for a point. -/
def kept : Point → List Char
  | char c => if c = mark then [mark, mark] else [c]
  | half place => [mark, privateChar place]

/-- The point that a mark and a character are kept for. -/
def marked (c : Char) : Point :=
  if h : firstPrivate ≤ c.toNat ∧ c.toNat - firstPrivate < 2048 then
    half ⟨c.toNat - firstPrivate, h.2⟩
  else char c

end Point

/-- The points that characters are kept for. -/
def points : List Char → List Point
  | [] => []
  | [c] => [.char c]
  | c :: d :: rest =>
    if c = Point.mark then Point.marked d :: points rest else .char c :: points (d :: rest)

/-- The text that keeps some points. -/
def ofPoints (ps : List Point) : String := String.ofList (ps.flatMap Point.kept)

/-- The text that keeps the characters of a string. -/
def ofString (s : String) : String := ofPoints (s.toList.map .char)

/-- The number of points of a text. -/
def size (s : String) : Nat := (points s.toList).length

/-- The string that shows a text, with the replacement character for every half. -/
def shown (s : String) : String :=
  String.ofList ((points s.toList).map fun
    | .char c => c
    | .half _ => '\ufffd')

/-- The number of bytes of a text in UTF-8. -/
def byteSize (s : String) : Nat := (shown s).utf8ByteSize

theorem toNat_privateChar (place : Fin 2048) :
    (Point.privateChar place).toNat = Point.firstPrivate + place := by
  have valid : (Point.firstPrivate + place.val).isValidChar := by
    right
    simp only [Point.firstPrivate]
    omega
  rw [Point.privateChar, Char.ofNat, dif_pos valid]
  rfl

theorem marked_privateChar (place : Fin 2048) :
    Point.marked (Point.privateChar place) = .half place := by
  simp [Point.marked, toNat_privateChar]

theorem points_cons_of_ne {c : Char} (h : c ≠ Point.mark) (rest : List Char) :
    points (c :: rest) = .char c :: points rest := by
  cases rest <;> simp [points, h]

/-- What is kept for a point reads back as that point, whatever follows. -/
theorem points_kept_append (p : Point) (rest : List Char) :
    points (p.kept ++ rest) = p :: points rest := by
  cases p with
  | char c =>
    by_cases h : c = Point.mark
    · subst h
      simp only [Point.kept, if_pos, List.cons_append, List.nil_append, points]
      rfl
    · simp [Point.kept, h, points_cons_of_ne h]
  | half place => simp [Point.kept, points, marked_privateChar]

/-- The points of the text that keeps some points are those points. -/
theorem points_ofPoints (ps : List Point) : points (ofPoints ps).toList = ps := by
  rw [ofPoints, String.toList_ofList]
  induction ps with
  | nil => rfl
  | cons p ps ih => rw [List.flatMap_cons, points_kept_append, ih]

end FormRules.Text
