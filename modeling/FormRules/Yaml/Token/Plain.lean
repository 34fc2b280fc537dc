import FormRules.Yaml.Chars

/-!
# Plain scalars

Scalars without quotes. They end where a mark begins, and go on over line breaks as long as the
next line is indented deep enough; a single line break inside reads as a space.
-/

namespace FormRules.Yaml.Plain

/-- The marks of flow collections. -/
def isFlowMark (c : Char) : Bool := c == ',' || c == '[' || c == ']' || c == '\x7b' || c == '\x7d'

/-- Whether a plain scalar stops before a character, given what follows it. -/
def stopsAt (inFlow : Bool) (c : Char) (rest : List Char) : Bool :=
  isSpace c
    || (c == ':' && (atBoundary rest || (inFlow && endsWith isFlowMark rest)))
    || (inFlow && (isFlowMark c || c == '?'))

/-- The characters before the next stop, and what follows. -/
def word (inFlow : Bool) : List Char → List Char × List Char
  | [] => ([], [])
  | c :: rest =>
    if stopsAt inFlow c rest then ([], c :: rest)
    else
      let (cs, rest) := word inFlow rest
      (c :: cs, rest)

theorem word_length (inFlow : Bool) :
    ∀ cs : List Char, (word inFlow cs).1.length + (word inFlow cs).2.length = cs.length
  | [] => rfl
  | c :: rest => by
    have ih := word_length inFlow rest
    simp only [word]
    split
    · simp
    · simp only [List.length_cons]; omega

/-- The space after a word: what it reads as, what follows, whether a line ended in it, and the
column of what follows on a new line. -/
structure Gap where
  text : List Char
  rest : List Char
  crossed : Bool
  column : Nat

/-- The empty lines and the indentation after a line break. Before a mark of a document the
scalar is over, which is shown by `none`. -/
def indentation (column : Nat) : List Char → Option (List Char) × List Char × Nat
  | [] => (some [], [], column)
  | c :: rest =>
    if c == ' ' then indentation (column + 1) rest
    else if isBreak c then
      if atDocumentMark rest then (none, rest, 0)
      else
        let (breaks, rest, column) := indentation 0 rest
        (breaks.map (breakText c :: ·), rest, column)
    else (some [], c :: rest, column)

theorem indentation_length_le :
    ∀ (cs : List Char) (column : Nat), (indentation column cs).2.1.length ≤ cs.length
  | [], _ => by simp [indentation]
  | c :: rest, column => by
    simp only [indentation]
    split
    · exact Nat.le_succ_of_le (indentation_length_le rest (column + 1))
    · split
      · split
        · exact Nat.le_succ _
        · exact Nat.le_succ_of_le (indentation_length_le rest 0)
      · exact Nat.le_refl _

/-- The gap that a text begins with. -/
def gap (cs : List Char) : Gap :=
  let blanks := cs.takeWhile (· == ' ')
  match cs.dropWhile (· == ' ') with
  | [] => ⟨blanks, [], false, 0⟩
  | c :: rest =>
    if !isBreak c then ⟨blanks, c :: rest, false, 0⟩
    else if atDocumentMark rest then ⟨[], rest, true, 0⟩
    else
      let (breaks, rest, column) := indentation 0 rest
      let text := breaks.elim [] fun breaks =>
        if breakText c ≠ '\n' then breakText c :: breaks
        else if breaks = [] then [' '] else breaks
      ⟨text, rest, true, column⟩

theorem gap_length_le (cs : List Char) : (gap cs).rest.length ≤ cs.length := by
  have spaces : (cs.dropWhile (· == ' ')).length ≤ cs.length := (List.dropWhile_suffix _).length_le
  unfold gap
  split
  · simp
  · next c rest after =>
    rw [after, List.length_cons] at spaces
    split
    · exact spaces
    · split
      · exact Nat.le_of_succ_le spaces
      · exact Nat.le_trans (indentation_length_le rest 0) (Nat.le_of_succ_le spaces)

/-- What a plain scalar says, what follows it, and whether a line ended just before that. -/
structure Scalar where
  text : List Char
  rest : List Char
  crossed : Bool

/-- The rest of a plain scalar after a gap. A line that is indented less than `indent` does not
belong to it. -/
def scan (inFlow : Bool) (indent : Nat) (before : Gap) : Scalar :=
  if before.rest.head? = some '#' then ⟨[], before.rest, before.crossed⟩
  else
    match _said : word inFlow before.rest with
    | ([], rest) => ⟨[], rest, before.crossed⟩
    | (c :: cs, rest) =>
      let after := gap rest
      let tail : Scalar :=
        if after.text = [] ∨ after.rest.head? = some '#'
            ∨ (!inFlow && after.crossed && decide (after.column < indent)) then
          ⟨[], after.rest, after.crossed⟩
        else scan inFlow indent after
      { tail with text := before.text ++ c :: cs ++ tail.text }
termination_by before.rest.length
decreasing_by
  have taken := word_length inFlow before.rest
  have skipped := gap_length_le rest
  simp only [_said, List.length_cons] at taken
  omega

/-- The plain scalar that a text begins with. -/
def read (inFlow : Bool) (indent : Nat) (cs : List Char) : Scalar :=
  scan inFlow indent ⟨[], cs, false, 0⟩

end FormRules.Yaml.Plain
