import FormRules.Yaml.Chars
import FormRules.Yaml.Misfit

/-!
# Block scalars

Scalars written as indented lines, literally or folded. A header says how the last line breaks
are kept and may give the indentation; else the first line with anything on it gives it. In a
folded scalar a single line break between two lines that begin with text reads as a space.
-/

namespace FormRules.Yaml.Block

/-- What is kept of the line breaks at the end. -/
inductive Chomping where
  /-- None of them. -/
  | strip
  /-- The first one. -/
  | clip
  /-- All of them. -/
  | keep
  deriving DecidableEq, Repr

/-- The header of a block scalar. -/
structure Header where
  chomping : Chomping
  increment : Option Nat

/-- The sign of a header, if the text goes on with one. -/
def sign : List Char → Option Chomping × List Char
  | '+' :: rest => (some .keep, rest)
  | '-' :: rest => (some .strip, rest)
  | cs => (none, cs)

/-- The digit of a header, if the text goes on with one; zero is none. -/
def increment : List Char → Except Misfit (Option Nat × List Char)
  | [] => .ok (none, [])
  | c :: rest =>
    if !c.isDigit then .ok (none, c :: rest)
    else if c == '0' then .error .malformed
    else .ok (some (c.toNat - '0'.toNat), rest)

/-- The header that a text begins with, and what follows its line. -/
def header (cs : List Char) : Except Misfit (Header × List Char) := do
  let (first, cs) := sign cs
  let (width, cs) ← increment cs
  let (second, cs) := if first.isNone && width.isSome then sign cs else (none, cs)
  if !atSpace cs then throw .malformed
  let cs := cs.dropWhile (· == ' ')
  let cs := if cs.head? = some '#' then afterLine cs else cs
  if !atLineEnd cs then throw .malformed
  return (⟨(first <|> second).getD .clip, width⟩, skipBreak cs)

/-- The empty lines before the first line with anything on it, its column and what follows, and
the deepest column up to there. -/
structure Start where
  breaks : List Char
  deepest : Nat
  column : Nat
  rest : List Char

/-- The empty lines that a text begins with, from a column on. -/
def start (deepest column : Nat) : List Char → Start
  | [] => ⟨[], deepest, column, []⟩
  | c :: rest =>
    if c == ' ' then start (max deepest (column + 1)) (column + 1) rest
    else if isBreak c then
      let s := start deepest 0 rest
      { s with breaks := breakText c :: s.breaks }
    else ⟨[], deepest, column, c :: rest⟩

/-- The empty lines that a text begins with, and up to `indent` spaces before what follows. -/
def emptyLines (indent column : Nat) : List Char → List Char × Nat × List Char
  | [] => ([], column, [])
  | c :: rest =>
    if c == ' ' && decide (column < indent) then emptyLines indent (column + 1) rest
    else if isBreak c then
      let (breaks, column, rest) := emptyLines indent 0 rest
      (breakText c :: breaks, column, rest)
    else ([], column, c :: rest)

/-- Whether a line begins with text and not with a blank. -/
def beginsWithText (cs : List Char) : Bool := !(cs.head?.elim false isBlank)

theorem emptyLines_length_le (indent : Nat) :
    ∀ (cs : List Char) (column : Nat), (emptyLines indent column cs).2.2.length ≤ cs.length
  | [], _ => by simp [emptyLines]
  | c :: rest, column => by
    simp only [emptyLines]
    split
    · exact Nat.le_succ_of_le (emptyLines_length_le indent rest (column + 1))
    · split
      · exact Nat.le_succ_of_le (emptyLines_length_le indent rest 0)
      · exact Nat.le_refl _

/-- What is kept of the line break at the end of a scalar and the empty lines after it. -/
def Chomping.kept (ended : Char) (breaks : List Char) : Chomping → List Char
  | .strip => []
  | .clip => [ended]
  | .keep => ended :: breaks

/-- The lines of a scalar, from the first character of one on, and what follows them. At the end
stand the last line break and the empty lines after it, as far as they are kept. -/
def lines (isFolded : Bool) (chomping : Chomping) (indent : Nat) (cs : List Char) :
    List Char × List Char :=
  match _broken : afterLine cs with
  | [] => (lineOf cs, [])
  | c :: after =>
    let ended := breakText c
    match _skipped : emptyLines indent 0 after with
    | (breaks, column, rest) =>
      if column = indent ∧ rest ≠ [] then
        let joint :=
          if isFolded ∧ ended = '\n' ∧ beginsWithText cs ∧ beginsWithText rest then
            (if breaks = [] then [' '] else [])
          else [ended]
        let (more, rest) := lines isFolded chomping indent rest
        (lineOf cs ++ joint ++ breaks ++ more, rest)
      else (lineOf cs ++ chomping.kept ended breaks, rest)
termination_by cs.length
decreasing_by
  have shorter := emptyLines_length_le indent after 0
  have line : (afterLine cs).length ≤ cs.length := (List.dropWhile_suffix _).length_le
  simp only [_skipped, _broken, List.length_cons] at shorter line
  omega

/-- The scalar whose mark was just read, under a node whose content begins at column `outer`, and
what follows it. -/
def read (isFolded : Bool) (outer : Nat) (cs : List Char) : Except Misfit (List Char × List Char) := do
  let (header, cs) ← header cs
  let least := max outer 1
  let (breaks, column, indent, rest) := match header.increment with
    | none =>
      let s := start 0 0 cs
      (s.breaks, s.column, max least s.deepest, s.rest)
    | some n =>
      let indent := least + n - 1
      let (breaks, column, rest) := emptyLines indent 0 cs
      (breaks, column, indent, rest)
  if column = indent ∧ rest ≠ [] then
    let (said, rest) := lines isFolded header.chomping indent rest
    return (breaks ++ said, rest)
  else
    return (if header.chomping = .keep then breaks else [], rest)

end FormRules.Yaml.Block
