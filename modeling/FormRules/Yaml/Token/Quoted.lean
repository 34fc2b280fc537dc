import FormRules.Text.Point
import FormRules.Yaml.Chars
import FormRules.Yaml.Misfit

/-!
# Quoted scalars

Scalars in single or double quotes. A single line break inside reads as a space, further ones as
themselves. In single quotes a doubled quote stands for one; in double quotes a backslash begins
an escape.
-/

namespace FormRules.Yaml.Quoted

/-- The character that a one-letter escape stands for. -/
def simpleEscape? (c : Char) : Option Char :=
  [('0', '\x00'), ('a', '\x07'), ('b', '\x08'), ('t', '\t'), ('\t', '\t'), ('n', '\n'),
    ('v', '\x0b'), ('f', '\x0c'), ('r', '\r'), ('e', '\x1b'), (' ', ' '), ('"', '"'),
    ('\\', '\\'), ('/', '/'), ('N', '\x85'), ('_', '\xa0'), ('L', '\u2028'),
    ('P', '\u2029')].lookup c

/-- The number of digits after the letter of a numeric escape. -/
def escapeWidth? (c : Char) : Option Nat :=
  [('x', 2), ('u', 4), ('U', 8)].lookup c

/-- The number that hexadecimal digits stand for. -/
def hexNumber? (cs : List Char) : Option Nat :=
  cs.foldlM (fun n c => (hexValue? c).map (16 * n + ·)) 0

/-- The point of a numeric escape of a number of digits. -/
def numericEscape (width : Nat) (cs : List Char) : Except Misfit Text.Point :=
  if cs.length < width then .error .malformed
  else match hexNumber? (cs.take width) with
    | none => .error .malformed
    | some n =>
      if Nat.pow 2 31 ≤ n then .error (.unreadable (.overflow "Python int too large to convert to C int"))
      else if 0x110000 ≤ n then .error (.unreadable .codePoint)
      else .ok (.ofCode n)

/-- The further empty lines after a line break, and what follows them and the blanks. No line may
begin with a mark of a document. -/
def emptyLines (atLineStart : Bool) : List Char → Except Misfit (List Char × List Char)
  | [] => .ok ([], [])
  | c :: rest =>
    if atLineStart && atDocumentMark (c :: rest) then .error .malformed
    else if isBlank c then emptyLines false rest
    else if isBreak c then do
      let (breaks, rest) ← emptyLines true rest
      return (breakText c :: breaks, rest)
    else .ok ([], c :: rest)

theorem emptyLines_length_le {p : List Char × List Char} :
    ∀ {cs : List Char} {atLineStart : Bool}, emptyLines atLineStart cs = .ok p →
      p.2.length ≤ cs.length
  | [], _, h => by cases h; simp
  | c :: rest, atLineStart, h => by
    simp only [emptyLines] at h
    split at h
    · cases h
    · split at h
      · have := emptyLines_length_le h
        simp only [List.length_cons]; omega
      · split at h
        · cases e : emptyLines true rest with
          | error _ => rw [e] at h; cases h
          | ok q =>
            rw [e] at h; cases h
            have := emptyLines_length_le e
            simp only [List.length_cons]; omega
        · cases h; simp

/-- What a line break and the empty lines after it read as, and what follows them. -/
def folded (c : Char) (rest : List Char) : Except Misfit (List Char × List Char) := do
  let (breaks, rest) ← emptyLines true rest
  if breakText c ≠ '\n' then return (breakText c :: breaks, rest)
  else return (if breaks = [] then [' '] else breaks, rest)

theorem folded_length_le {c : Char} {cs : List Char} {p : List Char × List Char}
    (h : folded c cs = .ok p) : p.2.length ≤ cs.length := by
  cases e : emptyLines true cs with
  | error _ => simp only [folded, e] at h; cases h
  | ok q =>
    have := emptyLines_length_le e
    simp only [folded, e, bind, Except.bind] at h
    split at h <;> cases h <;> exact this

/-- What a backslash and what follows it read as. -/
def escape : List Char → Except Misfit (List Char × List Char)
  | [] => .error .malformed
  | c :: rest =>
    match simpleEscape? c with
    | some said => .ok ([said], rest)
    | none =>
      match escapeWidth? c with
      | some width => return ((← numericEscape width rest).kept, rest.drop width)
      | none => if isBreak c then emptyLines true rest else .error .malformed

theorem escape_length_le {cs : List Char} {p : List Char × List Char} (h : escape cs = .ok p) :
    p.2.length ≤ cs.length := by
  unfold escape at h
  split at h
  · cases h
  · next c rest =>
    split at h
    · cases h; exact Nat.le_succ _
    · split at h
      · next width _ =>
        cases e : numericEscape width rest with
        | error _ => rw [e] at h; cases h
        | ok q =>
          rw [e] at h; cases h
          simp only [List.length_drop, List.length_cons]; omega
      · split at h
        · exact Nat.le_succ_of_le (emptyLines_length_le h)
        · cases h

/-- What blanks read as, which count for nothing before a line break, and what follows them. -/
def blanks (c : Char) (rest : List Char) : Except Misfit (List Char × List Char) :=
  match rest.dropWhile isBlank with
  | [] => .error .malformed
  | d :: after =>
    if isBreak d then folded d after else .ok (c :: rest.takeWhile isBlank, d :: after)

theorem blanks_length_le {c : Char} {cs : List Char} {p : List Char × List Char}
    (h : blanks c cs = .ok p) : p.2.length ≤ cs.length := by
  have skipped : (cs.dropWhile isBlank).length ≤ cs.length := (List.dropWhile_suffix _).length_le
  unfold blanks at h
  split at h
  · cases h
  · next d after rest =>
    rw [rest] at skipped
    split at h
    · exact Nat.le_trans (folded_length_le h) (Nat.le_of_succ_le skipped)
    · cases h; exact skipped

/-- What the text reads as that begins with a character before the closing quote, and what follows
it. In single quotes a quote there is the first of two. -/
def part (isDouble : Bool) (c : Char) (rest : List Char) : Except Misfit (List Char × List Char) :=
  if !isDouble && c == '\'' then .ok ([c], rest.tail)
  else if isDouble && c == '\\' then escape rest
  else if isBlank c then blanks c rest
  else if isBreak c then folded c rest
  else .ok ([c], rest)

theorem part_length_le {isDouble : Bool} {c : Char} {cs : List Char} {p : List Char × List Char}
    (h : part isDouble c cs = .ok p) : p.2.length ≤ cs.length := by
  unfold part at h
  split at h
  · cases h; simp
  · split at h
    · exact escape_length_le h
    · split at h
      · exact blanks_length_le h
      · split at h
        · exact folded_length_le h
        · cases h; exact Nat.le_refl _

/-- Whether the closing quote is a character that `rest` follows. -/
def closes (isDouble : Bool) (c : Char) (rest : List Char) : Bool :=
  if isDouble then c == '"' else c == '\'' && rest.head? != some '\''

/-- What the text before the closing quote reads as, and what follows the quote. -/
def read (isDouble : Bool) : List Char → Except Misfit (List Char × List Char)
  | [] => .error .malformed
  | c :: rest =>
    if closes isDouble c rest then .ok ([], rest)
    else
      match _taken : part isDouble c rest with
      | .error e => .error e
      | .ok (said, rest) => do
        let (more, rest) ← read isDouble rest
        return (said ++ more, rest)
termination_by cs => cs.length
decreasing_by exact Nat.lt_succ_of_le (part_length_le _taken)

end FormRules.Yaml.Quoted
