import FormRules.Yaml.Token
import FormRules.Yaml.Token.Block
import FormRules.Yaml.Token.Plain
import FormRules.Yaml.Token.Quoted

/-!
# The tokens of a text

A text is cut into tokens from left to right. Indentation opens and closes block collections. A
`:` may show only afterwards that what was read before it is a key, so the place of every token
that may turn out to begin a key is remembered, one for each open flow collection and one outside
them, until the line ends or the text in between grows too long.
-/

namespace FormRules.Yaml

/-- A position in a text, by what follows it. -/
structure Cursor where
  rest : List Char
  index : Nat
  line : Nat
  column : Nat

namespace Cursor

/-- The position after one more character; a byte order mark takes no column. -/
def advance (p : Cursor) : Cursor :=
  match p.rest with
  | [] => p
  | c :: rest =>
    if isBreak c then ⟨rest, p.index + 1, p.line + 1, 0⟩
    else ⟨rest, p.index + 1, p.line, if c == '\ufeff' then p.column else p.column + 1⟩

/-- The position after a number of characters. -/
def skip : Nat → Cursor → Cursor
  | 0, p => p
  | n + 1, p => skip n p.advance

/-- The position at which `rest` is left. -/
def moveTo (p : Cursor) (rest : List Char) : Cursor := skip (p.rest.length - rest.length) p

@[simp] theorem advance_rest (p : Cursor) : p.advance.rest = p.rest.tail := by
  unfold advance
  split
  · next h => simp [h]
  · next h => split <;> simp [h]

@[simp] theorem skip_rest (n : Nat) (p : Cursor) : (skip n p).rest = p.rest.drop n := by
  induction n generalizing p with
  | zero => rfl
  | succ n ih => simp [skip, ih]

theorem moveTo_length_le (p : Cursor) (rest : List Char) :
    (p.moveTo rest).rest.length ≤ p.rest.length := by
  simp only [moveTo, skip_rest, List.length_drop]; omega

end Cursor

/-- The place of a token that may begin a key. A required one is an error if no `:` follows. -/
structure Candidate where
  token : Nat
  required : Bool
  index : Nat
  line : Nat
  column : Nat

/-- A text on the way to its tokens. -/
structure Reading where
  cursor : Cursor
  tokens : Array Token
  /-- The least column of what is inside the innermost block collection; 0 outside all. -/
  margin : Nat
  /-- The margins around it. -/
  margins : List Nat
  /-- Whether a key may begin here. -/
  allowsKey : Bool
  /-- The candidate outside the open flow collections. -/
  candidate : Option Candidate
  /-- The candidates of the collections around the innermost open flow collection. -/
  outer : List (Option Candidate)

namespace Reading

/-- The reading of a text from its beginning. -/
def ofText (cs : List Char) : Reading :=
  ⟨⟨cs, 0, 0, 0⟩, #[], 0, [], true, none, []⟩

/-- Whether a flow collection is open. -/
def inFlow (r : Reading) : Bool := !r.outer.isEmpty

/-- Adds a token at the end. -/
def emit (r : Reading) (t : Token) : Reading := { r with tokens := r.tokens.push t }

/-- Says whether a key may begin here. -/
def allowing (r : Reading) (allowsKey : Bool) : Reading := { r with allowsKey }

/-- The text at the next token after spaces, comments and line ends, and whether a line ended. -/
def toToken (inComment : Bool) : List Char → List Char × Bool
  | [] => ([], false)
  | c :: rest =>
    if isBreak c then ((toToken false rest).1, true)
    else if inComment || c == ' ' then toToken inComment rest
    else if c == '#' then toToken true rest
    else (c :: rest, false)

/-- Moves to the next token. -/
def approach (r : Reading) : Reading :=
  let cs := match r.cursor.index, r.cursor.rest with
    | 0, '\ufeff' :: rest => rest
    | _, cs => cs
  let (rest, crossed) := toToken false cs
  { r with
    cursor := r.cursor.moveTo rest
    allowsKey := r.allowsKey || (crossed && !r.inFlow) }

/-- Whether a key can no longer begin at a candidate. -/
def isStale (r : Reading) (k : Candidate) : Bool :=
  k.line != r.cursor.line || decide (1024 < r.cursor.index - k.index)

/-- A candidate, unless it is stale. -/
def refresh (r : Reading) : Option Candidate → Except Misfit (Option Candidate)
  | none => .ok none
  | some k =>
    if !r.isStale k then .ok (some k) else if k.required then .error .malformed else .ok none

/-- Forgets stale candidates. -/
def refreshAll (r : Reading) : Except Misfit Reading := do
  let outer ← r.outer.mapM r.refresh
  let candidate ← r.refresh r.candidate
  return { r with candidate, outer }

/-- Closes block collections as long as the margin is above a limit. -/
def closeTo (limit : Nat) (tokens : Array Token) : Nat → List Nat → Array Token × Nat × List Nat
  | margin, [] => (tokens, margin, [])
  | margin, m :: margins =>
    if limit < margin then closeTo limit (tokens.push .blockEnd) m margins
    else (tokens, margin, m :: margins)

/-- Closes the block collections that are indented deeper than a limit allows. -/
def close (r : Reading) (limit : Nat) : Reading :=
  if r.inFlow then r
  else
    let (tokens, margin, margins) := closeTo limit r.tokens r.margin r.margins
    { r with tokens, margin, margins }

/-- Whether a block collection that begins at a column is a new one. -/
def isDeeper (r : Reading) (column : Nat) : Bool := r.margin ≤ column

/-- Opens a block collection at a column. -/
def indent (r : Reading) (column : Nat) : Reading :=
  { r with margin := column + 1, margins := r.margin :: r.margins }

/-- Gives the candidate up. -/
def dropCandidate (r : Reading) : Except Misfit Reading :=
  match r.candidate with
  | none => .ok r
  | some k => if k.required then .error .malformed else .ok { r with candidate := none }

/-- Makes the next token a candidate, if a key may begin here. -/
def saveCandidate (r : Reading) : Except Misfit Reading :=
  if !r.allowsKey then .ok r
  else do
    let p := r.cursor
    let required := !r.inFlow && r.margin == p.column + 1
    let r ← r.dropCandidate
    return { r with candidate := some ⟨r.tokens.size, required, p.index, p.line, p.column⟩ }

/-! ## Reading a token

A token is noted in a reading whose cursor stays where the token begins; what follows the token
is given beside it. -/

/-- Reads the end of the text. -/
def readEnd (r : Reading) : Except Misfit Reading := do
  let r ← (r.close 0).dropCandidate
  return (r.emit .streamEnd).allowing false

/-- Reads a directive, after its `%`. -/
def readDirective (r : Reading) (rest : List Char) : Except Misfit (Reading × List Char) := do
  let r ← (r.close 0).dropCandidate
  let (d, rest) ← Property.directive rest
  return ((r.emit (.directive d)).allowing false, rest)

/-- Reads a mark that begins or ends a document, after the first of its three characters. -/
def readDocumentMark (r : Reading) (t : Token) (rest : List Char) :
    Except Misfit (Reading × List Char) := do
  let r ← (r.close 0).dropCandidate
  return ((r.emit t).allowing false, rest.drop 2)

/-- Reads the opening bracket of a flow collection. -/
def openFlow (r : Reading) (t : Token) : Except Misfit Reading := do
  let r ← r.saveCandidate
  return { (r.emit t).allowing true with candidate := none, outer := r.candidate :: r.outer }

/-- Reads the closing bracket of a flow collection. -/
def closeFlow (r : Reading) (t : Token) : Except Misfit Reading := do
  let r ← r.dropCandidate
  match r.outer with
  | [] => throw .malformed
  | candidate :: outer => return { (r.emit t).allowing false with candidate, outer }

/-- Reads the comma between the entries of a flow collection. -/
def readFlowEntry (r : Reading) : Except Misfit Reading := do
  let r ← (r.allowing true).dropCandidate
  return r.emit .flowEntry

/-- Opens a block collection for a mark at the current column, unless one is open there. -/
def openBlock (r : Reading) (t : Token) : Except Misfit Reading :=
  if r.inFlow then .ok r
  else if !r.allowsKey then .error .malformed
  else if r.isDeeper r.cursor.column then .ok ((r.indent r.cursor.column).emit t)
  else .ok r

/-- Reads the `-` before an entry of a block sequence. -/
def readBlockEntry (r : Reading) : Except Misfit Reading := do
  let r ← r.openBlock .blockSequenceStart
  let r ← (r.allowing true).dropCandidate
  return r.emit .blockEntry

/-- Reads the `?` before a key. -/
def readKey (r : Reading) : Except Misfit Reading := do
  let r ← r.openBlock .blockMappingStart
  let r ← (r.allowing (!r.inFlow)).dropCandidate
  return r.emit .key

/-- Reads the `:` before a value. A candidate turns out to be the key. -/
def readValue (r : Reading) : Except Misfit Reading := do
  match r.candidate with
  | some k =>
    let opens := !r.inFlow && r.isDeeper k.column
    let tokens := r.tokens.insertIdxIfInBounds k.token .key
    let tokens := if opens then tokens.insertIdxIfInBounds k.token .blockMappingStart else tokens
    let r := if opens then r.indent k.column else r
    return { r with tokens, candidate := none, allowsKey := false }.emit .value
  | none =>
    let r ← r.openBlock .blockMappingStart
    return (r.allowing (!r.inFlow)).emit .value

/-- Reads an alias or an anchor, after its mark. -/
def readName (r : Reading) (token : String → Token) (rest : List Char) :
    Except Misfit (Reading × List Char) := do
  let r ← r.saveCandidate
  let (name, rest) ← Property.name rest
  return ((r.emit (token name)).allowing false, rest)

/-- Reads a tag, after its `!`. -/
def readTag (r : Reading) (rest : List Char) : Except Misfit (Reading × List Char) := do
  let r ← r.saveCandidate
  let (t, rest) ← Property.tag rest
  return ((r.emit t).allowing false, rest)

/-- Reads a block scalar, after its mark. -/
def readBlockScalar (r : Reading) (isFolded : Bool) (rest : List Char) :
    Except Misfit (Reading × List Char) := do
  let r ← r.dropCandidate
  let (said, rest) ← Block.read isFolded r.margin rest
  return ((r.emit (.scalar false (String.ofList said))).allowing true, rest)

/-- Reads a quoted scalar, after its opening quote. -/
def readQuoted (r : Reading) (isDouble : Bool) (rest : List Char) :
    Except Misfit (Reading × List Char) := do
  let r ← r.saveCandidate
  let (said, rest) ← Quoted.read isDouble rest
  return ((r.emit (.scalar false (String.ofList said))).allowing false, rest)

/-- Reads a plain scalar. -/
def readPlain (r : Reading) (cs : List Char) : Except Misfit (Reading × List Char) := do
  let r ← r.saveCandidate
  let s := Plain.read r.inFlow r.margin cs
  return ((r.emit (.scalar true (String.ofList s.text))).allowing s.crossed, s.rest)

/-- Whether a plain scalar can begin with a character, given what follows it. -/
def beginsPlain (r : Reading) (c : Char) (rest : List Char) : Bool :=
  !(isSpace c || "-?:,[]\x7b\x7d#&*!|>'\"%@\x60".toList.contains c)
    || (!atBoundary rest && (c == '-' || (!r.inFlow && (c == '?' || c == ':'))))

/-- Reads the token that begins with a character, before `rest`. -/
def readToken (r : Reading) (c : Char) (rest : List Char) : Except Misfit (Reading × List Char) :=
  let mark (step : Except Misfit Reading) : Except Misfit (Reading × List Char) :=
    return (← step, rest)
  let atLineStart := r.cursor.column == 0
  if atLineStart && c == '%' then r.readDirective rest
  else if atLineStart && atDocumentMark (c :: rest) then
    r.readDocumentMark (if c == '-' then .documentStart else .documentEnd) rest
  else if c == '[' then mark (r.openFlow .flowSequenceStart)
  else if c == '\x7b' then mark (r.openFlow .flowMappingStart)
  else if c == ']' then mark (r.closeFlow .flowSequenceEnd)
  else if c == '\x7d' then mark (r.closeFlow .flowMappingEnd)
  else if c == ',' then mark r.readFlowEntry
  else if c == '-' && atBoundary rest then mark r.readBlockEntry
  else if c == '?' && (r.inFlow || atBoundary rest) then mark r.readKey
  else if c == ':' && (r.inFlow || atBoundary rest) then mark r.readValue
  else if c == '*' then r.readName .alias rest
  else if c == '&' then r.readName .anchor rest
  else if c == '!' then r.readTag rest
  else if c == '|' && !r.inFlow then r.readBlockScalar false rest
  else if c == '>' && !r.inFlow then r.readBlockScalar true rest
  else if c == '\'' then r.readQuoted false rest
  else if c == '"' then r.readQuoted true rest
  else if r.beginsPlain c rest then r.readPlain (c :: rest)
  else .error .malformed

/-- Forgets stale candidates and closes the block collections that end before the next token. -/
def settle (r : Reading) : Except Misfit Reading := do
  return (← r.refreshAll).close (r.cursor.column + 1)

/-- The number of tokens that are settled: those before the first candidate. -/
def settled (r : Reading) : Nat :=
  (r.candidate :: r.outer).foldl (fun least k => match k with
    | some k => if r.isStale k then least else min least k.token
    | none => least) r.tokens.size

end Reading

/-- The tokens of a text, and what is wrong with the text where they end too soon. -/
structure Tokens where
  tokens : List Token
  ending : Misfit

namespace Tokens

/-- The tokens of the rest of a text. Every token but the end takes at least the character that it
begins with. -/
def scan (r : Reading) : Tokens :=
  let upTo (misfit : Misfit) : Tokens := ⟨r.tokens.toList.take r.settled, misfit⟩
  match _begins : r.approach.cursor.rest with
  | [] =>
    match r.approach.settle >>= Reading.readEnd with
    | .error misfit => upTo misfit
    | .ok last => ⟨last.tokens.toList, .malformed⟩
  | c :: rest =>
    match r.approach.settle >>= fun r => r.readToken c rest with
    | .error misfit => upTo misfit
    | .ok (next, after) => scan { next with cursor := r.approach.cursor.advance.moveTo after }
termination_by r.cursor.rest.length
decreasing_by
  have approached : r.approach.cursor.rest.length ≤ r.cursor.rest.length :=
    Cursor.moveTo_length_le _ _
  have taken := Cursor.moveTo_length_le r.approach.cursor.advance after
  simp only [Cursor.advance_rest, _begins, List.tail_cons, List.length_cons] at approached taken
  omega

/-- The tokens of a text. -/
def ofText (cs : List Char) : Tokens := scan (.ofText cs)

end Tokens

end FormRules.Yaml
