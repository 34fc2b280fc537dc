import FormRules.Text.Utf8
import FormRules.Yaml.Chars
import FormRules.Yaml.Misfit

/-!
# Tokens of documents

The tokens that a text is cut into: marks, properties of nodes and scalars, and among them the
starts and ends of block collections, which no character shows but only indentation. Then how the
names of anchors and aliases, the tags of nodes and the directives before a document are read.
-/

namespace FormRules.Yaml

/-- A directive before a document. -/
inductive Directive where
  /-- The version of the language, by its major number. -/
  | version (major : Nat)
  /-- A handle and the address it stands for. -/
  | handle (name uri : String)
  | other
  deriving DecidableEq, Repr

/-- A token. -/
inductive Token where
  | streamEnd
  | directive (d : Directive)
  | documentStart
  | documentEnd
  | blockSequenceStart
  | blockMappingStart
  | blockEnd
  | flowSequenceStart
  | flowSequenceEnd
  | flowMappingStart
  | flowMappingEnd
  | flowEntry
  | blockEntry
  | key
  | value
  | alias (name : String)
  | anchor (name : String)
  /-- A tag by its suffix, after a handle unless it is written out in full. -/
  | tag (handle : Option String) (suffix : String)
  /-- A scalar; a plain one stands for what its text looks like. -/
  | scalar (isPlain : Bool) (text : String)
  deriving DecidableEq, Repr

/-! ## Properties and directives -/

namespace Property

/-- The name of an anchor or alias that a text begins with, and what follows it. -/
def name (cs : List Char) : Except Misfit (String × List Char) :=
  let word := cs.takeWhile isNameChar
  let rest := cs.dropWhile isNameChar
  if word = [] ∨ !endsWith (fun c => isSpace c || "?:,]\x7d%@\x60".toList.contains c) rest then
    .error .malformed
  else .ok (String.ofList word, rest)

/-- The handle that a text begins with: `!`, or a name between two of them. -/
def handle (cs : List Char) : Except Misfit (String × List Char) :=
  match cs with
  | '!' :: rest =>
    let word := rest.takeWhile isNameChar
    match rest.head?, rest.dropWhile isNameChar with
    | some ' ', _ => .ok ("!", rest)
    | _, '!' :: rest => .ok (String.ofList ('!' :: word ++ ['!']), rest)
    | _, _ => .error .malformed
  | _ => .error .malformed

/-- What the bytes of a row of percent escapes say. -/
def unescaped (bytes : List UInt8) : Except Misfit (List Char) :=
  (Text.Utf8.decode bytes).mapError fun _ => .malformed

/-- The address that a text goes on with after a row of percent escapes for `bytes`, and what
follows it. -/
def address (bytes : List UInt8) : List Char → Except Misfit (List Char × List Char)
  | [] => return (← unescaped bytes, [])
  | '%' :: a :: b :: rest =>
    match hexValue? a, hexValue? b with
    | some high, some low => address (bytes ++ [UInt8.ofNat (16 * high + low)]) rest
    | _, _ => .error .malformed
  | '%' :: _ => .error .malformed
  | c :: rest => do
    let said ← unescaped bytes
    if isUriChar c then
      let (more, rest) ← address [] rest
      return (said ++ c :: more, rest)
    else return (said, c :: rest)

/-- The address that a text begins with, and what follows it. -/
def uri (cs : List Char) : Except Misfit (String × List Char) := do
  let (said, rest) ← address [] cs
  if rest.length = cs.length then throw .malformed
  return (String.ofList said, rest)

/-- Whether a tag that begins with `!` names a handle: another `!` comes before the next space. -/
def namesHandle (cs : List Char) : Bool :=
  (cs.takeWhile fun c => !(c == ' ' || isBreak c)).contains '!'

/-- The tag whose `!` was just read, and what follows it. -/
def tag (cs : List Char) : Except Misfit (Token × List Char) := do
  let (token, rest) ← match cs with
    | '<' :: inner => do
      let (suffix, rest) ← uri inner
      match rest with
      | '>' :: rest => pure (Token.tag none suffix, rest)
      | _ => throw .malformed
    | cs =>
      if atBoundary cs then pure (Token.tag none "!", cs)
      else if namesHandle cs then do
        let (name, rest) ← handle ('!' :: cs)
        let (suffix, rest) ← uri rest
        pure (Token.tag (some name) suffix, rest)
      else do
        let (suffix, rest) ← uri cs
        pure (Token.tag (some "!") suffix, rest)
  if !atSpace rest then throw .malformed
  return (token, rest)

/-- The number that a text begins with, and what follows it. -/
def number (cs : List Char) : Except Misfit (Nat × List Char) :=
  let digits := cs.takeWhile Char.isDigit
  if digits = [] then .error .malformed
  else if Numeral.digitLimit < digits.length then
    .error (.unreadable (.overlong (.text digits.length)))
  else .ok (Nat.ofDigitChars 10 digits 0, cs.dropWhile Char.isDigit)

/-- The directive of a name, and what follows its parts. -/
def directiveNamed (word cs : List Char) : Except Misfit (Directive × List Char) :=
  let parts := cs.dropWhile (· == ' ')
  if word = "YAML".toList then do
    let (major, rest) ← number parts
    match rest with
    | '.' :: rest =>
      let (_, rest) ← number rest
      if !atSpace rest then throw .malformed
      return (.version major, rest)
    | _ => throw .malformed
  else if word = "TAG".toList then do
    let (name, rest) ← handle parts
    if rest.head? ≠ some ' ' then throw .malformed
    let (address, rest) ← uri (rest.dropWhile (· == ' '))
    if !atSpace rest then throw .malformed
    return (.handle name address, rest)
  else .ok (.other, afterLine cs)

/-- The directive whose `%` was just read, and what follows its line. -/
def directive (cs : List Char) : Except Misfit (Directive × List Char) := do
  let word := cs.takeWhile isNameChar
  let rest := cs.dropWhile isNameChar
  if word = [] ∨ !atSpace rest then throw .malformed
  let (d, rest) ← directiveNamed word rest
  let rest := rest.dropWhile (· == ' ')
  let rest := if rest.head? = some '#' then afterLine rest else rest
  if !atLineEnd rest then throw .malformed
  return (d, skipBreak rest)

end Property

end FormRules.Yaml
