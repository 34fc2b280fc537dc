/-!
# Patterns

Regular patterns over characters, matched against a whole text. `Matches` says which texts a
pattern describes; `fits` decides it one character at a time, by replacing the pattern with the
pattern of what may still follow. Field values are held against three of them: addresses,
alphanumeric texts and integer texts, whose character classes are ASCII.
-/

namespace FormRules

/-- A regular pattern. -/
inductive Pattern where
  /-- Describes no text. -/
  | nothing
  /-- Describes the empty text. -/
  | blank
  /-- Describes the one-character texts of a class. -/
  | one (accepts : Char → Bool)
  | either (p q : Pattern)
  | followedBy (p q : Pattern)
  /-- Any number of repetitions. -/
  | many (p : Pattern)
  /-- At most `n` repetitions. -/
  | upTo (n : Nat) (p : Pattern)

namespace Pattern

/-- The texts that a pattern describes. -/
inductive Matches : Pattern → List Char → Prop where
  | blank : Matches .blank []
  | one {accepts : Char → Bool} {c : Char} : accepts c = true → Matches (.one accepts) [c]
  | left {p q : Pattern} {s : List Char} : Matches p s → Matches (.either p q) s
  | right {p q : Pattern} {s : List Char} : Matches q s → Matches (.either p q) s
  | followedBy {p q : Pattern} {s t : List Char} :
      Matches p s → Matches q t → Matches (.followedBy p q) (s ++ t)
  | manyNil {p : Pattern} : Matches (.many p) []
  | manyCons {p : Pattern} {s t : List Char} :
      Matches p s → Matches (.many p) t → Matches (.many p) (s ++ t)
  | upToNil {n : Nat} {p : Pattern} : Matches (.upTo n p) []
  | upToCons {n : Nat} {p : Pattern} {s t : List Char} :
      Matches p s → Matches (.upTo n p) t → Matches (.upTo (n + 1) p) (s ++ t)

/-- The union of two patterns, without a part that describes no text. -/
def orElse : Pattern → Pattern → Pattern
  | .nothing, q => q
  | p, .nothing => p
  | p, q => .either p q

/-- The concatenation of two patterns, simplified where the first is trivial. -/
def append : Pattern → Pattern → Pattern
  | .nothing, _ => .nothing
  | .blank, q => q
  | p, q => .followedBy p q

/-- Whether a pattern describes the empty text. -/
def acceptsEmpty : Pattern → Bool
  | .nothing => false
  | .blank => true
  | .one _ => false
  | .either p q => p.acceptsEmpty || q.acceptsEmpty
  | .followedBy p q => p.acceptsEmpty && q.acceptsEmpty
  | .many _ => true
  | .upTo _ _ => true

/-- The pattern of what may follow a first character. -/
def after (c : Char) : Pattern → Pattern
  | .nothing => .nothing
  | .blank => .nothing
  | .one accepts => if accepts c then .blank else .nothing
  | .either p q => (p.after c).orElse (q.after c)
  | .followedBy p q =>
    if p.acceptsEmpty then ((p.after c).append q).orElse (q.after c)
    else (p.after c).append q
  | .many p => (p.after c).append (.many p)
  | .upTo 0 _ => .nothing
  | .upTo (n + 1) p => (p.after c).append (.upTo n p)

/-- Whether a pattern describes the whole of a text. -/
def fits (p : Pattern) : List Char → Bool
  | [] => p.acceptsEmpty
  | c :: rest => (p.after c).fits rest

/-- A pattern or nothing. -/
def optional (p : Pattern) : Pattern := .either .blank p

/-- One or more repetitions. -/
def oneOrMore (p : Pattern) : Pattern := .followedBy p (.many p)

/-- The character itself. -/
def char (c : Char) : Pattern := .one (· == c)

/-! ## Shapes of field values -/

/-- The characters allowed before the `@` of an address. -/
def isLocalChar (c : Char) : Bool :=
  c.isAlphanum || ".!#$%&'*+/=?^_\x60\x7b|\x7d~-".toList.contains c

/-- The characters allowed inside a label of a host name. -/
def isLabelChar (c : Char) : Bool :=
  c.isAlphanum || c == '-'

/-- A label of a host name: 1 to 63 letters, digits and hyphens, no hyphen at either end. -/
def label : Pattern :=
  .followedBy (.one Char.isAlphanum)
    (optional (.followedBy (.upTo 61 (.one isLabelChar)) (.one Char.isAlphanum)))

/-- An address: a local part, `@`, and labels separated by points. -/
def email : Pattern :=
  .followedBy (oneOrMore (.one isLocalChar)) (.followedBy (char '@')
    (.followedBy label (.many (.followedBy (char '.') label))))

/-- ASCII letters and digits only. -/
def alphanumeric : Pattern := .many (.one Char.isAlphanum)

/-- An optional sign followed by one or more ASCII digits. -/
def integer : Pattern :=
  .followedBy (optional (.one fun c => c == '+' || c == '-')) (oneOrMore (.one Char.isDigit))

end Pattern

end FormRules
