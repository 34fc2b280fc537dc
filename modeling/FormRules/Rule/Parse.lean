import FormRules.Failure
import FormRules.Rule.Token
import FormRules.Text.Segments

/-!
# Reading rule strings

A rule string is a row of tokens separated by `|`. A token is one of the two keywords, or a name,
`:` and an integer; a name that contains `min` makes a minimum, else one that contains `max` makes
a maximum. Every other token is an error, and the leftmost error is reported.
-/

namespace FormRules.Rule

/-- The character between the tokens of a rule string. -/
def delimiter : Char := '|'

/-- The character between the name and the parameter of a token. -/
def parameterDelimiter : Char := ':'

/-- The kind of bound that a name stands for; a name with both words is a minimum. -/
def boundNamed? (name : String) : Option (Int → Check) :=
  if Text.occursIn Kind.min.word name then some Check.min
  else if Text.occursIn Kind.max.word name then some Check.max
  else none

namespace Token

/-- The keyword check of a token text. -/
def keyword? (token : String) : Option Check :=
  if token = Kind.required.word then some .required
  else if token = Kind.email.word then some .email
  else none

/-- The check that a token text asks for. -/
def readCheck (token : String) (field : Option String) : Except Failure Check :=
  let fail (defect : Defect) : Except Failure Check := .error (.config ⟨defect, field, some token⟩)
  match keyword? token with
  | some check => .ok check
  | none =>
    match Text.cut? parameterDelimiter token with
    | none => fail (.unknownToken token)
    | some (name, raw) =>
      match boundNamed? name with
      | none => fail (.unknownBound name)
      | some bound =>
        match Numeral.read? raw with
        | .error refused => .error (.overlong refused)
        | .ok none => fail (.badParameter raw name)
        | .ok (some n) => .ok (bound n)

/-- The token of a text; the field is the one that errors are reported for. -/
def parse (token : String) (field : Option String) : Except Failure Token :=
  if h : token = "" then .error (.config ⟨.emptyToken, field, some token⟩)
  else
    match readCheck token field with
    | .ok check => .ok ⟨check, token, h⟩
    | .error e => .error e

end Token

/-- The tokens of a rule string. -/
def parse (rule : String) (field : Option String) : Except Failure (List Token) :=
  if rule = "" then .error (.config ⟨.emptyRule, field, some rule⟩)
  else (Text.segments delimiter rule).mapM fun token => Token.parse token field

/-- The tokens of a value that should be a rule string. -/
def parseValue (rule : Value) (field : Option String) : Except Failure (List Token) :=
  match rule with
  | .text s => parse s field
  | v => .error (.config ⟨.ruleNotText v.typeName, field, none⟩)

/-- The rule string of a row of tokens. -/
def render (tokens : List Token) : String :=
  (String.singleton delimiter).intercalate (tokens.map Token.source)

end FormRules.Rule
