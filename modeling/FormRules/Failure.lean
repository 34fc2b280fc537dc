import FormRules.Numeral
import FormRules.Text.Quoted

/-!
# Failures

Why a rule set is not read or a form is not judged: a mistake in the rules, an integer text too
long to convert, or a fault that the form itself raises where it is read. A configuration error
keeps its cause, the field whose rule it is about and the offending token, where these are known.
-/

namespace FormRules

/-! ## Faults -/

/-- The kinds of faults. -/
inductive FaultKind where
  /-- A key is not there. -/
  | key
  /-- A position is not there. -/
  | index
  /-- Any other failed lookup. -/
  | lookup
  /-- An attribute is not there. -/
  | attribute
  /-- Anything else, under a name of its own. -/
  | other (name : String)
  deriving DecidableEq, Repr

/-- A fault with what its raiser said. -/
structure Fault where
  kind : FaultKind
  said : String
  deriving DecidableEq, Repr

namespace Fault

/-- The text of a fault: a missing key is shown in quotes, all else as it was said. -/
def message (f : Fault) : String :=
  match f.kind with
  | .key => Text.quoted f.said
  | _ => f.said

/-- Whether a fault says that a lookup failed. -/
def isLookup (f : Fault) : Bool :=
  match f.kind with
  | .key | .index | .lookup => true
  | .attribute | .other _ => false

end Fault

/-! ## Configuration errors -/

/-- The causes of configuration errors. -/
inductive Defect where
  | emptyToken
  /-- A token that is no keyword and has no parameter. -/
  | unknownToken (token : String)
  /-- A parametrised token whose name names no bound. -/
  | unknownBound (name : String)
  /-- A parameter that is no integer text. -/
  | badParameter (raw name : String)
  | emptyRule
  /-- A rule that is no text but a value of the given type. -/
  | ruleNotText (type : String)
  | ruleSetNotMapping
  /-- A key, as shown, that is no text. -/
  | fieldNotText (key : String)
  /-- The key, as shown, of a rule that is no text. -/
  | entryNotText (key : String)
  /-- The key, as shown, of a rule that is the empty text. -/
  | entryEmpty (key : String)
  | emptyFieldName
  | emptyFile
  /-- A rule file that holds no mapping but a value of the given type. -/
  | fileNotMapping (type : String)
  | missingVersion
  | unsupportedVersion (version : String)
  | missingRules
  /-- A rule file, at the given path, whose text is no document, with the words of its reader. -/
  | notADocument (path said : String)
  /-- A cause in words of one's own. -/
  | stated (message : String)
  deriving DecidableEq, Repr

namespace Defect

/-- The wording of a flaw in the shape of a rule set. -/
def ofRuleSet (flaw : String) : String := "Invalid rule set: " ++ flaw

/-- The wording of a flaw of the entry under a shown key. -/
def ofEntry (flaw key : String) : String := ofRuleSet (flaw ++ " @ data[" ++ key ++ "]")

/-- The wording of a cause. -/
def message : Defect → String
  | .emptyToken => "Empty rule token"
  | .unknownToken token => "Unknown rule '" ++ token ++ "'"
  | .unknownBound name => "Unknown rule '" ++ name ++ "' (name must contain 'min' or 'max')"
  | .badParameter raw name =>
    "Invalid parameter '" ++ raw ++ "' for rule '" ++ name ++ "' (must be an integer)"
  | .emptyRule => "Empty rule string"
  | .ruleNotText type => "Rule must be str, got " ++ type
  | .ruleSetNotMapping => ofRuleSet "expected a dictionary"
  | .fieldNotText key => ofEntry "expected str" key
  | .entryNotText key => ofEntry "expected str for dictionary value" key
  | .entryEmpty key => ofEntry "rule string must not be empty for dictionary value" key
  | .emptyFieldName => ofRuleSet "field name must not be empty"
  | .emptyFile => "Rule file is empty"
  | .fileNotMapping type => "Rule file must contain a mapping, got " ++ type
  | .missingVersion => "Rule file missing required 'version' field"
  | .unsupportedVersion version =>
    "Rule file version " ++ version ++ " not supported. Only version 1.x is supported."
  | .missingRules => "Rule file missing required 'rules' field"
  | .notADocument path said => "Invalid YAML in " ++ path ++ ": " ++ said
  | .stated message => message

end Defect

/-- A configuration error. -/
structure ConfigError where
  defect : Defect
  field : Option String
  token : Option String
  deriving DecidableEq, Repr

namespace ConfigError

/-- An error about no particular field or token. -/
def general (defect : Defect) : ConfigError := ⟨defect, none, none⟩

/-- The text of an error: its cause, after the name of its field if that is known. -/
def message (e : ConfigError) : String :=
  match e.field with
  | none => e.defect.message
  | some field => field ++ ": " ++ e.defect.message

end ConfigError

/-! ## Failures -/

/-- A failure to read rules or to judge a form by them. -/
inductive Failure where
  | config (error : ConfigError)
  | overlong (refused : Numeral.Overlong)
  | raised (fault : Fault)
  deriving DecidableEq, Repr

namespace Failure

/-- The text of a failure. -/
def message : Failure → String
  | .config e => e.message
  | .overlong r => r.message
  | .raised f => f.message

/-- The outcome of a conversion as that of a step that may fail otherwise too. -/
def ofNumeral {α : Type} : Except Numeral.Overlong α → Except Failure α
  | .ok a => .ok a
  | .error r => .error (.overlong r)

/-- The outcome of reading from a form as that of a step that may fail otherwise too. -/
def ofReading {α : Type} : Except Fault α → Except Failure α
  | .ok a => .ok a
  | .error f => .error (.raised f)

end Failure

end FormRules
