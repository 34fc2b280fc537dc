import FormRules.FileTree
import FormRules.RuleSet
import FormRules.Text.Utf8
import FormRules.Value.Key
import FormRules.Value.Text
import FormRules.Yaml.Chars
import FormRules.Yaml.Misfit

/-!
# Rule files

A rule file is a document that gives its version, which begins with `1.`, and its rules. A file
is found, decoded, read as a document, opened and checked as a rule set, in this order, and the
first of these steps that fails decides the error. Whatever reads the text of a document may be
used; it is taken to read documents of any depth.
-/

namespace FormRules

/-- Why a rule file is not loaded. -/
inductive LoadFailure where
  | missing (path : String)
  | directory (path : String)
  | tooLong (path : String)
  | undecodable (misfit : Text.Utf8.Misfit)
  /-- A scalar of the document stands for no value. -/
  | unreadable (reason : Yaml.Unreadable)
  | rules (failure : Failure)
  deriving DecidableEq, Repr

namespace LoadFailure

/-- The text of a failure. -/
def message : LoadFailure → String
  | .missing path => "Rule file not found: " ++ path
  | .directory path => "[Errno 21] Is a directory: " ++ Text.quoted path
  | .tooLong path => "[Errno 36] File name too long: " ++ Text.quoted path
  | .undecodable misfit => misfit.message
  | .unreadable reason => reason.message
  | .rules failure => failure.message

/-- Whether a failure is about the file and its rules, and not an accident of reading it. -/
def isRejection : LoadFailure → Bool
  | .missing _ => true
  | .rules (.config _) => true
  | _ => false

/-- The outcome of a step on rules as that of a step of loading. -/
def ofRules {α : Type} : Except Failure α → Except LoadFailure α
  | .ok a => .ok a
  | .error failure => .error (.rules failure)

end LoadFailure

namespace RuleFile

/-- What reads the text of a document. -/
abbrev Reader := List Char → Except Yaml.NoDocument Value

/-- The key of the version. -/
def versionKey : String := "version"

/-- The key of the rules. -/
def rulesKey : String := "rules"

/-- What the text of a version begins with. -/
def versionStart : String := "1."

/-- A configuration error about the file as a whole. -/
def reject {α : Type} (defect : Defect) : Except Failure α := .error (.config (.general defect))

/-- The entries of the mapping that a rule file holds; a view of a mapping is none. -/
def entriesOf (config : Value) : Except Failure (List (Value × Value)) :=
  if config.isVoid then reject .emptyFile
  else match config with
    | .map .readOnly _ => reject (.fileNotMapping config.typeName)
    | .map _ entries => .ok entries
    | _ => reject (.fileNotMapping config.typeName)

/-- The rules of a document, as they stand there. -/
def rulesOf (config : Value) : Except Failure Value := do
  let entries ← entriesOf config
  match Value.find? versionKey entries with
  | none => reject .missingVersion
  | some v =>
    let version ← Failure.ofNumeral v.display
    if Text.beginsWith versionStart version then
      match Value.find? rulesKey entries with
      | none => reject .missingRules
      | some rules => .ok rules
    else reject (.unsupportedVersion version)

/-- The rule set that a document holds. -/
def ruleSetOf (config : Value) : Except Failure RuleSet := do
  let rules ← RuleSet.ofValue (← rulesOf config)
  let _ ← rules.parse
  return rules

variable (read : Reader)

/-- The document that the bytes of a file, shown as `path`, hold. -/
def documentOf (path : String) (bytes : List UInt8) : Except LoadFailure Value :=
  match Text.Utf8.decode bytes with
  | .error misfit => .error (.undecodable misfit)
  | .ok cs =>
    match read (Yaml.unifyBreaks cs) with
    | .ok v => .ok v
    | .error (.malformed said) => .error (.rules (.config (.general (.notADocument path said))))
    | .error (.unreadable reason) => .error (.unreadable reason)

/-- The rule set in the file that a path leads to. -/
def load (find : String → Found) (path : String) : Except LoadFailure RuleSet :=
  let path := Path.normalize path
  match find path with
  | .missing => .error (.missing path)
  | .directory => .error (.directory path)
  | .tooLong => .error (.tooLong path)
  | .file bytes => do LoadFailure.ofRules (ruleSetOf (← documentOf read path bytes))

end RuleFile

end FormRules
