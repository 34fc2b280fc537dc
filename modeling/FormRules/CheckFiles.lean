import FormRules.RuleFile

/-!
# Checking rule files

The command that checks rule files one after the other and prints their tokens. A file that is
missing or whose rules are wrong is reported and the next one is checked; any other failure ends
the run. What is printed is a text; where it is printed is taken to accept every text.
-/

namespace FormRules.CheckFiles

/-- What a run has printed, and its exit code unless it failed. -/
structure Transcript where
  output : String
  outcome : Except LoadFailure Nat

/-- A line of output. -/
def line (s : String) : String := s ++ "\n"

/-- What is printed if no file is given. -/
def usage : String := line "usage: check_rules.py RULE_FILE [RULE_FILE ...]"

/-- The line between the files and the summary. -/
def separator : String := line (String.ofList (List.replicate 70 '='))

/-- The line about one field. -/
def fieldLine (field rule : String) : Except Failure String := do
  let tokens ← Rule.parse rule (some field)
  return line ("  " ++ field ++ ": " ++ ", ".intercalate (tokens.map Rule.Token.source))

/-- The lines about the fields of a rule set, up to one that fails, and their count. -/
def fieldLines : RuleSet → String × Except Failure Unit
  | [] => ("", .ok ())
  | (field, rule) :: rest =>
    match fieldLine field rule with
    | .error failure => ("", .error failure)
    | .ok shown =>
      let (more, outcome) := fieldLines rest
      (shown ++ more, outcome)

variable (read : RuleFile.Reader)

/-- What is printed about one file, and whether it is valid unless the run ends there. -/
def checkFile (find : String → Found) (path : String) : String × Except LoadFailure Bool :=
  let opening := line ("Checking: " ++ Path.normalize path)
  match RuleFile.load read find path with
  | .error failure =>
    if failure.isRejection then (opening ++ line ("  ERROR: " ++ failure.message), .ok false)
    else (opening, .error failure)
  | .ok rules =>
    match fieldLines rules with
    | (shown, .error failure) => (opening ++ shown, .error (.rules failure))
    | (shown, .ok ()) =>
      (opening ++ shown ++ line ("  OK (" ++ toString rules.length ++ " fields)"), .ok true)

/-- What is printed about files one after the other, and which of them are valid. -/
def checkFiles (find : String → Found) : List String → String × Except LoadFailure (List Bool)
  | [] => ("", .ok [])
  | path :: rest =>
    match checkFile read find path with
    | (shown, .error failure) => (shown, .error failure)
    | (shown, .ok valid) =>
      let (more, outcome) := checkFiles find rest
      (shown ++ more, outcome.map (valid :: ·))

/-- The line that counts the files. -/
def summary (results : List Bool) : String :=
  line (toString (results.count true) ++ " valid, " ++ toString (results.count false) ++ " invalid")

/-- A run of the command on the paths of files. -/
def run (find : String → Found) (paths : List String) : Transcript :=
  if paths = [] then ⟨usage, .ok 2⟩
  else
    match checkFiles read find paths with
    | (shown, .error failure) => ⟨shown, .error failure⟩
    | (shown, .ok results) =>
      ⟨shown ++ separator ++ summary results, .ok (if results.all id then 0 else 1)⟩

end FormRules.CheckFiles
