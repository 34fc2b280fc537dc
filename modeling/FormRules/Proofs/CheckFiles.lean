import FormRules.CheckFiles
import FormRules.Proofs.RuleFile
import FormRules.Yaml.Document

/-!
# Which runs of the check come to an end

A run goes from file to file as long as each is loaded or rejected, and then ends with the summary.
The first accident of reading ends it where it is: nothing is said about that file beyond its name,
and nothing about the files after it. The documents are read by any reader, which is taken to read
them at any depth, and the place where the lines are printed is taken to accept every text, also one
with halves of surrogate pairs.
-/

namespace FormRules.CheckFiles

open RuleFile (Reader load Rejection Accident)

/-- The line that the report on a file begins with. -/
def heading (path : String) : String := line ("Checking: " ++ Path.normalize path)

/-- The line about a field, with its rule as a row of pieces. -/
def fieldReport (entry : String × String) : String :=
  line ("  " ++ entry.1 ++ ": " ++ ", ".intercalate (Text.segments Rule.delimiter entry.2))

variable (reader : Reader)

/-- The report on a file that is loaded or rejected. -/
def report (find : String → Found) (path : String) : String :=
  heading path ++
    match load reader find path with
    | .ok rules =>
      String.join (rules.map fieldReport) ++ line ("  OK (" ++ toString rules.length ++ " fields)")
    | .error failure => line ("  ERROR: " ++ failure.message)

/-- Whether a file is loaded. -/
def accepts (find : String → Found) (path : String) : Bool := (load reader find path).toBool

/-- The accident that loading a file ends in. -/
def MeetsAccident (find : String → Found) (path : String) (failure : LoadFailure) : Prop :=
  Accident reader (Path.normalize path) (find (Path.normalize path)) failure

/-! ## Fields -/

variable {reader}

theorem fieldLine_of_parse {field rule : String} {tokens : List Rule.Token}
    (read : Rule.parse rule (some field) = .ok tokens) : fieldLine field rule = .ok (fieldReport (field, rule)) := by
  rw [fieldLine, read]
  change Except.ok (line (_ ++ ", ".intercalate (tokens.map Rule.Token.source))) = _
  rw [Rule.sources_of_parse read]
  rfl

theorem fieldLines_of_parse {rules : RuleSet} {parsed : Fields (List Rule.Token)}
    (read : rules.parse = .ok parsed) : fieldLines rules = (String.join (rules.map fieldReport), .ok ()) := by
  have steps := (Fields.traverse_ok_iff _ _ _).mp read
  clear read
  induction steps with
  | nil => rfl
  | @cons entry result rest _ head _ ih =>
    obtain ⟨field, rule⟩ := entry
    rw [fieldLines, fieldLine_of_parse head.2]
    simp only [ih, List.map_cons, String.join_cons]

/-! ## Files -/

variable {find : String → Found} {path : String}

theorem checkFile_settled (settled : ∀ failure, ¬ MeetsAccident reader find path failure) :
    checkFile reader find path = (report reader find path, .ok (accepts reader find path)) := by
  cases loaded : load reader find path with
  | ok rules =>
    -- the rules of a loaded file are read once more, and nothing can fail then
    obtain ⟨_, config, _, _, held⟩ := RuleFile.load_ok loaded
    obtain ⟨_, _, _, _, read⟩ := (RuleFile.ruleSetOf_ok_iff config rules).mp held
    simp only [checkFile, loaded, fieldLines_of_parse read, report, accepts, Except.toBool, heading,
      String.append_assoc]
  | error failure =>
    have rejected := ((RuleFile.load_error loaded).resolve_right (settled failure)).isRejection
    simp only [checkFile, loaded, rejected, report, accepts, Except.toBool, heading, ↓reduceIte]

theorem checkFile_accident {failure : LoadFailure} (accident : MeetsAccident reader find path failure) :
    checkFile reader find path = (heading path, .error failure) := by
  obtain ⟨failed, unrejected⟩ := (RuleFile.load_accident_iff reader find path failure).mpr accident
  simp only [checkFile, failed, unrejected, heading, Bool.false_eq_true, ↓reduceIte]

/-- A run over files without accidents goes on with the files after them. -/
theorem checkFiles_settled_append {before : List String}
    (settled : ∀ path ∈ before, ∀ failure, ¬ MeetsAccident reader find path failure) (after : List String) :
    checkFiles reader find (before ++ after) =
      (String.join (before.map (report reader find)) ++ (checkFiles reader find after).1,
        (checkFiles reader find after).2.map (before.map (accepts reader find) ++ ·)) := by
  induction before with
  | nil =>
    cases outcome : (checkFiles reader find after).2 <;>
      simp [outcome, Except.map, Prod.ext_iff]
  | cons path before ih =>
    obtain ⟨here, later⟩ := List.forall_mem_cons.mp settled
    rw [List.cons_append, checkFiles, checkFile_settled here, ih later]
    cases (checkFiles reader find after).2 <;> simp [Except.map, String.append_assoc]

/-! ## Runs -/

/-- Every file is loaded, rejected or the place of an accident. A run over files without accidents
reports on all of them in order and ends with the summary and 0 or 1; any other run fails with the
first accident, after the reports on the files before it. A stream that cannot print a text, or a
reader that is stopped by the depth of a document, would end a run in other ways. -/
theorem run_ends (reader : Reader) (find : String → Found) {paths : List String} (given : paths ≠ []) :
    (∀ path, (∃ rules, load reader find path = .ok rules) ∨ ∃ failure, load reader find path = .error failure ∧
      (Rejection (Path.normalize path) (find (Path.normalize path)) failure ∨ MeetsAccident reader find path failure)) ∧
    ((∀ path ∈ paths, ∀ failure, ¬ MeetsAccident reader find path failure) →
      run reader find paths =
        ⟨String.join (paths.map (report reader find)) ++ separator ++ summary (paths.map (accepts reader find)),
          .ok (if paths.all (accepts reader find) then 0 else 1)⟩) ∧
    ∀ before path after failure, paths = before ++ path :: after →
      (∀ path ∈ before, ∀ failure, ¬ MeetsAccident reader find path failure) → MeetsAccident reader find path failure →
      run reader find paths = ⟨String.join (before.map (report reader find)) ++ heading path, .error failure⟩ := by
  refine ⟨fun path => ?_, fun settled => ?_, ?_⟩
  · cases loaded : load reader find path with
    | ok rules => exact .inl ⟨rules, rfl⟩
    | error failure => exact .inr ⟨failure, rfl, RuleFile.load_error loaded⟩
  · have checked := checkFiles_settled_append settled []
    simp only [List.append_nil, checkFiles, String.append_empty, Except.map] at checked
    rw [run, if_neg given, checked]
    simp only [List.all_map, Function.id_comp]
  · rintro before path after failure rfl settled accident
    have stopped : checkFiles reader find (path :: after) = (heading path, .error failure) := by
      rw [checkFiles, checkFile_accident accident]
    rw [run, if_neg given, checkFiles_settled_append settled, stopped]
    rfl

/-- A reader with the same words for all texts that are no documents. -/
def terseReader : Reader := Yaml.Document.read "no document"

/-- A place with a file that is no text and a rule file. -/
def mixedFiles (path : String) : Found :=
  if path = "bad.yaml" then .file [0xff]
  else if path = "good.yaml" then .file "version: \"1.0\"\nrules:\n  name: required\n".toUTF8.data.toList
  else .missing

/-- What is wrong with the file that is no text. -/
def badByte : LoadFailure := .undecodable ⟨0, 0, 0xff, .badStart⟩

theorem mixedFiles_bad : MeetsAccident terseReader mixedFiles "bad.yaml" badByte := by
  have found : mixedFiles (Path.normalize "bad.yaml") = .file [0xff] := by decide +kernel
  rw [MeetsAccident, found]
  exact .undecodable (by decide +kernel)

theorem mixedFiles_good : load terseReader mixedFiles "good.yaml" = .ok [("name", "required")] := by decide +kernel

theorem mixedFiles_none : load terseReader mixedFiles "none.yaml" = .error (.missing "none.yaml") := by decide +kernel

theorem mixedFiles_settled : ∀ path ∈ ["good.yaml", "none.yaml"], ∀ failure,
    ¬ MeetsAccident terseReader mixedFiles path failure := by
  intro path member failure accident
  obtain ⟨failed, unrejected⟩ := (RuleFile.load_accident_iff _ _ _ _).mpr accident
  rcases List.mem_pair.mp member with rfl | rfl
  · cases failed.symm.trans mixedFiles_good
  · cases failed.symm.trans mixedFiles_none
    cases unrejected

theorem run_ends_mixedFiles :
    (run terseReader mixedFiles ["good.yaml", "none.yaml"]).outcome = .ok 1 ∧
      run terseReader mixedFiles ["good.yaml", "none.yaml", "bad.yaml", "good.yaml"] =
        ⟨"Checking: good.yaml\n  name: required\n  OK (1 fields)\n" ++
          "Checking: none.yaml\n  ERROR: Rule file not found: none.yaml\nChecking: bad.yaml\n",
          .error badByte⟩ := by
  obtain ⟨_, summed, _⟩ := run_ends terseReader mixedFiles (List.cons_ne_nil "good.yaml" ["none.yaml"])
  obtain ⟨_, _, stopped⟩ :=
    run_ends terseReader mixedFiles (List.cons_ne_nil "good.yaml" ["none.yaml", "bad.yaml", "good.yaml"])
  have notAll : (["good.yaml", "none.yaml"].all (accepts terseReader mixedFiles)) = false := by
    simp [accepts, mixedFiles_none, Except.toBool]
  have shown : String.join (["good.yaml", "none.yaml"].map (report terseReader mixedFiles)) ++ heading "bad.yaml" =
      "Checking: good.yaml\n  name: required\n  OK (1 fields)\n" ++
        "Checking: none.yaml\n  ERROR: Rule file not found: none.yaml\nChecking: bad.yaml\n" := by
    simp only [List.map_cons, report, mixedFiles_good, mixedFiles_none]
    decide +kernel
  constructor
  · rw [summed mixedFiles_settled, notAll]
    rfl
  · rw [stopped ["good.yaml", "none.yaml"] "bad.yaml" ["good.yaml"] badByte rfl mixedFiles_settled
      mixedFiles_bad, shown]

/-- A file that is no text hides the rule file after it. -/
theorem run_hides_good :
    load terseReader mixedFiles "good.yaml" = .ok [("name", "required")] ∧
      run terseReader mixedFiles ["bad.yaml", "good.yaml"] = ⟨"Checking: bad.yaml\n", .error badByte⟩ := by
  have stopped : checkFiles terseReader mixedFiles ["bad.yaml", "good.yaml"] = (heading "bad.yaml", .error badByte) := by
    rw [checkFiles, checkFile_accident mixedFiles_bad]
  refine ⟨mixedFiles_good, ?_⟩
  rw [run, if_neg (List.cons_ne_nil _ _), stopped]
  have shown : heading "bad.yaml" = "Checking: bad.yaml\n" := by decide +kernel
  rw [shown]

end FormRules.CheckFiles
