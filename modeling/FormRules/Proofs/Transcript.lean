import FormRules.Proofs.Loading

/-!
# What the check of files prints

Where every file is loaded or refused, the check prints one block for each path, in order, and then
what it has counted. A block is made from the path and its file alone, so the same paths in another
order give the same blocks in that order, the same counts and the same exit code. As for all runs,
every text can be printed, also one with halves of surrogate pairs, and documents are read at any
depth.
-/

namespace FormRules.CheckFiles

open RuleFile (Reader load)

variable (reader : Reader)

/-- Loading the file gives rules, or it fails since the file is missing or by a configuration error. -/
def Settled (find : String → Found) (path : String) : Prop :=
  (∃ rules, load reader find path = .ok rules) ∨ (∃ shown, load reader find path = .error (.missing shown)) ∨
    ∃ e, load reader find path = .error (.rules (.config e))

/-- The file that a path leads to gives rules: they are the entries that its document has under the
key of the rules, in the order of the document. -/
def Gives (find : String → Found) (path : String) (rules : RuleSet) : Prop :=
  ∃ bytes config given, find (Path.normalize path) = .file bytes ∧
    RuleFile.documentOf reader (Path.normalize path) bytes = .ok config ∧ RuleFile.rulesOf config = .ok given ∧
    given.entries? = some (rules.map RuleSet.asEntry)

/-- What is printed about a file with rules: each field with its rule, and their count. -/
def loadedBlock (path : String) (rules : RuleSet) : String :=
  line ("Checking: " ++ Path.normalize path) ++
    String.join (rules.map fun entry => line ("  " ++ entry.1 ++ ": " ++ Text.replaced '|' ", " entry.2)) ++
    line ("  OK (" ++ toString rules.length ++ " fields)")

/-- What is printed about a file that is refused: why it is. -/
def refusedBlock (path : String) (failure : LoadFailure) : String :=
  line ("Checking: " ++ Path.normalize path) ++ line ("  ERROR: " ++ failure.message)

/-- What is printed after all files: a line between, and how many are valid and invalid. -/
def closing (valid invalid : Nat) : String :=
  line (String.ofList (List.replicate 70 '=')) ++
    line (toString valid ++ " valid, " ++ toString invalid ++ " invalid")

variable {reader}
variable {find other : String → Found} {path : String} {paths others : List String}

theorem Settled.no_accident (settled : Settled reader find path) (failure : LoadFailure) :
    ¬ MeetsAccident reader find path failure := by
  intro accident
  obtain ⟨failed, unrejected⟩ := (RuleFile.load_accident_iff reader find path failure).mpr accident
  rcases settled with ⟨rules, loaded⟩ | ⟨shown, missing⟩ | ⟨e, flawed⟩
  · cases loaded.symm.trans failed
  · cases missing.symm.trans failed
    cases unrejected
  · cases flawed.symm.trans failed
    cases unrejected

/-! ## Blocks -/

theorem report_of_load {rules : RuleSet} (loaded : load reader find path = .ok rules) :
    report reader find path = loadedBlock path rules := by
  have fields : fieldReport = fun entry =>
      line ("  " ++ entry.1 ++ ": " ++ Text.replaced '|' ", " entry.2) := by
    funext entry
    rw [← Text.intercalate_segments_eq_replaced]
    rfl
  simp only [report, loaded, loadedBlock, heading, fields, String.append_assoc]

theorem report_of_refusal {failure : LoadFailure} (refused : load reader find path = .error failure) :
    report reader find path = refusedBlock path failure := by
  simp only [report, refused, refusedBlock, heading]

theorem gives_of_load {rules : RuleSet} (loaded : load reader find path = .ok rules) : Gives reader find path rules := by
  obtain ⟨bytes, config, found, document, held⟩ := RuleFile.load_ok loaded
  obtain ⟨given, _, opened, _, entries⟩ := (RuleFile.ruleSetOf_ok_iff_entries config rules).mp held
  exact ⟨bytes, config, given, found, document, opened, entries⟩

/-- Nothing but the path and what it leads to decides what is printed about it. -/
theorem report_congr (same : other (Path.normalize path) = find (Path.normalize path)) :
    report reader other path = report reader find path := by
  simp only [report, load, same]

/-! ## Runs -/

theorem accepts_iff : accepts reader find path = true ↔ ∃ rules, load reader find path = .ok rules := by
  rw [accepts]
  cases load reader find path <;> simp [Except.toBool]

/-- A run over files that are all loaded or refused reports on them in order and ends. -/
theorem run_settled (given : paths ≠ []) (settled : ∀ path ∈ paths, Settled reader find path) :
    run reader find paths =
      ⟨String.join (paths.map (report reader find)) ++
          closing (paths.countP (accepts reader find)) (paths.countP fun path => !accepts reader find path),
        .ok (if ∀ path ∈ paths, accepts reader find path = true then 0 else 1)⟩ := by
  have checked := checkFiles_settled_append (fun path member => (settled path member).no_accident) []
  simp only [List.append_nil, checkFiles, String.append_empty, Except.map] at checked
  rw [run, if_neg given, checked]
  simp [closing, separator, summary, List.count, List.countP_map, Function.comp_def, String.append_assoc]

/-- A run over files that are all loaded or refused prints their blocks in order and then its counts,
which add up to the number of paths; it ends with 0 if all files are loaded, and with 1 otherwise. The
block of a loaded file lists the fields of its document in order, with their rules at full length, and
that of a refused file says why. The block of a path is the same in every run that finds the same
there, and a run over the same paths in another order prints the same blocks in that order, with the
same counts and the same exit code. What is printed is taken to reach its stream, whatever the stream
can encode. -/
theorem run_prints_blocks (reader : Reader) (find : String → Found) {paths : List String} (given : paths ≠ [])
    (settled : ∀ path ∈ paths, Settled reader find path) :
    (∀ path ∈ paths,
      (∀ rules, load reader find path = .ok rules → Gives reader find path rules ∧ report reader find path = loadedBlock path rules) ∧
      (∀ failure, load reader find path = .error failure → report reader find path = refusedBlock path failure) ∧
      ∀ other, other (Path.normalize path) = find (Path.normalize path) → report reader other path = report reader find path) ∧
    ∃ valid invalid code, valid + invalid = paths.length ∧ valid = paths.countP (accepts reader find) ∧
      (code = 0 ∨ code = 1) ∧ (code = 0 ↔ ∀ path ∈ paths, ∃ rules, load reader find path = .ok rules) ∧
      ∀ others, others.Perm paths → (others.map (report reader find)).Perm (paths.map (report reader find)) ∧
        run reader find others = ⟨String.join (others.map (report reader find)) ++ closing valid invalid, .ok code⟩ := by
  refine ⟨fun path _ => ⟨fun rules loaded => ⟨gives_of_load loaded, report_of_load loaded⟩,
    fun failure => report_of_refusal, fun other => report_congr⟩, ?_⟩
  refine ⟨paths.countP (accepts reader find), paths.countP fun path => !accepts reader find path,
    if ∀ path ∈ paths, accepts reader find path = true then 0 else 1, ?_, rfl, ?_, ?_, ?_⟩
  · rw [List.length_eq_countP_add_countP (accepts reader find)]
    simp
  · split <;> simp
  · simp [accepts_iff]
  · intro others perm
    have member (path : String) : path ∈ others ↔ path ∈ paths := perm.mem_iff
    have ran : run reader find others = _ := run_settled (fun none => given (none ▸ perm).nil_eq.symm)
      fun path inOthers => settled path ((member path).mp inOthers)
    refine ⟨perm.map _, ?_⟩
    simp only [ran, perm.countP_eq, member]

/-- A place with one rule file. -/
def shelf (path : String) : Found :=
  if path = "user.yaml" then .file "version: 1.0\nrules:\n  name: required|min:3\n  age: max:99\n".toUTF8.data.toList
  else .missing

theorem load_shelf : load terseReader shelf "user.yaml" = .ok [("name", "required|min:3"), ("age", "max:99")] := by
  decide +kernel

theorem load_shelf_none : load terseReader shelf "none.yaml" = .error (.missing "none.yaml") := by decide +kernel

theorem run_prints_blocks_shelf :
    (∀ path ∈ ["user.yaml", "none.yaml", "user.yaml"], Settled terseReader shelf path) ∧
      report terseReader shelf "user.yaml" = "Checking: user.yaml\n  name: required, min:3\n  age: max:99\n  OK (2 fields)\n" ∧
      report terseReader shelf "none.yaml" = "Checking: none.yaml\n  ERROR: Rule file not found: none.yaml\n" ∧
      ∀ others, others.Perm ["user.yaml", "none.yaml", "user.yaml"] →
        run terseReader shelf others = ⟨String.join (others.map (report terseReader shelf)) ++ closing 2 1, .ok 1⟩ := by
  have settled : ∀ path ∈ ["user.yaml", "none.yaml", "user.yaml"], Settled terseReader shelf path := by
    intro path member
    rcases List.mem_cons.mp member with rfl | later
    · exact .inl ⟨_, load_shelf⟩
    · rcases List.mem_pair.mp later with rfl | rfl
      · exact .inr (.inl ⟨_, load_shelf_none⟩)
      · exact .inl ⟨_, load_shelf⟩
  obtain ⟨blocks, valid, invalid, code, all, count, either, success, ran⟩ :=
    run_prints_blocks terseReader shelf (List.cons_ne_nil _ _) settled
  obtain ⟨loaded, _⟩ := blocks "user.yaml" (by simp)
  obtain ⟨_, refused, _⟩ := blocks "none.yaml" (by simp)
  have two : valid = 2 := by
    rw [count]
    simp [accepts, load_shelf, load_shelf_none, Except.toBool]
  have one : invalid = 1 := by
    simp only [List.length_cons, List.length_nil] at all
    omega
  have failed : code = 1 := either.resolve_left fun zero => by
    obtain ⟨rules, here⟩ := success.mp zero "none.yaml" (by simp)
    cases here.symm.trans load_shelf_none
  subst two one failed
  refine ⟨settled, ?_, ?_, fun others perm => (ran others perm).2⟩
  · exact (loaded _ load_shelf).2.trans (by decide +kernel)
  · exact (refused _ load_shelf_none).trans (by decide +kernel)

end FormRules.CheckFiles
