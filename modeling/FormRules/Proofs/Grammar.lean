import FormRules.Proofs.Numeral
import FormRules.Proofs.Segments
import FormRules.Proofs.Traversal
import FormRules.Rule.Parse

/-!
# The grammar of rule strings

Which texts are tokens, and which token each of them is, stated on the text itself. A rule string is
read exactly if all its pieces are tokens; otherwise its first bad piece is reported, as a
configuration error unless nothing but the length of its number is wrong.
-/

namespace FormRules.Rule

open Numeral (Spelling digitLimit)

/-- A text `name:number` whose name ends at the first colon and holds one of the two words. -/
def IsBound (s : String) (name digits : List Char) (n : Int) : Prop :=
  ∃ number, s.toList = name ++ ':' :: number ∧ ':' ∉ name ∧
    ("min".toList <:+: name ∨ "max".toList <:+: name) ∧ Spelling number digits n

/-- The token texts: the two keywords, and bounds within the digit limit. -/
def WellFormed (s : String) : Prop :=
  s = "required" ∨ s = "email" ∨ ∃ name digits n, IsBound s name digits n ∧ digits.length ≤ digitLimit

/-- A bound with nothing wrong but the length of its number. -/
def OnlyTooLong (s : String) (count : Nat) : Prop :=
  ∃ name digits n, IsBound s name digits n ∧ digits.length = count ∧ digitLimit < count

/-- The kind and the parameter that a token text asks for; a name with both words asks for a
minimum. -/
inductive Asks : String → Kind → Option Int → Prop
  | required {s : String} (word : s = "required") : Asks s .required none
  | email {s : String} (word : s = "email") : Asks s .email none
  | min {s : String} {name digits : List Char} {n : Int} (bound : IsBound s name digits n)
      (short : digits.length ≤ digitLimit) (named : "min".toList <:+: name) : Asks s .min (some n)
  | max {s : String} {name digits : List Char} {n : Int} (bound : IsBound s name digits n)
      (short : digits.length ≤ digitLimit) (unnamed : ¬ "min".toList <:+: name) : Asks s .max (some n)

theorem wellFormed_iff_asks (s : String) : WellFormed s ↔ ∃ kind parameter, Asks s kind parameter := by
  constructor
  · rintro (word | word | ⟨name, digits, n, bound, short⟩)
    · exact ⟨_, _, .required word⟩
    · exact ⟨_, _, .email word⟩
    · by_cases named : "min".toList <:+: name
      · exact ⟨_, _, .min bound short named⟩
      · exact ⟨_, _, .max bound short named⟩
  · rintro ⟨kind, parameter, asks⟩
    cases asks with
    | required word => exact .inl word
    | email word => exact .inr (.inl word)
    | min bound short _ => exact .inr (.inr ⟨_, _, _, bound, short⟩)
    | max bound short _ => exact .inr (.inr ⟨_, _, _, bound, short⟩)

/-- A bound has a colon, so it is no keyword. -/
theorem IsBound.not_keyword {s : String} {name digits : List Char} {n : Int}
    (bound : IsBound s name digits n) : s ≠ "required" ∧ s ≠ "email" := by
  obtain ⟨number, shape, _⟩ := bound
  have colon : ':' ∈ s.toList := by simp [shape]
  constructor
  · rintro rfl; exact absurd colon (by decide)
  · rintro rfl; exact absurd colon (by decide)

/-- The name, the digits and the integer of a bound are determined by its text. -/
theorem IsBound.unique {s : String} {name other digits others : List Char} {n m : Int}
    (one : IsBound s name digits n) (two : IsBound s other others m) :
    name = other ∧ digits = others ∧ n = m := by
  obtain ⟨number, shape, first, _, spelled⟩ := one
  obtain ⟨number', shape', first', _, spelled'⟩ := two
  obtain ⟨rfl, rfl⟩ := Text.cut_unique shape first shape' first'
  exact ⟨rfl, Numeral.spelling_unique spelled spelled'⟩

/-- A token text is not one with too long a number. -/
theorem WellFormed.not_onlyTooLong {s : String} (good : WellFormed s) (count : Nat) :
    ¬ OnlyTooLong s count := by
  rintro ⟨name, digits, n, bound, length, long⟩
  rcases good with word | word | ⟨name', digits', n', bound', short⟩
  · exact bound.not_keyword.1 word
  · exact bound.not_keyword.2 word
  · obtain ⟨-, same, -⟩ := bound.unique bound'
    rw [← same] at short
    omega

theorem OnlyTooLong.length_gt {s : String} {count : Nat} (long : OnlyTooLong s count) : digitLimit < s.length := by
  obtain ⟨name, digits, n, ⟨number, shape, _, _, spelled⟩, length, tooMany⟩ := long
  have within : digits.length ≤ number.length := by
    cases spelled with
    | plain _ => exact Nat.le_refl _
    | plus _ => exact Nat.le_succ _
    | minus _ => exact Nat.le_succ _
  rw [← String.length_toList, shape, List.length_append, List.length_cons]
  omega

/-- A text asks for one kind and one parameter. -/
theorem Asks.unique {s : String} {kind other : Kind} {parameter parameter' : Option Int}
    (one : Asks s kind parameter) (two : Asks s other parameter') : kind = other ∧ parameter = parameter' := by
  cases one with
  | required word =>
    cases two with
    | required _ => exact ⟨rfl, rfl⟩
    | email word' => exact absurd (word.symm.trans word') (by decide)
    | min bound _ _ => exact absurd word bound.not_keyword.1
    | max bound _ _ => exact absurd word bound.not_keyword.1
  | email word =>
    cases two with
    | required word' => exact absurd (word.symm.trans word') (by decide)
    | email _ => exact ⟨rfl, rfl⟩
    | min bound _ _ => exact absurd word bound.not_keyword.2
    | max bound _ _ => exact absurd word bound.not_keyword.2
  | min bound _ named =>
    cases two with
    | required word => exact absurd word bound.not_keyword.1
    | email word => exact absurd word bound.not_keyword.2
    | min bound' _ _ => exact ⟨rfl, congrArg _ (bound.unique bound').2.2⟩
    | max bound' _ unnamed => exact absurd ((bound.unique bound').1 ▸ named) unnamed
  | max bound _ unnamed =>
    cases two with
    | required word => exact absurd word bound.not_keyword.1
    | email word => exact absurd word bound.not_keyword.2
    | min bound' _ named => exact absurd ((bound.unique bound').1 ▸ named) unnamed
    | max bound' _ _ => exact ⟨rfl, congrArg _ (bound.unique bound').2.2⟩

/-! ## Reading one token -/

/-- What becomes of a text that is read as a token: the check that it asks for, or the reason why
it asks for none. -/
inductive Reading (s : String) (field : Option String) : Except Failure Check → Prop
  | good {check : Check} (asks : Asks s check.kind check.parameter?) : Reading s field (.ok check)
  | tooLong {count : Nat} (long : OnlyTooLong s count) :
      Reading s field (.error (.overlong (.text count)))
  | bad {defect : Defect} (malformed : ¬ WellFormed s) (notLong : ∀ count, ¬ OnlyTooLong s count) :
      Reading s field (.error (.config ⟨defect, field, some s⟩))

theorem boundNamed?_min {name : String} (named : "min".toList <:+: name.toList) :
    boundNamed? name = some Check.min :=
  if_pos ((Text.occursIn_iff _ _).mpr named)

theorem boundNamed?_max {name : String} (other : ¬ "min".toList <:+: name.toList)
    (named : "max".toList <:+: name.toList) : boundNamed? name = some Check.max :=
  (if_neg fun found => other ((Text.occursIn_iff _ _).mp found)).trans
    (if_pos ((Text.occursIn_iff _ _).mpr named))

theorem boundNamed?_none {name : String} (notMin : ¬ "min".toList <:+: name.toList)
    (notMax : ¬ "max".toList <:+: name.toList) : boundNamed? name = none :=
  (if_neg fun found => notMin ((Text.occursIn_iff _ _).mp found)).trans
    (if_neg fun found => notMax ((Text.occursIn_iff _ _).mp found))

private theorem reading_bad {s : String} {field : Option String} {defect : Defect}
    (notRequired : s ≠ "required") (notEmail : s ≠ "email")
    (unbound : ∀ name digits n, ¬ IsBound s name digits n) :
    Reading s field (.error (.config ⟨defect, field, some s⟩)) := by
  refine .bad ?_ ?_
  · rintro (word | word | ⟨name, digits, n, bound, _⟩)
    · exact notRequired word
    · exact notEmail word
    · exact unbound name digits n bound
  · rintro count ⟨name, digits, n, bound, _⟩
    exact unbound name digits n bound

private theorem reading_number {s : String} {field : Option String} {name raw : String}
    {bound : Int → Check} (shape : s.toList = name.toList ++ ':' :: raw.toList) (first : ':' ∉ name.toList)
    (named : "min".toList <:+: name.toList ∨ "max".toList <:+: name.toList)
    (asks : ∀ {digits n}, IsBound s name.toList digits n → digits.length ≤ digitLimit →
      Asks s (bound n).kind (bound n).parameter?) :
    Reading s field
      (match Numeral.read? raw with
        | .error refused => .error (.overlong refused)
        | .ok none => .error (.config ⟨.badParameter raw name, field, some s⟩)
        | .ok (some n) => .ok (bound n)) := by
  have isBound : ∀ {digits n}, Spelling raw.toList digits n → IsBound s name.toList digits n :=
    fun spelled => ⟨raw.toList, shape, first, named, spelled⟩
  cases read : Numeral.read? raw with
  | error refused =>
    obtain ⟨count, ⟨digits, n, spelled, length, long⟩, rfl⟩ := (Numeral.read?_error_iff _ _).mp read
    exact .tooLong ⟨name.toList, digits, n, isBound spelled, length, long⟩
  | ok parameter =>
    cases parameter with
    | some n =>
      obtain ⟨digits, spelled, short⟩ := (Numeral.read?_some_iff _ _).mp read
      exact .good (asks (isBound spelled) short)
    | none =>
      have noNumber := (Numeral.read?_none_iff _).mp read
      refine reading_bad ?_ ?_ ?_
      · rintro rfl; exact absurd (shape ▸ List.mem_append_right _ List.mem_cons_self) (by decide)
      · rintro rfl; exact absurd (shape ▸ List.mem_append_right _ List.mem_cons_self) (by decide)
      · rintro other digits n ⟨number, shape', first', _, spelled⟩
        obtain ⟨-, rfl⟩ := Text.cut_unique shape first shape' first'
        exact noNumber digits n spelled

/-- Reading the check of a text follows the grammar. -/
theorem readCheck_reading (s : String) (field : Option String) :
    Reading s field (Token.readCheck s field) := by
  unfold Token.readCheck Token.keyword?
  by_cases required : s = Kind.required.word
  · simp only [required, ↓reduceIte]
    exact .good (.required rfl)
  by_cases email : s = Kind.email.word
  · simp only [email]
    exact .good (.email rfl)
  simp only [required, email, ↓reduceIte]
  cases cut : Text.cut? parameterDelimiter s with
  | none =>
    refine reading_bad required email ?_
    rintro name digits n ⟨number, shape, _⟩
    exact (Text.cut?_eq_none_iff _ _).mp cut (by simp [shape, parameterDelimiter])
  | some parts =>
    obtain ⟨name, raw⟩ := parts
    obtain ⟨shape, first⟩ := (Text.cut?_eq_some_iff _ _ _ _).mp cut
    by_cases minNamed : "min".toList <:+: name.toList
    · simp only [boundNamed?_min minNamed]
      exact reading_number shape first (.inl minNamed) fun bound short => .min bound short minNamed
    by_cases maxNamed : "max".toList <:+: name.toList
    · simp only [boundNamed?_max minNamed maxNamed]
      exact reading_number shape first (.inr maxNamed) fun bound short => .max bound short minNamed
    simp only [boundNamed?_none minNamed maxNamed]
    refine reading_bad required email ?_
    rintro other digits n ⟨number, shape', first', named, _⟩
    obtain ⟨rfl, -⟩ := Text.cut_unique shape first shape' first'
    rcases named with holdsMin | holdsMax
    · exact minNamed holdsMin
    · exact maxNamed holdsMax

theorem Check.ext_parts {check other : Check} (kinds : check.kind = other.kind)
    (parameters : check.parameter? = other.parameter?) : check = other := by
  cases check <;> cases other <;> simp_all [Check.kind, Check.parameter?]

/-- The outcome of a reading is determined by its text. -/
theorem Reading.good_iff {s : String} {field : Option String} {result : Except Failure Check}
    (reading : Reading s field result) (check : Check) :
    result = .ok check ↔ Asks s check.kind check.parameter? := by
  cases reading with
  | good asks =>
    constructor
    · rintro ⟨rfl⟩; exact asks
    · intro asks'
      have same := asks.unique asks'
      exact congrArg _ (Check.ext_parts same.1 same.2)
  | tooLong long =>
    refine ⟨fun impossible => (nomatch impossible), fun asks => ?_⟩
    exact absurd long (((wellFormed_iff_asks s).mpr ⟨_, _, asks⟩).not_onlyTooLong _)
  | bad malformed _ =>
    refine ⟨fun impossible => (nomatch impossible), fun asks => ?_⟩
    exact absurd ((wellFormed_iff_asks s).mpr ⟨_, _, asks⟩) malformed

namespace Token

theorem ext_parts {token other : Token} (checks : token.check = other.check)
    (sources : token.source = other.source) : token = other := by
  cases token
  cases other
  cases checks
  cases sources
  rfl

theorem empty_unbound (name digits : List Char) (n : Int) : ¬ IsBound "" name digits n := by
  rintro ⟨number, shape, _⟩
  simp at shape

theorem parse_reading (s : String) (field : Option String) :
    Reading s field ((Token.parse s field).map Token.check) := by
  unfold Token.parse
  by_cases empty : s = ""
  · subst empty
    exact reading_bad (by decide) (by decide) empty_unbound
  · have reading := readCheck_reading s field
    cases read : Token.readCheck s field with
    | error failure => simpa [empty, read, Except.map] using reading
    | ok check => simpa [empty, read, Except.map] using reading

theorem source_parse {s : String} {field : Option String} {token : Token}
    (parsed : Token.parse s field = .ok token) : token.source = s := by
  unfold Token.parse at parsed
  by_cases empty : s = ""
  · simp [empty] at parsed
  · cases read : Token.readCheck s field with
    | error failure => simp [empty, read] at parsed
    | ok check =>
      simp only [empty, read, ↓reduceDIte, Except.ok.injEq] at parsed
      rw [← parsed]

/-- A text is read as a token exactly if the token keeps the text and is what the text asks for. -/
theorem parse_ok_iff (s : String) (field : Option String) (token : Token) :
    Token.parse s field = .ok token ↔ token.source = s ∧ Asks s token.kind token.parameter? := by
  have good := (parse_reading s field).good_iff token.check
  constructor
  · intro parsed
    exact ⟨source_parse parsed, good.mp (by rw [parsed]; rfl)⟩
  · rintro ⟨source, asks⟩
    have checked := good.mpr asks
    cases parsed : Token.parse s field with
    | error failure => rw [parsed] at checked; cases checked
    | ok other =>
      rw [parsed] at checked
      exact congrArg _ (ext_parts (Except.ok.inj checked) ((source_parse parsed).trans source.symm))

/-- Exactly the token texts are read. -/
theorem parse_returns_iff (s : String) (field : Option String) :
    (∃ token, Token.parse s field = .ok token) ↔ WellFormed s := by
  constructor
  · rintro ⟨token, parsed⟩
    exact (wellFormed_iff_asks s).mpr ⟨_, _, ((parse_ok_iff s field token).mp parsed).2⟩
  · intro good
    have reading := parse_reading s field
    cases parsed : Token.parse s field with
    | ok token => exact ⟨token, rfl⟩
    | error failure =>
      rw [parsed] at reading
      cases reading with
      | tooLong long => exact absurd long (good.not_onlyTooLong _)
      | bad malformed _ => exact absurd good malformed

/-- A text that is no token is a configuration error about itself, unless only its number is too
long. -/
theorem parse_error {s : String} {field : Option String} {failure : Failure}
    (failed : Token.parse s field = .error failure) :
    (∃ defect, failure = .config ⟨defect, field, some s⟩ ∧ ∀ count, ¬ OnlyTooLong s count) ∨
      ∃ count, OnlyTooLong s count ∧ failure = .overlong (.text count) := by
  have reading := parse_reading s field
  rw [failed] at reading
  cases reading with
  | tooLong long => exact .inr ⟨_, long, rfl⟩
  | bad _ notLong => exact .inl ⟨_, rfl, notLong⟩

theorem parse_overlong_iff (s : String) (field : Option String) (count : Nat) :
    Token.parse s field = .error (.overlong (.text count)) ↔ OnlyTooLong s count := by
  constructor
  · intro failed
    rcases parse_error failed with ⟨defect, impossible, _⟩ | ⟨actual, long, same⟩
    · cases impossible
    · cases same
      exact long
  · intro long
    cases parsed : Token.parse s field with
    | ok token => exact absurd long (((parse_returns_iff s field).mp ⟨token, parsed⟩).not_onlyTooLong count)
    | error failure =>
      rcases parse_error parsed with ⟨_, _, notLong⟩ | ⟨actual, long', same⟩
      · exact absurd long (notLong count)
      · obtain ⟨_, _, _, bound, length, _⟩ := long
        obtain ⟨_, _, _, bound', length', _⟩ := long'
        rw [same, ← length, ← length', (bound.unique bound').2.1]

end Token

/-! ## Reading a rule string -/

theorem parse_empty (field : Option String) :
    parse "" field = .error (.config ⟨.emptyRule, field, some ""⟩) := rfl

theorem parse_of_ne {rule : String} (given : rule ≠ "") (field : Option String) :
    parse rule field = (Text.segments delimiter rule).mapM fun s => Token.parse s field := by
  rw [parse, if_neg given]

theorem allSucceed_iff (segments : List String) (field : Option String) :
    Traversal.AllSucceed (fun s => Token.parse s field) segments ↔ ∀ s ∈ segments, WellFormed s := by
  simp only [Traversal.AllSucceed, Token.parse_returns_iff]

/-- A rule string is read exactly if it is given and all its segments are tokens. -/
theorem parse_returns_iff (rule : String) (field : Option String) :
    (∃ tokens, parse rule field = .ok tokens) ↔
      rule ≠ "" ∧ ∀ s ∈ Text.segments delimiter rule, WellFormed s := by
  by_cases empty : rule = ""
  · subst empty
    simp [parse_empty]
  · rw [parse_of_ne empty, Traversal.mapM_returns_iff, allSucceed_iff]
    simp [empty]

/-- What is read has one token for each segment, in order, with its text and with what it asks for. -/
theorem parse_tokens {rule : String} {field : Option String} {tokens : List Token}
    (parsed : parse rule field = .ok tokens) :
    List.Forall₂ (fun s token => token.source = s ∧ Asks s token.kind token.parameter?)
      (Text.segments delimiter rule) tokens := by
  have given : rule ≠ "" := ((parse_returns_iff rule field).mp ⟨tokens, parsed⟩).1
  rw [parse_of_ne given, Traversal.mapM_ok_iff] at parsed
  exact parsed.imp fun s token read => (Token.parse_ok_iff s field token).mp read

theorem sources_of_parse {rule : String} {field : Option String} {tokens : List Token}
    (parsed : parse rule field = .ok tokens) : tokens.map Token.source = Text.segments delimiter rule := by
  have same : List.Forall₂ Eq (Text.segments delimiter rule) (tokens.map Token.source) :=
    List.forall₂_map_right_iff.mpr ((parse_tokens parsed).imp fun _ _ asked => asked.1.symm)
  rw [List.forall₂_eq_eq_eq] at same
  exact same.symm

/-- A failure to read a rule string is a configuration error about the whole of it, or the failure of
its first segment that is no token. -/
theorem parse_error {rule : String} {field : Option String} {failure : Failure}
    (failed : parse rule field = .error failure) :
    (rule = "" ∧ failure = .config ⟨.emptyRule, field, some ""⟩) ∨
      ∃ before s after, Text.segments delimiter rule = before ++ s :: after ∧
        (∀ earlier ∈ before, WellFormed earlier) ∧ Token.parse s field = .error failure := by
  by_cases empty : rule = ""
  · subst empty
    exact .inl ⟨rfl, (Except.error.inj failed).symm⟩
  · rw [parse_of_ne empty, Traversal.mapM_error_iff] at failed
    obtain ⟨before, s, after, place, earlier, failure⟩ := failed
    exact .inr ⟨before, s, after, place, (allSucceed_iff before field).mp earlier, failure⟩

theorem parse_first_bad {rule s : String} {field : Option String} {failure : Failure}
    {before after : List String} (given : rule ≠ "")
    (place : Text.segments delimiter rule = before ++ s :: after)
    (earlier : ∀ s ∈ before, WellFormed s) (failed : Token.parse s field = .error failure) :
    parse rule field = .error failure := by
  rw [parse_of_ne given, Traversal.mapM_error_iff]
  exact ⟨before, s, after, place, (allSucceed_iff before field).mpr earlier, failed⟩

/-- Reading a rule string follows the grammar: of the pieces at `|`, it needs all to be tokens, gives
their tokens in order, and otherwise fails with a configuration error, except where the first piece
that is no token has nothing wrong but the length of its number. -/
theorem parse_follows_grammar (rule : String) (field : Option String) :
    ∃ pieces, Text.Pieces '|' rule pieces ∧
      ((∃ tokens, parse rule field = .ok tokens) ↔ rule ≠ "" ∧ ∀ s ∈ pieces, WellFormed s) ∧
      (∀ tokens, parse rule field = .ok tokens →
        List.Forall₂ (fun s token => token.source = s ∧ Asks s token.kind token.parameter?) pieces tokens) ∧
      (∀ failure, parse rule field = .error failure →
        (∃ e, failure = .config e) ∨ ∃ count, failure = .overlong (.text count)) ∧
      ∀ count, parse rule field = .error (.overlong (.text count)) ↔
        ∃ before s after, pieces = before ++ s :: after ∧ (∀ earlier ∈ before, WellFormed earlier) ∧
          OnlyTooLong s count := by
  refine ⟨_, (Text.pieces_iff delimiter rule _).mpr rfl, parse_returns_iff rule field,
    fun tokens parsed => parse_tokens parsed, ?_, ?_⟩
  · intro failure failed
    rcases parse_error failed with ⟨_, rfl⟩ | ⟨_, s, _, _, _, tokenFailed⟩
    · exact .inl ⟨_, rfl⟩
    · rcases Token.parse_error tokenFailed with ⟨defect, rfl, _⟩ | ⟨count, _, rfl⟩
      · exact .inl ⟨_, rfl⟩
      · exact .inr ⟨count, rfl⟩
  · intro count
    constructor
    · intro failed
      rcases parse_error failed with ⟨_, impossible⟩ | ⟨before, s, after, place, earlier, tokenFailed⟩
      · cases impossible
      · exact ⟨before, s, after, place, earlier, (Token.parse_overlong_iff s field count).mp tokenFailed⟩
    · rintro ⟨before, s, after, place, earlier, long⟩
      refine parse_first_bad ?_ place earlier ((Token.parse_overlong_iff s field count).mpr long)
      rintro rfl
      have alone : Text.segments delimiter "" = [""] := rfl
      have same : s = "" := by
        have member : s ∈ [""] := by rw [← alone, place]; simp
        simpa using member
      obtain ⟨name, digits, n, bound, _⟩ := long
      exact Token.empty_unbound name digits n (same ▸ bound)

end FormRules.Rule
