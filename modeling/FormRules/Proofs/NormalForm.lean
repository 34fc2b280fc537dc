import FormRules.Proofs.Rendering

/-!
# Normal forms of rule strings

A token that is made without a text gets the shortest text that asks for it, so a row of such tokens
renders to a rule string that is read as that row. Made anew without their texts, the tokens of a
rule string therefore give its normal form: the same checks in the same order, each under its
shortest text.
-/

namespace FormRules.Rule

open Numeral (Unwritable)

/-- The kinds and parameters that tokens are made of: a keyword alone, or a bound with an integer that
is not too long to be written. -/
inductive Suits : Kind → Value → Prop
  | keyword {kind : Kind} (bare : kind.hasParameter = false) : Suits kind .null
  | bound {kind : Kind} {n : Int} (bounded : kind.hasParameter = true) (short : ¬ Unwritable n) :
      Suits kind (.int n)

namespace Token

/-- A token that is made of a kind and a parameter alone. -/
def IsMade (token : Token) : Prop := ∃ kind parameter, ofParts (.kind kind) parameter "" = .ok token

/-- The parameter of a token, as it is given to make one. -/
def parameter (token : Token) : Value := token.parameter?.elim .null .int

/-- A token made anew of the kind and the parameter of one, without its text. -/
def renewed (token : Token) : Except Misfit Token := ofParts (.kind token.kind) token.parameter ""

end Token

/-- A rule string with all tokens made anew without their texts; nothing for a text that is no rule
string. -/
def normalForm? (rule : String) : Option String := do
  let tokens ← (parse rule none).toOption
  let fresh ← (tokens.mapM Token.renewed).toOption
  return render fresh

/-! ## Shortest texts -/

theorem Check.source_bound_iff {check : Check} {n : Int} (bound : check.parameter? = some n) (s : String) :
    check.source = .ok s ↔ ∃ w, Numeral.write n = .ok w ∧ check.kind.word ++ ":" ++ w = s := by
  rw [Check.source_of_bound bound]
  cases Numeral.write n <;> simp [Except.map]

/-- A word for a bound, a colon and an integer text make a bound without a delimiter. -/
theorem bound_of_spelling {word w : String} {digits : List Char} {n : Int} (named : word = "min" ∨ word = "max")
    (spelled : Numeral.Spelling w.toList digits n) :
    delimiter ∉ (word ++ ":" ++ w).toList ∧ IsBound (word ++ ":" ++ w) word.toList digits n := by
  have shape : (word ++ ":" ++ w).toList = word.toList ++ ':' :: w.toList := by simp
  have outside : ':' ∉ word.toList ∧ delimiter ∉ word.toList := by
    rcases named with rfl | rfl <;> decide
  have holds : "min".toList <:+: word.toList ∨ "max".toList <:+: word.toList := by
    rcases named with rfl | rfl
    · exact .inl (List.infix_refl _)
    · exact .inr (List.infix_refl _)
  refine ⟨?_, w.toList, shape, outside.1, holds, spelled⟩
  -- an integer text has digits and at most a sign, so it brings no delimiter in
  rw [shape, List.mem_append, List.mem_cons]
  rintro (inWord | atColon | inNumber)
  · exact outside.2 inWord
  · exact absurd atColon (by decide)
  · rcases spelled.chars _ inNumber with digit | plus | minus
    · exact absurd digit (by unfold Numeral.IsDigit; decide)
    · exact absurd plus (by decide)
    · exact absurd minus (by decide)

/-- The shortest text of a check has no delimiter inside and asks for the check. -/
theorem Check.source_asks {check : Check} {s : String} (written : check.source = .ok s) :
    delimiter ∉ s.toList ∧ Asks s check.kind check.parameter? := by
  cases check with
  | required =>
    cases written
    exact ⟨by decide, .required rfl⟩
  | email =>
    cases written
    exact ⟨by decide, .email rfl⟩
  | min n =>
    obtain ⟨w, number, rfl⟩ := (source_bound_iff rfl s).mp written
    obtain ⟨digits, spelled, short⟩ := Numeral.spelling_of_write number
    obtain ⟨clean, bound⟩ := bound_of_spelling (.inl rfl) spelled
    exact ⟨clean, .min bound short (List.infix_refl _)⟩
  | max n =>
    obtain ⟨w, number, rfl⟩ := (source_bound_iff rfl s).mp written
    obtain ⟨digits, spelled, short⟩ := Numeral.spelling_of_write number
    obtain ⟨clean, bound⟩ := bound_of_spelling (.inr rfl) spelled
    exact ⟨clean, .max bound short (by decide)⟩

/-- The checks that have a text: all but the bounds with an integer that is too long. -/
theorem Check.source_returns_iff (check : Check) :
    (∃ s, check.source = .ok s) ↔ ∀ n, check.parameter? = some n → ¬ Unwritable n := by
  cases bound : check.parameter? with
  | none => exact ⟨fun _ => nofun, fun _ => ⟨_, source_of_keyword bound⟩⟩
  | some n =>
    simp only [source_bound_iff bound, Option.some.injEq, forall_eq', ← Numeral.writable_iff]
    exact ⟨fun ⟨_, w, number, _⟩ => ⟨w, number⟩, fun ⟨w, number⟩ => ⟨_, w, number, rfl⟩⟩

/-! ## Tokens made without a text -/

namespace Token

theorem ofCheck_ok_iff (check : Check) (token : Token) :
    ofCheck check = .ok token ↔ token.check = check ∧ check.source = .ok token.source := by
  unfold ofCheck
  split
  · rename_i s written
    rw [Except.ok.injEq]
    constructor
    · rintro rfl
      exact ⟨rfl, written⟩
    · rintro ⟨rfl, written'⟩
      exact ext_parts rfl (Except.ok.inj (written.symm.trans written'))
  · rename_i refused failed
    simp [failed]

theorem checkOf?_parts (token : Token) : checkOf? token.kind token.parameter = .ok token.check := by
  unfold kind parameter parameter?
  cases token.check <;> rfl

theorem ofParts_bare (kind : Kind) (parameter : Value) :
    ofParts (.kind kind) parameter "" =
      checkOf? kind parameter >>= fun check => (ofCheck check).mapError Misfit.overlong := by
  simp only [ofParts, ↓reduceDIte]
  cases checkOf? kind parameter with
  | error misfit => rfl
  | ok check =>
    change _ = (ofCheck check).mapError Misfit.overlong
    dsimp only
    cases ofCheck check <;> rfl

/-- A token that is made of a kind and a parameter alone has their check and the shortest text of it. -/
theorem ofParts_bare_ok_iff (kind : Kind) (parameter : Value) (token : Token) :
    ofParts (.kind kind) parameter "" = .ok token ↔
      checkOf? kind parameter = .ok token.check ∧ token.check.source = .ok token.source := by
  have made (check : Check) : (ofCheck check).mapError Misfit.overlong = .ok token ↔
      token.check = check ∧ check.source = .ok token.source := by
    rw [← ofCheck_ok_iff]
    cases ofCheck check <;> simp [Except.mapError]
  simp only [ofParts_bare, Traversal.bind_ok_iff, made]
  constructor
  · rintro ⟨check, fits, rfl, written⟩
    exact ⟨fits, written⟩
  · rintro ⟨fits, written⟩
    exact ⟨token.check, fits, rfl, written⟩

theorem isMade_iff (token : Token) : token.IsMade ↔ token.check.source = .ok token.source := by
  simp only [IsMade, ofParts_bare_ok_iff]
  exact ⟨fun ⟨_, _, _, written⟩ => written, fun written => ⟨_, _, checkOf?_parts token, written⟩⟩

theorem IsMade.isSegment {token : Token} (made : token.IsMade) : token.IsSegment := by
  obtain ⟨clean, asks⟩ := Check.source_asks ((isMade_iff token).mp made)
  exact ⟨clean, asks⟩

theorem renewed_ok_iff (token fresh : Token) :
    token.renewed = .ok fresh ↔ fresh.check = token.check ∧ fresh.IsMade := by
  rw [renewed, ofParts_bare_ok_iff, checkOf?_parts, isMade_iff, Except.ok.injEq, eq_comm]

theorem renewed_of_isMade {token : Token} (made : token.IsMade) : token.renewed = .ok token :=
  (renewed_ok_iff token token).mpr ⟨rfl, made⟩

/-- The number of a bound that a text asks for was read from its digits, so it can be written. -/
theorem writable_of_asks {s : String} {kind : Kind} {n : Int} (asks : Asks s kind (some n)) : ¬ Unwritable n := by
  cases asks with
  | min bound short _ =>
    obtain ⟨_, _, _, _, spelled⟩ := bound
    exact Numeral.writable_of_spelling spelled short
  | max bound short _ =>
    obtain ⟨_, _, _, _, spelled⟩ := bound
    exact Numeral.writable_of_spelling spelled short

theorem IsSegment.renews {token : Token} (segment : token.IsSegment) : ∃ fresh, token.renewed = .ok fresh := by
  have writable : ∀ n, token.check.parameter? = some n → ¬ Unwritable n := by
    intro n bound
    have asks : Asks token.source token.kind token.check.parameter? := segment.asks
    rw [bound] at asks
    exact writable_of_asks asks
  obtain ⟨s, written⟩ := (Check.source_returns_iff token.check).mpr writable
  exact ⟨⟨token.check, s, source_ne_empty written⟩,
    (renewed_ok_iff token _).mpr ⟨rfl, (isMade_iff _).mpr written⟩⟩

/-- Exactly the suitable kinds and parameters make a token by themselves. -/
theorem ofParts_bare_returns_iff (kind : Kind) (parameter : Value) :
    (∃ token, ofParts (.kind kind) parameter "" = .ok token) ↔ Suits kind parameter := by
  constructor
  · rintro ⟨token, made⟩
    obtain ⟨fits, written⟩ := (ofParts_bare_ok_iff kind parameter token).mp made
    have writable := (Check.source_returns_iff token.check).mp ⟨_, written⟩
    cases kind <;> cases parameter <;> simp only [checkOf?, Except.ok.injEq, reduceCtorEq] at fits
    · exact .keyword rfl
    · exact .keyword rfl
    · exact .bound rfl (writable _ (fits ▸ rfl))
    · exact .bound rfl (writable _ (fits ▸ rfl))
  · intro suits
    have made (check : Check) (fits : checkOf? kind parameter = .ok check)
        (writable : ∀ n, check.parameter? = some n → ¬ Unwritable n) :
        ∃ token, ofParts (.kind kind) parameter "" = .ok token := by
      obtain ⟨s, written⟩ := (Check.source_returns_iff check).mpr writable
      exact ⟨⟨check, s, source_ne_empty written⟩, (ofParts_bare_ok_iff kind parameter _).mpr ⟨fits, written⟩⟩
    cases suits with
    | keyword bare =>
      cases kind with
      | required => exact made .required rfl nofun
      | email => exact made .email rfl nofun
      | min => cases bare
      | max => cases bare
    | @bound n bounded short =>
      cases kind with
      | required => cases bounded
      | email => cases bounded
      | min => exact made (.min n) rfl fun m same => Option.some.inj same ▸ short
      | max => exact made (.max n) rfl fun m same => Option.some.inj same ▸ short

end Token

/-! ## Rows of tokens -/

/-- A row of tokens that are made without a text is read back from its rule string. -/
theorem parse_render_of_isMade {tokens : List Token} (nonempty : tokens ≠ [])
    (made : ∀ token ∈ tokens, token.IsMade) (field : Option String) :
    parse (render tokens) field = .ok tokens :=
  (parse_ok_iff_render _ field tokens).mpr ⟨nonempty, fun token member => (made token member).isSegment, rfl⟩

theorem normalForm?_eq_some {rule : String} {tokens fresh : List Token} (parsed : parse rule none = .ok tokens)
    (renewed : List.Forall₂ (fun token new => token.renewed = .ok new) tokens fresh) :
    normalForm? rule = some (render fresh) := by
  have all := (Traversal.mapM_ok_iff Token.renewed tokens fresh).mpr renewed
  simp [normalForm?, parsed, all, Except.toOption]

/-- Every rule string has a normal form: a rule string that is its own normal form. -/
theorem exists_normalForm {rule : String} {field : Option String} {tokens : List Token}
    (parsed : parse rule field = .ok tokens) :
    ∃ fresh, List.Forall₂ (fun token new => token.renewed = .ok new) tokens fresh ∧
      normalForm? rule = some (render fresh) ∧ parse (render fresh) field = .ok fresh ∧
      normalForm? (render fresh) = some (render fresh) := by
  obtain ⟨nonempty, segments, _⟩ := (parse_ok_iff_render rule field tokens).mp parsed
  obtain ⟨fresh, renewed⟩ := Traversal.exists_forall₂ fun token member => (segments token member).renews
  have made : ∀ new ∈ fresh, new.IsMade := by
    intro new member
    obtain ⟨token, _, same⟩ := Traversal.mem_right_of_forall₂ renewed member
    exact ((Token.renewed_ok_iff token new).mp same).2
  have filled : fresh ≠ [] := by
    rintro rfl
    cases renewed
    exact nonempty rfl
  have again : List.Forall₂ (fun token new => token.renewed = .ok new) fresh fresh :=
    List.forall₂_same.mpr fun new member => Token.renewed_of_isMade (made new member)
  have read := parse_render_of_isMade filled made
  exact ⟨fresh, renewed, normalForm?_eq_some (parse_field_irrelevant parsed none) renewed, read field,
    normalForm?_eq_some (read none) again⟩

/-- Rows of tokens that are made without a text, so of exactly the suitable kinds and parameters, are
read back from their rule strings. Made anew without their texts, the tokens of a rule string give a
rule string that stays as it is when the same is done to it, and that judges every value, at each of
its tokens, as the given one does. -/
theorem parse_render_made (field : Option String) :
    (∀ kind parameter,
      (∃ token, Token.ofParts (.kind kind) parameter "" = .ok token) ↔ Suits kind parameter) ∧
    (∀ tokens : List Token, tokens ≠ [] → (∀ token ∈ tokens, token.IsMade) →
      parse (render tokens) field = .ok tokens) ∧
    ∀ rule tokens, parse rule field = .ok tokens →
      ∃ fresh, normalForm? rule = some (render fresh) ∧ parse (render fresh) field = .ok fresh ∧
        normalForm? (render fresh) = some (render fresh) ∧
        List.Forall₂ (fun token new => token.renewed = .ok new ∧ ∀ v, new.passes v = token.passes v)
          tokens fresh := by
  refine ⟨Token.ofParts_bare_returns_iff, fun tokens nonempty made => parse_render_of_isMade nonempty made field, ?_⟩
  intro rule tokens parsed
  obtain ⟨fresh, renewed, normal, read, fixed⟩ := exists_normalForm parsed
  refine ⟨fresh, normal, read, fixed, renewed.imp fun token new same => ⟨same, fun v => ?_⟩⟩
  rw [Token.passes, Token.passes, ((Token.renewed_ok_iff token new).mp same).1]

/-- The loose rule with all its tokens made anew. -/
def tightRule : String := "min:7|max:0|min:12|min:7"

/-- The minimum of seven under its shortest text. -/
def tightMin : Token := ⟨.min 7, "min:7", by decide⟩

theorem tightMin_isMade : tightMin.IsMade := ⟨.min, .int 7, by decide +kernel⟩

theorem parse_render_made_loose :
    (∃ token, Token.ofParts (.kind .min) (.int 7) "" = .ok token) ∧
      parse (render [tightMin]) none = .ok [tightMin] ∧ parse looseRule none = .ok looseTokens ∧
      ∃ fresh, normalForm? looseRule = some tightRule ∧ render fresh = tightRule ∧
        parse tightRule none = .ok fresh ∧ normalForm? tightRule = some tightRule ∧
        List.Forall₂ (fun token new => token.renewed = .ok new ∧ ∀ v, new.passes v = token.passes v)
          looseTokens fresh := by
  obtain ⟨kinds, read, normal⟩ := parse_render_made none
  have short : ¬ Unwritable 7 := Numeral.writable_of_lt (by decide)
  have alone : parse (render [tightMin]) none = .ok [tightMin] := by
    refine read [tightMin] (List.cons_ne_nil _ _) fun token member => ?_
    rw [List.mem_singleton.mp member]
    exact tightMin_isMade
  obtain ⟨fresh, first, again, fixed, same⟩ := normal looseRule looseTokens parse_looseRule
  have tight : normalForm? looseRule = some tightRule := by decide +kernel
  have rendered : render fresh = tightRule := Option.some.inj (first.symm.trans tight)
  rw [rendered] at again fixed
  exact ⟨(kinds .min (.int 7)).mpr (.bound rfl short), alone, parse_looseRule, fresh, tight, rendered,
    again, fixed, same⟩

end FormRules.Rule
