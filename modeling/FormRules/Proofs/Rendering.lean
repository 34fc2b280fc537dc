import FormRules.Proofs.Grammar

/-!
# Reading and rendering are inverse

A rule string is read as a row of tokens exactly if it is the rendering of that row, and the row is
one that a rule string can hold: it has a token, and the text of each token has no delimiter inside
and asks for just that token. So nothing is normalised, dropped or merged on the way.
-/

namespace FormRules.Rule

/-- A token that a rule string can hold as one of its pieces. -/
structure Token.IsSegment (token : Token) : Prop where
  clean : delimiter ∉ token.source.toList
  asks : Asks token.source token.kind token.parameter?

theorem Token.IsSegment.parse {token : Token} (segment : token.IsSegment) (field : Option String) :
    Token.parse token.source field = .ok token :=
  (Token.parse_ok_iff _ field token).mpr ⟨rfl, segment.asks⟩

/-- A rule string is read exactly as its pieces are; the empty text has a piece that is no token. -/
theorem parse_ok_iff (rule : String) (field : Option String) (tokens : List Token) :
    parse rule field = .ok tokens ↔
      List.Forall₂ (fun s token => token.source = s ∧ Asks s token.kind token.parameter?)
        (Text.segments delimiter rule) tokens := by
  refine ⟨parse_tokens, fun read => ?_⟩
  have given : rule ≠ "" := by
    rintro rfl
    have alone : Text.segments delimiter "" = [""] := rfl
    rw [alone] at read
    cases read with
    | cons head _ => exact absurd head.1 (Token.source_ne _)
  rw [parse_of_ne given, Traversal.mapM_ok_iff]
  exact read.imp fun s token asked => (Token.parse_ok_iff s field token).mpr asked

/-- Which tokens a rule string has does not depend on the field that it is for. -/
theorem parse_field_irrelevant {rule : String} {field : Option String} {tokens : List Token}
    (parsed : parse rule field = .ok tokens) (other : Option String) : parse rule other = .ok tokens :=
  (parse_ok_iff rule other tokens).mpr ((parse_ok_iff rule field tokens).mp parsed)

theorem isSegment_of_parse {rule : String} {field : Option String} {tokens : List Token}
    (parsed : parse rule field = .ok tokens) : ∀ token ∈ tokens, token.IsSegment := by
  intro token member
  have cut := (Text.pieces_iff delimiter rule _).mpr rfl
  obtain ⟨s, piece, source, asks⟩ := Traversal.mem_right_of_forall₂ (parse_tokens parsed) member
  subst source
  exact ⟨cut.clean _ piece, asks⟩

/-- Reading accepts exactly what rendering gives for the rows of tokens that a rule string can hold. -/
theorem parse_ok_iff_render (rule : String) (field : Option String) (tokens : List Token) :
    parse rule field = .ok tokens ↔
      tokens ≠ [] ∧ (∀ token ∈ tokens, token.IsSegment) ∧ render tokens = rule := by
  constructor
  · intro parsed
    have sources := sources_of_parse parsed
    have nonempty : tokens.map Token.source ≠ [] := sources ▸ Text.segments_ne_nil delimiter rule
    refine ⟨fun none => nonempty (by simp [none]), isSegment_of_parse parsed, ?_⟩
    rw [render, sources, Text.intercalate_segments]
  · rintro ⟨nonempty, segments, rfl⟩
    have cut : Text.Pieces delimiter (render tokens) (tokens.map Token.source) := by
      refine ⟨by simpa using nonempty, fun piece member => ?_, rfl⟩
      obtain ⟨token, inRow, rfl⟩ := List.mem_map.mp member
      exact (segments token inRow).clean
    rw [parse_ok_iff, ← (Text.pieces_iff _ _ _).mp cut, List.forall₂_map_left_iff, List.forall₂_same]
    exact fun token member => ⟨rfl, (segments token member).asks⟩

/-- What a rule string is read as renders to the rule string: one token for each piece, each under the
text of its piece and read back from that text alone. No other text is read as the same tokens. -/
theorem render_parse {rule : String} {field : Option String} {tokens : List Token}
    (parsed : parse rule field = .ok tokens) :
    render tokens = rule ∧ tokens.length = rule.toList.count '|' + 1 ∧
      (∀ token ∈ tokens, ∀ field, Token.parse token.source field = .ok token) ∧
      Text.Pieces '|' rule (tokens.map Token.source) ∧
      ∀ other field, parse other field = .ok tokens → other = rule := by
  obtain ⟨_, segments, rendered⟩ := (parse_ok_iff_render rule field tokens).mp parsed
  have sources := sources_of_parse parsed
  refine ⟨rendered, ?_, fun token member => (segments token member).parse, ?_, ?_⟩
  · have sizes := congrArg List.length sources
    rw [List.length_map, Text.length_segments] at sizes
    exact sizes
  · exact (Text.pieces_iff _ _ _).mpr sources
  · intro other field' same
    obtain ⟨_, _, rendered'⟩ := (parse_ok_iff_render other field' tokens).mp same
    exact rendered'.symm.trans rendered

/-- A rule with spellings that are not the shortest ones. -/
def looseRule : String := "x_minmax:+007|max length:-0|min:012|x_minmax:+007"

/-- The minimum of seven, under a name that holds both words. -/
def looseMin : Token := ⟨.min 7, "x_minmax:+007", by decide⟩

/-- The maximum of zero, with a sign. -/
def looseMax : Token := ⟨.max 0, "max length:-0", by decide⟩

/-- The tokens of the loose rule, two of which are the same. -/
def looseTokens : List Token := [looseMin, looseMax, ⟨.min 12, "min:012", by decide⟩, looseMin]

theorem parse_looseRule : parse looseRule none = .ok looseTokens := by decide +kernel

theorem render_parse_loose :
    parse looseRule none = .ok looseTokens ∧ render looseTokens = looseRule ∧
      looseTokens.length = looseRule.toList.count '|' + 1 ∧ Token.parse "max length:-0" none = .ok looseMax ∧
      ∀ other, parse other none = .ok looseTokens → other = looseRule := by
  obtain ⟨rendered, size, again, _, unique⟩ := render_parse parse_looseRule
  have member : looseMax ∈ looseTokens := by decide
  exact ⟨parse_looseRule, rendered, size, again looseMax member none, fun other => unique other none⟩

end FormRules.Rule
