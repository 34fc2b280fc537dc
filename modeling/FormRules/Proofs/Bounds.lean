import FormRules.Proofs.Checks
import FormRules.Proofs.NormalForm

/-!
# Bounds compare one number

A text is measured by the integer that it spells, or by its length if it spells none. Minima and
maxima compare this one number, so that they are complements of each other at neighbouring bounds,
and both can be met at once exactly if the minimum is not above the maximum.
-/

namespace FormRules.Checks

open Numeral (Spelling TooLong)

/-- The number that a text is measured by: the integer that it spells, or else its length. -/
inductive Measures (s : String) : Int → Prop
  | integer {digits : List Char} {n : Int} (spelled : Spelling s.toList digits n) : Measures s n
  | length (unspelled : ∀ digits n, ¬ Spelling s.toList digits n) : Measures s (Text.size s)

/-- A number decides for all bounds whether a text meets them. -/
def DecidesBounds (s : String) (m : Int) : Prop :=
  ∀ n, isAtLeast n (some s) = .ok (decide (n ≤ m)) ∧ isAtMost n (some s) = .ok (decide (m ≤ n))

theorem exists_measures (s : String) : ∃ m, Measures s m := by
  by_cases spells : ∃ digits n, Spelling s.toList digits n
  · obtain ⟨digits, n, spelled⟩ := spells
    exact ⟨n, .integer spelled⟩
  · simp only [not_exists] at spells
    exact ⟨_, .length spells⟩

theorem measure_of_measures {s : String} {m : Int} (measures : Measures s m)
    (short : ∀ count, ¬ TooLong s count) : measure s = .ok m := by
  cases measures with
  | integer spelled =>
    refine measure_spelling spelled (Nat.not_lt.mp fun long => ?_)
    exact short _ ⟨_, _, spelled, rfl, long⟩
  | length unspelled =>
    rw [measure, (Numeral.read?_none_iff s).mpr unspelled]
    rfl

theorem isAtLeast_of_measure {s : String} {m : Int} (measured : measure s = .ok m) (bound : Int) :
    isAtLeast bound (some s) = .ok (decide (bound ≤ m)) := by
  rw [isAtLeast, measured]
  rfl

theorem isAtMost_of_measure {s : String} {m : Int} (measured : measure s = .ok m) (bound : Int) :
    isAtMost bound (some s) = .ok (decide (m ≤ bound)) := by
  rw [isAtMost, measured]
  rfl

theorem decidesBounds_of_measure {s : String} {m : Int} (measured : measure s = .ok m) : DecidesBounds s m :=
  fun n => ⟨isAtLeast_of_measure measured n, isAtMost_of_measure measured n⟩

/-- At most one number decides the bounds on a text: the minimum and the maximum at it leave no other. -/
theorem DecidesBounds.unique {s : String} {m other : Int} (one : DecidesBounds s m) (two : DecidesBounds s other) :
    m = other := by
  have below := (one other).1.symm.trans (two other).1
  have above := (one other).2.symm.trans (two other).2
  simp only [Except.ok.injEq, decide_eq_decide, Int.le_refl, iff_true] at below above
  exact Int.le_antisymm above below

end FormRules.Checks

namespace FormRules.Rule

open Numeral (Spelling TooLong)

namespace Token

theorem passes_min_iff {token : Token} {bound : Int} (min : token.check = .min bound) (s : String) :
    token.passes (some s) = .ok true ↔ ∃ m, Checks.measure s = .ok m ∧ bound ≤ m := by
  rw [passes, min, Check.passes, Checks.isAtLeast, Traversal.bind_ok_iff]
  simp [pure, Except.pure]

theorem passes_max_iff {token : Token} {bound : Int} (max : token.check = .max bound) (s : String) :
    token.passes (some s) = .ok true ↔ ∃ m, Checks.measure s = .ok m ∧ m ≤ bound := by
  rw [passes, max, Check.passes, Checks.isAtMost, Traversal.bind_ok_iff]
  simp [pure, Except.pure]

end Token

/-- A minimum and a maximum that are given by integer texts are a rule string. -/
theorem parse_minmax {rawMin rawMax : String} {a b : Int} (readMin : Numeral.read? rawMin = .ok (some a))
    (readMax : Numeral.read? rawMax = .ok (some b)) (field : Option String) :
    ∃ min max : Token, parse ("min:" ++ rawMin ++ "|max:" ++ rawMax) field = .ok [min, max] ∧
      min.check = .min a ∧ max.check = .max b := by
  obtain ⟨digits, spelled, short⟩ := (Numeral.read?_some_iff _ _).mp readMin
  obtain ⟨digits', spelled', short'⟩ := (Numeral.read?_some_iff _ _).mp readMax
  obtain ⟨clean, bound⟩ := bound_of_spelling (.inl rfl) spelled
  obtain ⟨clean', bound'⟩ := bound_of_spelling (.inr rfl) spelled'
  let min : Token := ⟨.min a, "min" ++ ":" ++ rawMin, Token.append_ne_empty (by decide)⟩
  let max : Token := ⟨.max b, "max" ++ ":" ++ rawMax, Token.append_ne_empty (by decide)⟩
  refine ⟨min, max, ?_, rfl, rfl⟩
  refine (parse_ok_iff_render _ field _).mpr ⟨List.cons_ne_nil _ _, ?_, ?_⟩
  · refine List.forall_mem_cons.mpr ⟨⟨clean, .min bound short (List.infix_refl _)⟩, ?_⟩
    exact List.forall_mem_singleton.mpr ⟨clean', .max bound' short' (by decide)⟩
  · apply String.toList_injective
    simp [render, min, max, delimiter]

/-- A text that a minimum and a maximum both let pass lies between them, and there is one as soon as
the minimum is not above the maximum. -/
theorem both_pass_iff {min max : Token} {a b : Int} {raw : String} (lower : min.check = .min a)
    (upper : max.check = .max b) (read : Numeral.read? raw = .ok (some a)) :
    (∃ s, min.passes (some s) = .ok true ∧ max.passes (some s) = .ok true) ↔ a ≤ b := by
  constructor
  · rintro ⟨s, passed, passed'⟩
    obtain ⟨m, measured, above⟩ := (Token.passes_min_iff lower s).mp passed
    obtain ⟨m', measured', below⟩ := (Token.passes_max_iff upper s).mp passed'
    cases measured.symm.trans measured'
    exact above.trans below
  · intro le
    -- the parameter of the minimum is itself a value that is measured by it
    obtain ⟨digits, spelled, short⟩ := (Numeral.read?_some_iff _ _).mp read
    have measured := Checks.measure_spelling spelled short
    exact ⟨raw, (Token.passes_min_iff lower raw).mpr ⟨a, measured, Int.le_refl a⟩,
      (Token.passes_max_iff upper raw).mpr ⟨a, measured, le⟩⟩

/-- On a text within the digit limit exactly one number decides all bounds: the integer that the text
spells, or its length if it spells none. So a maximum is met exactly if the next minimum is not, and a
minimum and a maximum in one rule let some text pass exactly if the one is not above the other. -/
theorem bounds_compare_one_number :
    (∀ s, (∀ count, ¬ TooLong s count) →
      (∃! m, Checks.DecidesBounds s m) ∧
      (∀ digits n, Spelling s.toList digits n → Checks.DecidesBounds s n) ∧
      ((∀ digits n, ¬ Spelling s.toList digits n) → Checks.DecidesBounds s (Text.size s)) ∧
      ∀ n, Checks.isAtMost n (some s) = .ok true ↔ Checks.isAtLeast (n + 1) (some s) = .ok false) ∧
    ∀ rawMin rawMax a b field, Numeral.read? rawMin = .ok (some a) → Numeral.read? rawMax = .ok (some b) →
      ∃ min max : Token, parse ("min:" ++ rawMin ++ "|max:" ++ rawMax) field = .ok [min, max] ∧
        min.check = .min a ∧ max.check = .max b ∧
        ((∃ s, min.passes (some s) = .ok true ∧ max.passes (some s) = .ok true) ↔ a ≤ b) := by
  refine ⟨fun s short => ?_, ?_⟩
  · have decides {m : Int} (measures : Checks.Measures s m) : Checks.DecidesBounds s m :=
      Checks.decidesBounds_of_measure (Checks.measure_of_measures measures short)
    obtain ⟨m, measures⟩ := Checks.exists_measures s
    refine ⟨⟨m, decides measures, fun other also => also.unique (decides measures)⟩,
      fun digits n spelled => decides (.integer spelled), fun unspelled => decides (.length unspelled), fun n => ?_⟩
    rw [(decides measures n).2, (decides measures (n + 1)).1]
    simp only [Except.ok.injEq, decide_eq_true_eq, decide_eq_false_iff_not]
    omega
  · intro rawMin rawMax a b field readMin readMax
    obtain ⟨min, max, parsed, lower, upper⟩ := parse_minmax readMin readMax field
    exact ⟨min, max, parsed, lower, upper, both_pass_iff lower upper readMin⟩

theorem not_tooLong_of_read {s : String} {number : Option Int} (read : Numeral.read? s = .ok number) (count : Nat) :
    ¬ TooLong s count := by
  intro long
  cases read.symm.trans ((Numeral.read?_error_iff s (.text count)).mpr ⟨count, long, rfl⟩)

theorem bounds_compare_one_number_signed :
    Numeral.read? "-007" = .ok (some (-7)) ∧ Checks.DecidesBounds "-007" (-7) ∧
      Numeral.read? "\u0664\u0662" = .ok none ∧ Checks.DecidesBounds "\u0664\u0662" 2 ∧
      Numeral.read? "+3" = .ok (some 3) ∧ Numeral.read? "02" = .ok (some 2) ∧
      ∃ min max : Token, parse "min:+3|max:02" none = .ok [min, max] ∧
        ¬ ∃ s, min.passes (some s) = .ok true ∧ max.passes (some s) = .ok true := by
  have signed : Numeral.read? "-007" = .ok (some (-7)) := by decide +kernel
  have foreign : Numeral.read? "\u0664\u0662" = .ok none := by decide +kernel
  have three : Numeral.read? "+3" = .ok (some 3) := by decide +kernel
  have two : Numeral.read? "02" = .ok (some 2) := by decide +kernel
  obtain ⟨measured, joined⟩ := bounds_compare_one_number
  obtain ⟨_, integer, _⟩ := measured "-007" (not_tooLong_of_read signed)
  obtain ⟨_, _, length, _⟩ := measured "\u0664\u0662" (not_tooLong_of_read foreign)
  obtain ⟨digits, spelled, _⟩ := (Numeral.read?_some_iff _ _).mp signed
  obtain ⟨min, max, parsed, _, _, both⟩ := joined "+3" "02" 3 2 none three two
  exact ⟨signed, integer digits (-7) spelled, foreign, length ((Numeral.read?_none_iff _).mp foreign), three, two,
    min, max, parsed, fun some => absurd (both.mp some) (by decide)⟩

end FormRules.Rule
