import FormRules.Pattern
import FormRules.Proofs.Matching
import FormRules.Proofs.Numeral

/-!
# Conversion and its inverse

The integer texts are those that the integer pattern describes, and conversion gives the signed value
of each of them that is within the digit limit. What is written for an integer is converted back to
it. A plus before a text without a sign changes nothing; nor do zeros before the digits, except that
they are digits, so that they can make a text too long.
-/

namespace FormRules.Numeral

/-- The integer pattern describes exactly the integer texts. -/
theorem fits_integer_iff (cs : List Char) :
    Pattern.integer.fits cs = true ↔ ∃ digits n, Spelling cs digits n := by
  rw [Pattern.fits_iff_matches, Pattern.integer, Pattern.matches_followedBy_iff]
  simp only [Pattern.matches_optional_iff, Pattern.matches_one_iff, Pattern.matches_oneOrMore_one_iff, isDigit_iff,
    Bool.or_eq_true, beq_iff_eq]
  constructor
  · rintro ⟨front, digits, rfl, unsigned | ⟨c, rfl, plus | minus⟩, row⟩
    · subst unsigned
      exact ⟨digits, _, .plain row⟩
    · subst plus
      exact ⟨digits, _, .plus row⟩
    · subst minus
      exact ⟨digits, _, .minus row⟩
  · rintro ⟨digits, n, spelled⟩
    cases spelled with
    | plain row => exact ⟨[], _, rfl, .inl rfl, row⟩
    | plus row => exact ⟨['+'], _, rfl, .inr ⟨'+', rfl, .inl rfl⟩, row⟩
    | minus row => exact ⟨['-'], _, rfl, .inr ⟨'-', rfl, .inr rfl⟩, row⟩

/-! ## What is written -/

/-- The decimal text of an integer is converted back exactly if it is within the digit limit. -/
theorem read?_toString_iff (n : Int) : read? (toString n) = .ok (some n) ↔ ¬ Unwritable n := by
  have spelled := spelling_toString n
  rw [read?_some_iff]
  constructor
  · rintro ⟨digits, spelled', short⟩
    exact writable_of_spelling spelled' short
  · intro short
    exact ⟨_, spelled, (Nat.length_toDigits_le_iff (by decide) (by decide)).mpr (Nat.not_le.mp short)⟩

theorem read?_of_write {n : Int} {s : String} (written : write n = .ok s) : read? s = .ok (some n) := by
  obtain ⟨short, rfl⟩ := (write_ok_iff n s).mp written
  exact (read?_toString_iff n).mpr short

/-! ## Other spellings of a number -/

/-- A plus before a text without a sign is skipped, whatever the text is. -/
theorem read?_plus {s : String} (noMinus : s.toList.head? ≠ some '-') (noPlus : s.toList.head? ≠ some '+') :
    read? ("+" ++ s) = read? s := by
  have letters : ("+" ++ s).toList = '+' :: s.toList := by simp
  have same : unsigned s.toList = (false, s.toList) := by
    unfold unsigned
    split
    · rename_i shape
      exact absurd (by rw [shape]; rfl) noMinus
    · rename_i shape
      exact absurd (by rw [shape]; rfl) noPlus
    · rfl
  have skipped : unsigned ("+" ++ s).toList = unsigned s.toList := by rw [letters, same, unsigned]
  unfold read? isInteger value
  rw [skipped]

variable {zeros digits : List Char}

theorem digits_zeros (nought : ∀ c ∈ zeros, c = '0') (row : Digits digits) : Digits (zeros ++ digits) := by
  refine ⟨fun empty => row.1 (List.append_eq_nil_iff.mp empty).2, fun c member => ?_⟩
  rcases List.mem_append.mp member with leading | inRow
  · rw [nought c leading]
    unfold IsDigit
    decide
  · exact row.2 c inRow

theorem placeValue_zeros (nought : ∀ c ∈ zeros, c = '0') (digits : List Char) :
    placeValue (zeros ++ digits) = placeValue digits := by
  induction zeros with
  | nil => rfl
  | cons c rest ih =>
    obtain ⟨rfl, later⟩ := List.forall_mem_cons.mp nought
    rw [← ih later, List.cons_append, ← ofDigitChars_eq_placeValue, Nat.ofDigitChars_cons,
      ← ofDigitChars_eq_placeValue]
    rfl

/-- Zeros that are put before the digits, after the sign, leave the number as it is. -/
theorem spelling_zeros {sign : String} (signed : sign ∈ ["", "+", "-"]) (nought : ∀ c ∈ zeros, c = '0')
    (row : Digits digits) :
    ∃ n, Spelling (sign.toList ++ zeros ++ digits) (zeros ++ digits) n ∧ Spelling (sign.toList ++ digits) digits n := by
  have padded := digits_zeros nought row
  have same := placeValue_zeros nought digits
  simp only [List.mem_cons, List.not_mem_nil, or_false] at signed
  rcases signed with rfl | rfl | rfl
  · exact ⟨_, same ▸ .plain padded, .plain row⟩
  · exact ⟨_, same ▸ .plus padded, .plus row⟩
  · exact ⟨_, same ▸ .minus padded, .minus row⟩

theorem read?_zeros {sign zeros digits : String} (signed : sign ∈ ["", "+", "-"])
    (nought : ∀ c ∈ zeros.toList, c = '0') (row : Digits digits.toList)
    (short : (zeros ++ digits).length ≤ digitLimit) :
    ∃ n, read? (sign ++ zeros ++ digits) = .ok (some n) ∧ read? (sign ++ digits) = .ok (some n) := by
  obtain ⟨n, padded, plain⟩ := spelling_zeros signed nought row
  simp only [read?_some_iff, String.toList_append]
  rw [String.length_append] at short
  refine ⟨n, ⟨_, padded, ?_⟩, _, plain, ?_⟩
  · rw [List.length_append, String.length_toList, String.length_toList]
    exact short
  · rw [String.length_toList]
    omega

/-- Conversion gives nothing exactly for the texts that are not a sign or none and then digits, fails exactly
for those of them that have more digits than the limit, and gives the signed value of all others. So the
decimal text of an integer within the limit is converted to the integer, a plus before a text without a
sign changes nothing, and zeros before the digits do not change the value as long as they are within the
limit. -/
theorem read?_is_strict :
    (∀ s, (read? s = .ok none ↔ ∀ digits n, ¬ Spelling s.toList digits n) ∧
      (read? s = .ok none ↔ ¬ Pattern.integer.fits s.toList = true) ∧
      (∀ refused, read? s = .error refused ↔ ∃ count, TooLong s count ∧ refused = .text count) ∧
      ∀ n, read? s = .ok (some n) ↔ ∃ digits, Spelling s.toList digits n ∧ digits.length ≤ digitLimit) ∧
    (∀ n, read? (toString n) = .ok (some n) ↔ ¬ Unwritable n) ∧
    (∀ n s, write n = .ok s → read? s = .ok (some n)) ∧
    (∀ s, s.toList.head? ≠ some '-' → s.toList.head? ≠ some '+' → read? ("+" ++ s) = read? s) ∧
    ∀ sign zeros digits, sign ∈ ["", "+", "-"] → (∀ c ∈ zeros.toList, c = '0') → Digits digits.toList →
      (zeros ++ digits).length ≤ digitLimit →
      ∃ n, read? (sign ++ zeros ++ digits) = .ok (some n) ∧ read? (sign ++ digits) = .ok (some n) := by
  refine ⟨fun s => ⟨read?_none_iff s, ?_, read?_error_iff s, read?_some_iff s⟩, read?_toString_iff,
    fun _ _ => read?_of_write, fun _ => read?_plus, fun _ _ _ => read?_zeros⟩
  simp only [read?_none_iff, fits_integer_iff, not_exists]

/-- A text of noughts. -/
def noughts (count : Nat) : String := String.ofList (List.replicate count '0')

theorem length_noughts (count : Nat) : (noughts count).length = count := by
  simp [noughts]

theorem read?_is_strict_noughts :
    read? "4_2" = .ok none ∧ read? "+4_2" = .ok none ∧ read? (ones 4301) = .error (.text 4301) ∧
      write (-42) = .ok "-42" ∧ read? "-42" = .ok (some (-42)) ∧
      read? ("-" ++ noughts 4299 ++ "7") = .ok (some (-7)) := by
  obtain ⟨strict, _, inverse, plus, zeros⟩ := read?_is_strict
  have unread : read? "4_2" = .ok none := by decide +kernel
  have written : write (-42) = .ok "-42" := by decide +kernel
  have seven : read? "-7" = .ok (some (-7)) := by decide +kernel
  have nought : ∀ c ∈ (noughts 4299).toList, c = '0' := by
    intro c member
    rw [noughts, String.toList_ofList] at member
    exact List.eq_of_mem_replicate member
  have row : Digits "7".toList := ⟨by decide, by simp [IsDigit]⟩
  have short : (noughts 4299 ++ "7").length ≤ digitLimit := by
    rw [String.length_append, length_noughts]
    decide
  obtain ⟨n, padded, plain⟩ := zeros "-" (noughts 4299) "7" (by decide) nought row short
  cases seven.symm.trans plain
  exact ⟨unread, (plus "4_2" (by decide) (by decide)).trans unread,
    ((strict _).2.2.1 _).mpr ⟨4301, (tooLong_ones_iff (by decide) 4301).mpr ⟨rfl, by decide⟩, rfl⟩,
    written, inverse _ _ written, padded⟩

end FormRules.Numeral
