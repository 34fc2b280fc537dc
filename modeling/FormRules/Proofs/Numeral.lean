import FormRules.Numeral
import Mathlib.Data.List.Induction
import Mathlib.Data.Nat.Digits.Defs

/-!
# What integer texts stand for

The grammar and the value of integer texts, stated apart from their conversion: the digits count by
their places, and the sign stands before them. Conversion gives the value of every such text of at
most `digitLimit` digits, refuses the longer ones, and gives nothing for any other text.
-/

namespace FormRules.Numeral

/-- The ASCII digits; no others are read. -/
def IsDigit (c : Char) : Prop := '0' ≤ c ∧ c ≤ '9'

/-- One or more digits. -/
def Digits (cs : List Char) : Prop := cs ≠ [] ∧ ∀ c ∈ cs, IsDigit c

/-- The number that a row of digits stands for, each counting by its place from the right. -/
def placeValue (digits : List Char) : Nat :=
  Nat.ofDigits 10 (digits.reverse.map fun c => c.toNat - '0'.toNat)

/-- An integer text with its digits and the integer that it stands for. -/
inductive Spelling : List Char → List Char → Int → Prop
  | plain {digits : List Char} (row : Digits digits) : Spelling digits digits (placeValue digits)
  | plus {digits : List Char} (row : Digits digits) :
      Spelling ('+' :: digits) digits (placeValue digits)
  | minus {digits : List Char} (row : Digits digits) :
      Spelling ('-' :: digits) digits (-placeValue digits)

/-- An integer text of more digits than are converted, and how many it has; leading zeros count,
the sign does not. -/
def TooLong (s : String) (count : Nat) : Prop :=
  ∃ digits n, Spelling s.toList digits n ∧ digits.length = count ∧ digitLimit < count

theorem isDigit_iff (c : Char) : c.isDigit = true ↔ IsDigit c := by
  simp [Char.isDigit, IsDigit, Char.le_def]

theorem ofDigitChars_eq_placeValue (digits : List Char) :
    Nat.ofDigitChars 10 digits 0 = placeValue digits := by
  induction digits using List.reverseRecOn with
  | nil => simp [placeValue]
  | append_singleton front c ih =>
    rw [Nat.ofDigitChars_append, ih, Nat.ofDigitChars_cons, Nat.ofDigitChars_nil, placeValue, placeValue,
      List.reverse_concat, List.map_cons, Nat.ofDigits_cons]
    exact Nat.add_comm _ _

private theorem unsigned_cases (cs : List Char) :
    (∃ rest, cs = '-' :: rest ∧ unsigned cs = (true, rest)) ∨
      (∃ rest, cs = '+' :: rest ∧ unsigned cs = (false, rest)) ∨ unsigned cs = (false, cs) := by
  unfold unsigned
  split
  · exact .inl ⟨_, rfl, rfl⟩
  · exact .inr (.inl ⟨_, rfl, rfl⟩)
  · exact .inr (.inr rfl)

/-- No digit is a sign, so a row of digits is read whole. -/
theorem unsigned_digits {digits : List Char} (row : Digits digits) : unsigned digits = (false, digits) := by
  rcases unsigned_cases digits with ⟨rest, shape, _⟩ | ⟨rest, shape, _⟩ | same
  · have minus : IsDigit '-' := row.2 '-' (by simp [shape])
    exact absurd minus (by unfold IsDigit; decide)
  · have plus : IsDigit '+' := row.2 '+' (by simp [shape])
    exact absurd plus (by unfold IsDigit; decide)
  · exact same

theorem isInteger_iff (cs : List Char) : isInteger cs = true ↔ Digits (unsigned cs).2 := by
  simp [isInteger, Digits, isDigit_iff]

theorem value_eq (cs : List Char) :
    value cs = if (unsigned cs).1 then -(placeValue (unsigned cs).2 : Int) else placeValue (unsigned cs).2 := by
  simp only [value, ofDigitChars_eq_placeValue]

/-- A text is read as an integer text by its grammar: its digits are what follows the sign. -/
theorem spelling_iff (cs digits : List Char) (n : Int) :
    Spelling cs digits n ↔ isInteger cs = true ∧ (unsigned cs).2 = digits ∧ value cs = n := by
  rw [isInteger_iff, value_eq]
  constructor
  · intro spelled
    cases spelled with
    | plain row => simp [unsigned_digits row, row]
    | plus row => simp [unsigned, row]
    | minus row => simp [unsigned, row]
  · rintro ⟨row, rfl, rfl⟩
    rcases unsigned_cases cs with ⟨rest, shape, split⟩ | ⟨rest, shape, split⟩ | split
    · rw [split] at row ⊢
      exact shape ▸ .minus row
    · rw [split] at row ⊢
      exact shape ▸ .plus row
    · rw [split] at row ⊢
      exact .plain row

theorem spelling_unique {cs digits others : List Char} {n m : Int} (one : Spelling cs digits n)
    (two : Spelling cs others m) : digits = others ∧ n = m := by
  obtain ⟨-, digitsOne, valueOne⟩ := (spelling_iff _ _ _).mp one
  obtain ⟨-, digitsTwo, valueTwo⟩ := (spelling_iff _ _ _).mp two
  exact ⟨digitsOne.symm.trans digitsTwo, valueOne.symm.trans valueTwo⟩

theorem Spelling.chars {cs digits : List Char} {n : Int} (spelled : Spelling cs digits n) :
    ∀ c ∈ cs, IsDigit c ∨ c = '+' ∨ c = '-' := by
  intro c member
  cases spelled with
  | plain row => exact .inl (row.2 c member)
  | plus row => exact (List.mem_cons.mp member).elim (fun sign => .inr (.inl sign)) fun later => .inl (row.2 c later)
  | minus row => exact (List.mem_cons.mp member).elim (fun sign => .inr (.inr sign)) fun later => .inl (row.2 c later)

theorem TooLong.count_unique {s : String} {count other : Nat} (one : TooLong s count)
    (two : TooLong s other) : count = other := by
  obtain ⟨digits, n, spelled, length, _⟩ := one
  obtain ⟨digits', m, spelled', length', _⟩ := two
  rw [← length, ← length', (spelling_unique spelled spelled').1]

/-- Conversion gives an integer exactly for the integer texts within the digit limit. -/
theorem read?_some_iff (s : String) (n : Int) :
    read? s = .ok (some n) ↔ ∃ digits, Spelling s.toList digits n ∧ digits.length ≤ digitLimit := by
  simp only [spelling_iff, read?]
  by_cases integer : isInteger s.toList = true
  · by_cases long : digitLimit < (unsigned s.toList).2.length
    · simp [integer, long]
    · have short : (unsigned s.toList).2.length ≤ digitLimit := by omega
      simp [integer, short, long]
  · simp [integer]

/-- Conversion gives nothing exactly for the texts that are no integer texts. -/
theorem read?_none_iff (s : String) :
    read? s = .ok none ↔ ∀ digits n, ¬ Spelling s.toList digits n := by
  simp only [spelling_iff, read?]
  by_cases integer : isInteger s.toList = true
  · by_cases long : digitLimit < (unsigned s.toList).2.length
    · simp [integer, long]
    · simp [integer, long]
  · simp [integer]

/-- Conversion refuses exactly the integer texts beyond the digit limit and counts their digits. -/
theorem read?_error_iff (s : String) (refused : Overlong) :
    read? s = .error refused ↔ ∃ count, TooLong s count ∧ refused = .text count := by
  simp only [TooLong, spelling_iff, read?]
  by_cases integer : isInteger s.toList = true
  · by_cases long : digitLimit < (unsigned s.toList).2.length
    · simp [integer, long, eq_comm]
    · simp [integer, long]
  · simp [integer]

/-- An integer of more digits than are converted. -/
def Unwritable (n : Int) : Prop := 10 ^ digitLimit ≤ n.natAbs

/-- Exactly the integers of more digits than are converted have no text. -/
theorem write_error_iff (n : Int) (refused : Overlong) :
    write n = .error refused ↔ Unwritable n ∧ refused = .number := by
  have digits : digitLimit < (Nat.toDigits 10 n.natAbs).length ↔ Unwritable n := by
    rw [← not_le, Nat.length_toDigits_le_iff (by decide) (by decide), not_lt]
    rfl
  by_cases long : Unwritable n
  · simp [write, digits, long, eq_comm]
  · simp [write, digits, long]

theorem writable_of_lt {n : Int} (small : n.natAbs < 10) : ¬ Unwritable n := by
  intro long
  have ten : 10 ^ 1 ≤ 10 ^ digitLimit := Nat.pow_le_pow_right (by decide) (by decide)
  exact absurd (ten.trans long) (by omega)

/-! ## What is written reads back -/

theorem placeValue_lt {digits : List Char} (row : Digits digits) : placeValue digits < 10 ^ digits.length := by
  have small : ∀ d ∈ digits.reverse.map (fun c => c.toNat - '0'.toNat), d < 10 := by
    intro d member
    obtain ⟨c, inRow, rfl⟩ := List.mem_map.mp member
    have digit : IsDigit c := row.2 c (List.mem_reverse.mp inRow)
    have upper : c.toNat ≤ '9'.toNat := digit.2
    have nine : '9'.toNat = '0'.toNat + 9 := rfl
    omega
  simpa [placeValue] using Nat.ofDigits_lt_base_pow_length (by decide) small

/-- An integer that is spelled within the digit limit can be written. -/
theorem writable_of_spelling {cs digits : List Char} {n : Int} (spelled : Spelling cs digits n)
    (short : digits.length ≤ digitLimit) : ¬ Unwritable n := by
  have within : n.natAbs < 10 ^ digits.length := by
    cases spelled with
    | plain row => simpa using placeValue_lt row
    | plus row => simpa using placeValue_lt row
    | minus row => simpa using placeValue_lt row
  have bounded := within.trans_le (Nat.pow_le_pow_right (by decide) short)
  exact Nat.not_le.mpr bounded

theorem digits_toDigits (n : Nat) : Digits (Nat.toDigits 10 n) :=
  ⟨Nat.toDigits_ne_nil, fun c member => (isDigit_iff c).mp (Nat.isDigit_of_mem_toDigits (by decide) (by decide) member)⟩

theorem placeValue_toDigits (n : Nat) : placeValue (Nat.toDigits 10 n) = n := by
  rw [← ofDigitChars_eq_placeValue, Nat.ofDigitChars_ten_toDigits]

/-- The decimal text of an integer spells it. -/
theorem spelling_toString (n : Int) : Spelling (toString n).toList (Nat.toDigits 10 n.natAbs) n := by
  cases n with
  | ofNat m =>
    have letters : (toString (Int.ofNat m)).toList = Nat.toDigits 10 m := by
      change (toString m).toList = _
      rw [Nat.toString_eq_ofList_toDigits, String.toList_ofList]
    have spelled := Spelling.plain (digits_toDigits m)
    rw [placeValue_toDigits] at spelled
    rw [letters]
    exact spelled
  | negSucc m =>
    have letters : (toString (Int.negSucc m)).toList = '-' :: Nat.toDigits 10 (m + 1) := by
      change ("-" ++ toString (m + 1)).toList = _
      simp
    have spelled := Spelling.minus (digits_toDigits (m + 1))
    rw [placeValue_toDigits] at spelled
    rw [letters]
    exact spelled

theorem write_ok_iff (n : Int) (s : String) : write n = .ok s ↔ ¬ Unwritable n ∧ s = toString n := by
  by_cases long : Unwritable n
  · have refused := (write_error_iff n .number).mpr ⟨long, rfl⟩
    simp [refused, long]
  · cases written : write n with
    | error refused => exact absurd ((write_error_iff n refused).mp written).1 long
    | ok t =>
      unfold write at written
      split at written
      · cases written
      · cases written
        simp [long, eq_comm]

/-- What is written for an integer spells it within the digit limit. -/
theorem spelling_of_write {n : Int} {s : String} (written : write n = .ok s) :
    ∃ digits, Spelling s.toList digits n ∧ digits.length ≤ digitLimit := by
  obtain ⟨short, rfl⟩ := (write_ok_iff n s).mp written
  have small : n.natAbs < 10 ^ digitLimit := Nat.not_le.mp short
  exact ⟨_, spelling_toString n, (Nat.length_toDigits_le_iff (by decide) (by decide)).mpr small⟩

theorem writable_iff (n : Int) : (∃ s, write n = .ok s) ↔ ¬ Unwritable n := by
  simp [write_ok_iff]

end FormRules.Numeral

/-! ## Rows of ones -/

namespace FormRules

open Numeral (Spelling TooLong digitLimit)

/-- A text of ones. -/
def ones (count : Nat) : String := String.ofList (List.replicate count '1')

theorem spelling_ones {count : Nat} (given : 0 < count) :
    Spelling (ones count).toList (List.replicate count '1') (Numeral.placeValue (List.replicate count '1')) := by
  rw [ones, String.toList_ofList]
  refine .plain ⟨?_, fun c member => ?_⟩
  · simp only [ne_eq, List.replicate_eq_nil_iff]
    omega
  · rw [List.eq_of_mem_replicate member]
    unfold Numeral.IsDigit
    decide

/-- Ones are too many exactly beyond the digit limit. -/
theorem tooLong_ones_iff {count : Nat} (given : 0 < count) (digits : Nat) :
    TooLong (ones count) digits ↔ digits = count ∧ digitLimit < count := by
  constructor
  · rintro ⟨row, n, spelled, rfl, long⟩
    have same := (Numeral.spelling_unique spelled (spelling_ones given)).1
    rw [same, List.length_replicate] at long ⊢
    exact ⟨rfl, long⟩
  · rintro ⟨rfl, long⟩
    exact ⟨_, _, spelling_ones given, List.length_replicate, long⟩

end FormRules
