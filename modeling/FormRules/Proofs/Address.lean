import FormRules.Checks
import FormRules.Proofs.Matching
import FormRules.Proofs.Segments

/-!
# Addresses

What an address is, said on the text itself: a mailbox, `@`, and a host whose pieces at the points
are labels. The pattern of addresses describes these texts and no others, so nothing but visible
ASCII characters stands in them and the case of their letters does not matter.
-/

namespace FormRules.Address

open Pattern (Matches SameButCase)

/-- The ASCII letters and digits. -/
def IsLetterOrDigit (c : Char) : Prop :=
  'a' ≤ c ∧ c ≤ 'z' ∨ 'A' ≤ c ∧ c ≤ 'Z' ∨ '0' ≤ c ∧ c ≤ '9'

/-- The other characters that may stand before the `@`. -/
def mailboxMarks : List Char :=
  ['.', '!', '#', '$', '%', '&', '\'', '*', '+', '/', '=', '?', '^', '_', '\x60', '\x7b', '|', '\x7d', '~', '-']

/-- What stands before the `@`: at least one character, and none but letters, digits and marks. -/
def IsMailbox (text : String) : Prop :=
  text ≠ "" ∧ ∀ c ∈ text.toList, IsLetterOrDigit c ∨ c ∈ mailboxMarks

/-- A piece of a host: 1 to 63 letters, digits and hyphens, with no hyphen at either end. -/
structure IsLabel (text : String) : Prop where
  given : 1 ≤ text.length
  short : text.length ≤ 63
  clean : ∀ c ∈ text.toList, IsLetterOrDigit c ∨ c = '-'
  first : text.toList.head? ≠ some '-'
  last : text.toList.getLast? ≠ some '-'

/-- A text `mailbox@host` in which every piece of the host is a label. -/
def IsAddress (s : String) : Prop :=
  ∃ mailbox host labels, s = mailbox ++ "@" ++ host ∧ IsMailbox mailbox ∧
    Text.Pieces '.' host labels ∧ ∀ label ∈ labels, IsLabel label

/-! ## Character classes -/

theorem isAlphanum_iff (c : Char) : c.isAlphanum = true ↔ IsLetterOrDigit c := by
  have classes : c.isAlphanum =
      ((decide ('A'.val ≤ c.val ∧ c.val ≤ 'Z'.val) || decide ('a'.val ≤ c.val) && decide (c.val ≤ 'z'.val)) ||
        decide ('0'.val ≤ c.val) && decide (c.val ≤ '9'.val)) := rfl
  simp only [classes, IsLetterOrDigit, Char.le_def, Bool.or_eq_true, Bool.and_eq_true, decide_eq_true_eq]
  tauto

theorem isLabelChar_iff (c : Char) : Pattern.isLabelChar c = true ↔ IsLetterOrDigit c ∨ c = '-' := by
  rw [Pattern.isLabelChar, Bool.or_eq_true, isAlphanum_iff, beq_iff_eq]

theorem isLocalChar_iff (c : Char) : Pattern.isLocalChar c = true ↔ IsLetterOrDigit c ∨ c ∈ mailboxMarks := by
  rw [Pattern.isLocalChar, Bool.or_eq_true, isAlphanum_iff, List.contains_iff_mem]
  rfl

theorem isLetterOrDigit_iff (c : Char) :
    IsLetterOrDigit c ↔ 97 ≤ c.toNat ∧ c.toNat ≤ 122 ∨ 65 ≤ c.toNat ∧ c.toNat ≤ 90 ∨
      48 ≤ c.toNat ∧ c.toNat ≤ 57 := Iff.rfl

theorem IsLetterOrDigit.visible {c : Char} (plain : IsLetterOrDigit c) : '!' ≤ c ∧ c ≤ '~' := by
  change 33 ≤ c.toNat ∧ c.toNat ≤ 126
  rw [isLetterOrDigit_iff] at plain
  omega

/-- Lower case changes nothing but letters, and makes letters of them. -/
theorem toLower_cases (c : Char) : c.toLower = c ∨ IsLetterOrDigit c ∧ IsLetterOrDigit c.toLower := by
  by_cases upper : c.val ≥ 'A'.val ∧ c.val ≤ 'Z'.val
  · right
    have low : 65 ≤ c.toNat := upper.1
    have high : c.toNat ≤ 90 := upper.2
    have shifted : c.toLower.toNat = c.toNat + 32 := by
      have moved : c.toLower.val = c.val + ('a'.val - 'A'.val) := congrArg Char.val (dif_pos upper)
      have sum : c.toLower.toNat = (c.toNat + 32) % 2 ^ 32 := (congrArg UInt32.toNat moved).trans (UInt32.toNat_add _ _)
      omega
    rw [isLetterOrDigit_iff, isLetterOrDigit_iff]
    omega
  · left
    exact dif_neg upper

/-- A class with all letters and digits, or with none of them, takes no notice of case. -/
theorem class_ignores_case {accepts : Char → Bool}
    (uniform : (∀ c, IsLetterOrDigit c → accepts c = true) ∨ ∀ c, IsLetterOrDigit c → accepts c = false) :
    (Pattern.one accepts).IgnoresCase := by
  intro c d same accepted
  change c.toLower = d.toLower at same
  rcases uniform with all | none
  · rcases toLower_cases c with fixed | ⟨plain, _⟩
    · rcases toLower_cases d with fixed' | ⟨_, plain⟩
      · rwa [← fixed, same, fixed']
      · exact all c (fixed ▸ same ▸ plain)
    · exact all c plain
  · have other : ¬ IsLetterOrDigit d := fun plain => by simp [none d plain] at accepted
    rcases toLower_cases d with fixed | ⟨plain, _⟩
    · rcases toLower_cases c with fixed' | ⟨_, plain⟩
      · rwa [← fixed', same, fixed]
      · exact absurd (fixed ▸ same ▸ plain) other
    · exact absurd plain other

/-! ## The parts of the pattern -/

theorem hyphen_not_plain : ¬ IsLetterOrDigit '-' := by
  unfold IsLetterOrDigit
  decide

/-- A label is one letter or digit, or two of them around at most 61 characters. -/
private theorem matches_label_shape {cs : List Char} :
    Matches Pattern.label cs ↔ ∃ c rest, cs = c :: rest ∧ IsLetterOrDigit c ∧
      (rest = [] ∨ ∃ middle d, rest = middle ++ [d] ∧
        (middle.length ≤ 61 ∧ ∀ x ∈ middle, IsLetterOrDigit x ∨ x = '-') ∧ IsLetterOrDigit d) := by
  simp only [Pattern.label, Pattern.matches_followedBy_iff, Pattern.matches_optional_iff,
    Pattern.matches_one_iff, Pattern.matches_upTo_one_iff, isAlphanum_iff, isLabelChar_iff]
  constructor
  · rintro ⟨_, rest, rfl, ⟨c, rfl, plain⟩, alone | ⟨middle, _, rfl, inside, d, rfl, ends⟩⟩
    · exact ⟨c, rest, rfl, plain, .inl alone⟩
    · exact ⟨c, _, rfl, plain, .inr ⟨middle, d, rfl, inside, ends⟩⟩
  · rintro ⟨c, rest, rfl, plain, alone | ⟨middle, d, rfl, inside, ends⟩⟩
    · exact ⟨[c], rest, rfl, ⟨c, rfl, plain⟩, .inl alone⟩
    · exact ⟨[c], _, rfl, ⟨c, rfl, plain⟩, .inr ⟨middle, [d], rfl, inside, d, rfl, ends⟩⟩

private theorem last_of_row (c d : Char) (middle : List Char) :
    (c :: (middle ++ [d])).getLast? = some d := by
  rw [← List.cons_append, List.getLast?_concat]

theorem matches_label_iff (text : String) : Matches Pattern.label text.toList ↔ IsLabel text := by
  rw [matches_label_shape]
  constructor
  · rintro ⟨c, rest, shape, plain, alone | ⟨middle, d, rfl, ⟨short, clean⟩, ends⟩⟩
    · subst alone
      have notHyphen : c ≠ '-' := fun same => hyphen_not_plain (same ▸ plain)
      refine ⟨by simp [← String.length_toList, shape], by simp [← String.length_toList, shape], ?_, ?_, ?_⟩
      · simpa [shape] using .inl plain
      · simpa [shape] using notHyphen
      · simpa [shape] using notHyphen
    · have notFirst : c ≠ '-' := fun same => hyphen_not_plain (same ▸ plain)
      have notLast : d ≠ '-' := fun same => hyphen_not_plain (same ▸ ends)
      refine ⟨by simp [← String.length_toList, shape], ?_, ?_, ?_, ?_⟩
      · simp [← String.length_toList, shape]
        omega
      · rw [shape]
        intro x member
        rcases List.mem_cons.mp member with rfl | later
        · exact .inl plain
        · rcases List.mem_append.mp later with inside | atEnd
          · exact clean x inside
          · exact .inl (List.mem_singleton.mp atEnd ▸ ends)
      · simpa [shape] using notFirst
      · rwa [shape, last_of_row, ne_eq, Option.some.injEq]
  · rintro ⟨given, short, clean, first, last⟩
    -- a clean character that is no hyphen is a letter or digit, so this goes for both ends
    rw [← String.length_toList] at given short
    obtain ⟨c, rest, shape⟩ := List.exists_cons_of_length_pos given
    rw [shape] at short clean first last
    have plain : IsLetterOrDigit c := (clean c List.mem_cons_self).resolve_right (by simpa using first)
    refine ⟨c, rest, shape, plain, ?_⟩
    rcases List.eq_nil_or_concat rest with alone | ⟨middle, d, ending⟩
    · exact .inl alone
    · rw [List.concat_eq_append] at ending
      subst ending
      have inText : ∀ x ∈ middle ++ [d], IsLetterOrDigit x ∨ x = '-' :=
        fun x member => clean x (List.mem_cons_of_mem c member)
      refine .inr ⟨middle, d, rfl, ⟨?_, fun x member => inText x (List.mem_append_left _ member)⟩, ?_⟩
      · simp at short
        omega
      · refine (inText d (by simp)).resolve_right ?_
        rwa [last_of_row, ne_eq, Option.some.injEq] at last

theorem matches_mailbox_iff (text : String) :
    Matches (Pattern.oneOrMore (.one Pattern.isLocalChar)) text.toList ↔ IsMailbox text := by
  simp only [Pattern.matches_oneOrMore_one_iff, isLocalChar_iff, IsMailbox, ne_eq, String.toList_eq_nil_iff]

private theorem intercalate_cons (sep : Char) (first : List Char) (later : List (List Char)) :
    [sep].intercalate (first :: later) = first ++ (later.map (sep :: ·)).flatten := by
  induction later generalizing first with
  | nil => simp
  | cons second rest ih =>
    rw [List.intercalate_cons_cons, ih, List.map_cons, List.flatten_cons]
    simp

private theorem toList_of_pieces {sep : Char} {s first : String} {later : List String}
    (pieces : Text.Pieces sep s (first :: later)) :
    s.toList = first.toList ++ ((later.map String.toList).map (sep :: ·)).flatten := by
  rw [← intercalate_cons, ← pieces.joined, String.toList_intercalate, String.toList_singleton]
  rfl

/-- Repetitions of a character and a pattern are texts of the pattern after that character. -/
private theorem matches_tail_iff {sep : Char} {p : Pattern} {s : List Char} :
    Matches (.many (.followedBy (Pattern.char sep) p)) s ↔
      ∃ later : List (List Char), s = (later.map (sep :: ·)).flatten ∧ ∀ text ∈ later, Matches p text := by
  rw [Pattern.matches_many_iff]
  constructor
  · rintro ⟨parts, rfl, each⟩
    induction parts with
    | nil => exact ⟨[], rfl, fun _ member => absurd member List.not_mem_nil⟩
    | cons part parts ih =>
      obtain ⟨first, rest⟩ := List.forall_mem_cons.mp each
      obtain ⟨later, joined, all⟩ := ih rest
      obtain ⟨_, text, rfl, opening, described⟩ := Pattern.matches_followedBy_iff.mp first
      rw [Pattern.matches_char_iff.mp opening]
      refine ⟨text :: later, ?_, List.forall_mem_cons.mpr ⟨described, all⟩⟩
      rw [List.flatten_cons, joined, List.map_cons, List.flatten_cons]
      rfl
  · rintro ⟨later, rfl, all⟩
    refine ⟨_, rfl, ?_⟩
    intro part member
    obtain ⟨text, inLater, rfl⟩ := List.mem_map.mp member
    exact Pattern.matches_followedBy_iff.mpr
      ⟨[sep], text, rfl, Pattern.matches_char_iff.mpr rfl, all text inLater⟩

theorem IsLabel.no_point {label : String} (isLabel : IsLabel label) : '.' ∉ label.toList := by
  intro member
  rcases isLabel.clean '.' member with plain | impossible
  · exact absurd plain (by unfold IsLetterOrDigit; decide)
  · exact absurd impossible (by decide)

theorem matches_host_iff (host : String) :
    Matches (.followedBy Pattern.label (.many (.followedBy (Pattern.char '.') Pattern.label))) host.toList ↔
      ∃ labels, Text.Pieces '.' host labels ∧ ∀ label ∈ labels, IsLabel label := by
  rw [Pattern.matches_followedBy_iff]
  constructor
  · rintro ⟨first, rest, shape, described, repeated⟩
    obtain ⟨later, rfl, all⟩ := matches_tail_iff.mp repeated
    have each : ∀ label ∈ (first :: later).map String.ofList, IsLabel label := by
      intro label member
      obtain ⟨cs, inRow, rfl⟩ := List.mem_map.mp member
      rw [← matches_label_iff, String.toList_ofList]
      exact List.forall_mem_cons.mpr ⟨described, all⟩ cs inRow
    refine ⟨(first :: later).map String.ofList, ⟨by simp, fun label member => (each label member).no_point, ?_⟩, each⟩
    apply String.toList_injective
    rw [String.toList_intercalate, List.map_map, shape, ← intercalate_cons, String.toList_singleton]
    simp [Function.comp_def]
  · rintro ⟨labels, pieces, each⟩
    obtain ⟨first, later, rfl⟩ := List.exists_cons_of_ne_nil pieces.nonempty
    obtain ⟨firstLabel, laterLabels⟩ := List.forall_mem_cons.mp each
    refine ⟨first.toList, _, toList_of_pieces pieces, (matches_label_iff first).mpr firstLabel,
      matches_tail_iff.mpr ⟨later.map String.toList, rfl, ?_⟩⟩
    intro cs member
    obtain ⟨label, inLater, rfl⟩ := List.mem_map.mp member
    exact (matches_label_iff label).mpr (laterLabels label inLater)

theorem matches_email_iff (s : String) : Matches Pattern.email s.toList ↔ IsAddress s := by
  rw [Pattern.email, Pattern.matches_followedBy_iff]
  constructor
  · rintro ⟨front, back, shape, mailbox, rest⟩
    obtain ⟨_, host, rfl, sign, described⟩ := Pattern.matches_followedBy_iff.mp rest
    obtain ⟨labels, pieces, each⟩ := (matches_host_iff (String.ofList host)).mp (by rwa [String.toList_ofList])
    refine ⟨String.ofList front, String.ofList host, labels, ?_, ?_, pieces, each⟩
    · apply String.toList_injective
      rw [shape, Pattern.matches_char_iff.mp sign]
      simp
    · rw [← matches_mailbox_iff, String.toList_ofList]
      exact mailbox
  · rintro ⟨mailbox, host, labels, rfl, isMailbox, pieces, each⟩
    refine ⟨mailbox.toList, '@' :: host.toList, by simp, (matches_mailbox_iff mailbox).mpr isMailbox, ?_⟩
    exact Pattern.matches_followedBy_iff.mpr ⟨['@'], host.toList, rfl, Pattern.matches_char_iff.mpr rfl,
      (matches_host_iff host).mpr ⟨labels, pieces, each⟩⟩

/-! ## What follows for addresses -/

theorem IsAddress.visible {s : String} (address : IsAddress s) : ∀ c ∈ s.toList, '!' ≤ c ∧ c ≤ '~' := by
  obtain ⟨mailbox, host, labels, rfl, isMailbox, pieces, each⟩ := address
  obtain ⟨first, later, rfl⟩ := List.exists_cons_of_ne_nil pieces.nonempty
  have inLabel : ∀ label ∈ first :: later, ∀ c ∈ label.toList, '!' ≤ c ∧ c ≤ '~' := by
    intro label member c inside
    rcases (each label member).clean c inside with plain | rfl
    · exact plain.visible
    · decide
  intro c member
  simp only [String.toList_append, List.mem_append] at member
  rcases member with (inMailbox | sign) | inHost
  · rcases isMailbox.2 c inMailbox with plain | mark
    · exact plain.visible
    · have marks : mailboxMarks.all (fun d => decide ('!' ≤ d ∧ d ≤ '~')) = true := by decide
      exact of_decide_eq_true (List.all_eq_true.mp marks c mark)
  · have same : c = '@' := by simpa using sign
    rw [same]
    decide
  · rw [toList_of_pieces pieces] at inHost
    rcases List.mem_append.mp inHost with inFirst | inLater
    · exact inLabel first List.mem_cons_self c inFirst
    · obtain ⟨part, inParts, inPart⟩ := List.mem_flatten.mp inLater
      obtain ⟨cs, inRow, rfl⟩ := List.mem_map.mp inParts
      obtain ⟨label, inLabels, rfl⟩ := List.mem_map.mp inRow
      rcases List.mem_cons.mp inPart with rfl | inside
      · decide
      · exact inLabel label (List.mem_cons_of_mem first inLabels) c inside

theorem email_ignores_case : Pattern.email.IgnoresCase := by
  have alphanum : (Pattern.one Char.isAlphanum).IgnoresCase :=
    class_ignores_case (.inl fun c plain => (isAlphanum_iff c).mpr plain)
  have labelChar : (Pattern.one Pattern.isLabelChar).IgnoresCase :=
    class_ignores_case (.inl fun c plain => (isLabelChar_iff c).mpr (.inl plain))
  have localChar : (Pattern.one Pattern.isLocalChar).IgnoresCase :=
    class_ignores_case (.inl fun c plain => (isLocalChar_iff c).mpr (.inl plain))
  have sign : ∀ mark, ¬ IsLetterOrDigit mark → (Pattern.char mark).IgnoresCase := by
    intro mark noLetter
    refine class_ignores_case (.inr fun c plain => ?_)
    rw [beq_eq_false_iff_ne]
    rintro rfl
    exact noLetter plain
  have label : Pattern.label.IgnoresCase := ⟨alphanum, trivial, labelChar, alphanum⟩
  have atSign : ¬ IsLetterOrDigit '@' := by unfold IsLetterOrDigit; decide
  have point : ¬ IsLetterOrDigit '.' := by unfold IsLetterOrDigit; decide
  exact ⟨⟨localChar, localChar⟩, sign '@' atSign, label, sign '.' point, label⟩

theorem isEmail_same {s t : String} (same : List.Forall₂ SameButCase s.toList t.toList) :
    Checks.isEmail (some s) = Checks.isEmail (some t) := by
  have back : List.Forall₂ SameButCase t.toList s.toList := same.flip.imp fun _ _ => Eq.symm
  have empty : s = "" ↔ t = "" := by
    rw [← String.toList_eq_nil_iff, ← String.toList_eq_nil_iff, ← List.length_eq_zero_iff,
      ← List.length_eq_zero_iff, same.length_eq]
  have described : Matches Pattern.email s.toList ↔ Matches Pattern.email t.toList :=
    ⟨fun one => one.change_case email_ignores_case back, fun two => two.change_case email_ignores_case same⟩
  rw [Bool.eq_iff_iff]
  simp only [Checks.isEmail, Checks.fitsIfGiven, Bool.or_eq_true, beq_iff_eq, Pattern.fits_iff_matches, empty,
    described]

/-- The pattern of addresses describes the addresses, and a field value counts as an address if it is
missing, empty or one of them. So all its characters are visible ASCII characters, and a change of
the case of letters changes no verdict. -/
theorem isEmail_describes_addresses :
    (∀ s : String, Pattern.email.fits s.toList = true ↔ IsAddress s) ∧
      (∀ v, Checks.isEmail v = true ↔ v = none ∨ v = some "" ∨ ∃ s, v = some s ∧ IsAddress s) ∧
      (∀ s, IsAddress s → ∀ c ∈ s.toList, '!' ≤ c ∧ c ≤ '~') ∧
      ∀ s t : String, List.Forall₂ SameButCase s.toList t.toList →
        Checks.isEmail (some s) = Checks.isEmail (some t) := by
  have fits : ∀ s : String, Pattern.email.fits s.toList = true ↔ IsAddress s := fun s =>
    (Pattern.fits_iff_matches Pattern.email s.toList).trans (matches_email_iff s)
  refine ⟨fits, ?_, fun s address => address.visible, fun s t same => isEmail_same same⟩
  intro v
  cases v with
  | none => simp [Checks.isEmail, Checks.fitsIfGiven]
  | some s => simp [Checks.isEmail, Checks.fitsIfGiven, fits]

example : Checks.isEmail (some "Ann.O'Neil@x-1.Example.ORG") = true ∧
    Checks.isEmail (some "ann@example.org\n") = false ∧ Checks.isEmail (some "ann@-x.org") = false := by
  decide +kernel

end FormRules.Address
