import Assay.Check.Format
import Assay.Proofs.Check.Family
import Assay.Proofs.Pattern.Words
import Mathlib.Data.List.Permutation

/-!
# Mail — the texts that pass as mail addresses

An address is a mailbox, an at sign, and labels between points.  The expression says so with counts
and nested repetitions, and hyphens kept from the ends of a label.  Its parts are read as languages
here, one after the other, and the languages as what is said of addresses in words.

* `Check.IsMailAddress` is the grammar;
* `Check.compile?_mailExpression` states what the expression compiles to;
* `Check.isMatch_mailRegex` states that it matches addresses and nothing else;
* `Check.email_accepts_iff` states what the filter accepts.
-/

open scoped Computability

namespace Assay.Check

open Regex

/-! ## Addresses -/

/-- Letters and digits of ASCII, and some marks. -/
def IsMailboxChar (c : Char) : Prop :=
  c.isAlphanum = true ∨ c ∈ ".!#$%&'*+/=?^_\x60\x7b|\x7d~-".toList

/-- One to 63 letters and digits of ASCII and hyphens, with no hyphen at either end. -/
structure IsLabel (label : List Char) : Prop where
  nonempty : label ≠ []
  short : label.length ≤ 63
  plain : ∀ c ∈ label, c.isAlphanum = true ∨ c = '-'
  begins : label.head? ≠ some '-'
  ends : label.getLast? ≠ some '-'

/-- A mailbox that is not empty, an at sign, and one or more labels between points. -/
def IsMailAddress (text : List Char) : Prop :=
  ∃ mailbox labels, text = mailbox ++ '@' :: ['.'].intercalate labels ∧
    mailbox ≠ [] ∧ (∀ c ∈ mailbox, IsMailboxChar c) ∧ labels ≠ [] ∧ ∀ label ∈ labels, IsLabel label

/-! ## The expression -/

set_option maxRecDepth 20000 in
/-- The expression is read and compiled to the pattern of `mailRegex`. -/
theorem compile?_mailExpression : Regex.compile? mailExpression = some mailRegex := by
  have hread : (Node.parse? mailExpression).bind (·.pattern? .standard) =
      some (mailRegex.pattern, .standard) := by
    rfl
  -- The runs of a set are sorted by a well-founded recursion, at which `decide` gets stuck.
  have hfits : (footprint mailRegex.pattern).fits = true := by cbv
  exact compile?_of_pattern? hread hfits

/-- The letters and digits of ASCII, by code. -/
theorem isAlphanum_iff {c : Char} :
    c.isAlphanum = true ↔ (0x61 ≤ c.toNat ∧ c.toNat ≤ 0x7A) ∨
      (0x41 ≤ c.toNat ∧ c.toNat ≤ 0x5A) ∨ (0x30 ≤ c.toNat ∧ c.toNat ≤ 0x39) := by
  change ((decide ('A'.val ≤ c.val ∧ c.val ≤ 'Z'.val) ||
    (decide ('a'.val ≤ c.val) && decide (c.val ≤ 'z'.val))) ||
    (decide ('0'.val ≤ c.val) && decide (c.val ≤ '9'.val))) = true ↔ _
  simp only [Bool.or_eq_true, Bool.and_eq_true, decide_eq_true_eq, UInt32.le_iff_toNat_le]
  change ((65 ≤ c.toNat ∧ c.toNat ≤ 90) ∨ (97 ≤ c.toNat ∧ c.toNat ≤ 122)) ∨
    (48 ≤ c.toNat ∧ c.toNat ≤ 57) ↔ _
  omega

theorem contains_alphanumericsAnd {others : List Char} {c : Char} :
    (alphanumericsAnd others).contains c.toNat = true ↔ c.isAlphanum = true ∨ c ∈ others := by
  have hothers : (∃ d ∈ others, d.toNat ≤ c.toNat ∧ c.toNat ≤ d.toNat) ↔ c ∈ others := by
    constructor
    · rintro ⟨d, hd, hle, hge⟩
      rwa [← Char.toNat_inj.1 (Nat.le_antisymm hle hge)]
    · intro hc
      exact ⟨c, hc, le_rfl, le_rfl⟩
  rw [alphanumericsAnd, contains_bracket, isAlphanum_iff, ← hothers]
  simp [or_assoc]

/-! ## Labels -/

theorem ne_hyphen_of_isAlphanum {c : Char} (hc : c.isAlphanum = true) : c ≠ '-' := by
  rintro rfl
  cases hc

theorem isLabel_singleton {c : Char} (hc : c.isAlphanum = true) : IsLabel [c] := by
  have hne := ne_hyphen_of_isAlphanum hc
  refine ⟨List.cons_ne_nil _ _, by simp, ?_, by simpa using hne, by simpa using hne⟩
  intro m hm
  rw [List.mem_singleton.1 hm]
  exact .inl hc

/-- A label of more than one character begins and ends alphanumerically. -/
theorem isLabel_between {c d : Char} {middle : List Char} (hc : c.isAlphanum = true)
    (hd : d.isAlphanum = true) (hshort : middle.length ≤ 61)
    (hmiddle : ∀ m ∈ middle, m.isAlphanum = true ∨ m = '-') :
    IsLabel (c :: (middle ++ [d])) := by
  refine ⟨List.cons_ne_nil _ _, ?_, ?_, ?_, ?_⟩
  · simp only [List.length_cons, List.length_append, List.length_nil]
    omega
  · simp only [List.forall_mem_cons, List.forall_mem_append]
    exact ⟨.inl hc, hmiddle, .inl hd, by simp⟩
  · simpa using ne_hyphen_of_isAlphanum hc
  · rw [← List.cons_append, List.getLast?_concat]
    simpa using ne_hyphen_of_isAlphanum hd

/-- Letters and digits stand at the ends of a label, and no more than 61 characters in between. -/
theorem isLabel_iff {word : List Char} :
    IsLabel word ↔ ∃ c : Char, c.isAlphanum = true ∧ (word = [c] ∨
      ∃ (middle : List Char) (d : Char), word = c :: (middle ++ [d]) ∧ d.isAlphanum = true ∧
        middle.length ≤ 61 ∧ ∀ m ∈ middle, m.isAlphanum = true ∨ m = '-') := by
  constructor
  · rintro ⟨hnonempty, hshort, hplain, hbegins, hends⟩
    obtain ⟨c, rest, rfl⟩ := List.exists_cons_of_ne_nil hnonempty
    have hc : c.isAlphanum = true :=
      (hplain c List.mem_cons_self).resolve_right fun h => hbegins (congrArg some h)
    refine ⟨c, hc, ?_⟩
    rcases List.eq_nil_or_concat rest with rfl | ⟨middle, d, rfl⟩
    · exact .inl rfl
    · rw [List.concat_eq_append] at hshort hplain hends ⊢
      have hd : d.isAlphanum = true := by
        refine (hplain d (by simp)).resolve_right fun h => hends ?_
        rw [← List.cons_append, List.getLast?_concat, h]
      refine .inr ⟨middle, d, rfl, hd, ?_, fun m hm => hplain m (by simp [hm])⟩
      simp only [List.length_cons, List.length_append, List.length_nil] at hshort
      omega
  · rintro ⟨c, hc, rfl | ⟨middle, d, rfl, hd, hshort, hmiddle⟩⟩
    · exact isLabel_singleton hc
    · exact isLabel_between hc hd hshort hmiddle

theorem mem_words_alphanumeric {word : List Char} :
    word ∈ words (.symbol (alphanumericsAnd [])) ↔
      ∃ c : Char, word = [c] ∧ c.isAlphanum = true := by
  change (∃ c, word = [c] ∧ (alphanumericsAnd []).contains c.toNat = true) ↔ _
  simp [contains_alphanumericsAnd]

/-- The expression for a label has exactly the labels as its words. -/
theorem mem_words_label {word : List Char} : word ∈ words (.inRow labelItems) ↔ IsLabel word := by
  have hrow : words (.inRow labelItems) = words (.symbol (alphanumericsAnd [])) *
      (1 + words (.rep (.symbol (alphanumericsAnd ['-'])) 0 (some 61)) *
        words (.symbol (alphanumericsAnd []))) := by
    rw [labelItems, words_inRow_cons, words_inRow_cons, words_optional, words_inRow_cons,
      words_inRow_cons]
    simp only [words_inRow_nil, mul_one]
  rw [hrow, isLabel_iff, Language.mem_mul]
  simp only [Language.mem_add, Language.mem_one, Language.mem_mul, mem_words_alphanumeric,
    mem_words_rep_symbol, contains_alphanumericsAnd, List.mem_singleton]
  constructor
  · rintro ⟨_, ⟨c, rfl, hc⟩, _, rfl | ⟨middle, ⟨-, hshort, hmiddle⟩, _, ⟨d, rfl, hd⟩, rfl⟩, rfl⟩
    · exact ⟨c, hc, .inl rfl⟩
    · exact ⟨c, hc, .inr ⟨middle, d, rfl, hd, by simpa using hshort, hmiddle⟩⟩
  · rintro ⟨c, hc, rfl | ⟨middle, d, rfl, hd, hshort, hmiddle⟩⟩
    · exact ⟨[c], ⟨c, rfl, hc⟩, [], .inl rfl, rfl⟩
    · refine ⟨[c], ⟨c, rfl, hc⟩, _, .inr ⟨middle, ⟨Nat.zero_le _, ?_, hmiddle⟩, [d], ⟨d, rfl, hd⟩,
        rfl⟩, rfl⟩
      simpa using hshort

theorem intercalate_cons (point : Char) (first : List Char) (others : List (List Char)) :
    [point].intercalate (first :: others) = first ++ (others.map (point :: ·)).flatten := by
  induction others generalizing first with
  | nil => simp
  | cons second others ih => simp [List.intercalate_cons_cons, ih]

/-- A word, and any number of times a point and a word, are one or more words between points. -/
theorem mem_mul_kstar_iff {point : Char} {language : Language Char} {word : List Char} :
    word ∈ language * ({[point]} * language)∗ ↔
      ∃ labels, labels ≠ [] ∧ word = [point].intercalate labels ∧
        ∀ label ∈ labels, label ∈ language := by
  rw [Language.mem_mul]
  constructor
  · rintro ⟨first, hfirst, _, hstar, rfl⟩
    obtain ⟨parts, rfl, hparts⟩ := Language.mem_kstar.1 hstar
    -- Every part begins with a point, which the labels leave out.
    have hpoint : ∀ part ∈ parts, point :: part.tail = part ∧ part.tail ∈ language := by
      intro part hpart
      obtain ⟨_, rfl, label, hlabel, rfl⟩ := Language.mem_mul.1 (hparts part hpart)
      exact ⟨rfl, hlabel⟩
    refine ⟨first :: parts.map List.tail, List.cons_ne_nil _ _, ?_, ?_⟩
    · rw [intercalate_cons, List.map_map]
      congr 2
      exact ((List.map_congr_left fun part hpart => (hpoint part hpart).1).trans
        (List.map_id parts)).symm
    · rw [List.forall_mem_cons]
      exact ⟨hfirst, by simpa using fun part hpart => (hpoint part hpart).2⟩
  · rintro ⟨labels, hne, rfl, hlabels⟩
    obtain ⟨first, others, rfl⟩ := List.exists_cons_of_ne_nil hne
    obtain ⟨hfirst, hothers⟩ := List.forall_mem_cons.1 hlabels
    refine ⟨first, hfirst, _, Language.join_mem_kstar ?_, (intercalate_cons point first others).symm⟩
    intro part hpart
    obtain ⟨label, hlabel, rfl⟩ := List.mem_map.1 hpart
    exact ⟨[point], rfl, label, hothers label hlabel, rfl⟩

/-! ## Whole texts -/

/-- The expression for an address has exactly the addresses as its words. -/
theorem mem_words_mailItems {text : List Char} :
    text ∈ words (.inRow mailItems) ↔ IsMailAddress text := by
  have hpoint : words (.symbol (.single '.')) = {['.']} := by
    ext word
    exact mem_words_single
  have hat : words (.symbol (.single '@')) = {['@']} := by
    ext word
    exact mem_words_single
  have hitems : words (.inRow mailItems) =
      words (.rep (.symbol (alphanumericsAnd mailboxMarks)) 1 none) * ({['@']} *
        (words (.inRow labelItems) * ({['.']} * words (.inRow labelItems))∗)) := by
    rw [mailItems, words_inRow_append, words_inRow_append]
    simp only [words_inRow_cons, words_inRow_nil, words_star, hpoint, hat, mul_one, mul_assoc]
  have hmailbox : ∀ mailbox,
      mailbox ∈ words (.rep (.symbol (alphanumericsAnd mailboxMarks)) 1 none) ↔
        mailbox ≠ [] ∧ ∀ c ∈ mailbox, IsMailboxChar c := by
    intro mailbox
    rw [mem_words_rep_symbol, Nat.one_le_iff_ne_zero, Ne, List.length_eq_zero_iff]
    simp only [contains_alphanumericsAnd, Option.not_mem_none, false_implies, implies_true,
      true_and]
    exact Iff.rfl
  rw [hitems]
  constructor
  · intro htext
    obtain ⟨mailbox, hfirst, _, hrest, rfl⟩ := Language.mem_mul.1 htext
    obtain ⟨_, rfl, domain, hdomain, rfl⟩ := Language.mem_mul.1 hrest
    obtain ⟨labels, hsome, rfl, hlabels⟩ := mem_mul_kstar_iff.1 hdomain
    obtain ⟨hnonempty, hchars⟩ := (hmailbox mailbox).1 hfirst
    exact ⟨mailbox, labels, rfl, hnonempty, hchars, hsome,
      fun label hlabel => mem_words_label.1 (hlabels label hlabel)⟩
  · rintro ⟨mailbox, labels, rfl, hnonempty, hchars, hsome, hlabels⟩
    have hdomain : ['.'].intercalate labels ∈
        words (.inRow labelItems) * ({['.']} * words (.inRow labelItems))∗ :=
      mem_mul_kstar_iff.2 ⟨labels, hsome, rfl,
        fun label hlabel => mem_words_label.2 (hlabels label hlabel)⟩
    exact Language.append_mem_mul ((hmailbox mailbox).2 ⟨hnonempty, hchars⟩)
      (Language.append_mem_mul (a := ['@']) rfl hdomain)

/-- A search for the expression finds addresses only. -/
theorem isMatch_mailRegex (text : String) :
    mailRegex.isMatch text = true ↔ IsMailAddress text.toList := by
  rw [mailRegex, isMatch_whole _ rfl, mem_words_mailItems]

/-- A format check accepts the empty text and what its test accepts. -/
theorem formatted_isOk_iff (fault : Fault) (valid : String → Bool) (value : Value) :
    (formatted fault valid value).isOk = true ↔
      ∃ text, value = .str text ∧ (text = "" ∨ valid text = true) := by
  cases value with
  | str text =>
      simp only [formatted, Value.str.injEq, exists_eq_left']
      split
      case isTrue haccepted => simpa [Outcome.isOk, Outcome.ok] using haccepted
      case isFalse hrefused => simpa [Outcome.isOk, Outcome.fail] using hrefused
  | _ => simp [formatted, Outcome.isOk, Outcome.fail]

/-- The filter accepts the empty text and the addresses of at most 254 bytes, and no other value;
it always leaves the value as it is. -/
theorem email_accepts_iff (value : Value) :
    (email value).value = value ∧
      ((email value).isOk = true ↔ ∃ text, value = .str text ∧
        (text = "" ∨ text.utf8ByteSize ≤ 254 ∧ IsMailAddress text.toList)) := by
  refine ⟨formatted_value _ _ value, ?_⟩
  rw [email, formatted_isOk_iff]
  simp only [Bool.and_eq_true, decide_eq_true_eq, isMatch_mailRegex]

end Assay.Check
