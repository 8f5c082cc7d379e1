import Assay.Number
import Assay.Proofs.Number.Form
import Assay.Proofs.Pattern.Words
import Assay.Proofs.Text.Stripping
import Mathlib.Data.List.Permutation

/-!
# Expressions — the numerals that the expressions of numbers match

The two expressions take digits and blanks of any script.  Their parts are read as languages, one
after the other, and the languages as the parts of a written numeral.

* `Number.compile?_numericExpression` and `Number.compile?_integerExpression` state what the
  expressions compile to;
* `Number.isMatch_numericRegex` states that one of them matches a numeral between blanks;
* `Number.isMatch_integerRegex` states that the other matches digits after a sign or without one.
-/

open scoped Computability

namespace Assay

open Numeral

/-! ## Digits of any script -/

def blankCodes : List Nat :=
  [9, 10, 11, 12, 13, 0x20, 0x85, 0xA0, 0x1680, 0x2000, 0x2001, 0x2002, 0x2003, 0x2004, 0x2005,
    0x2006, 0x2007, 0x2008, 0x2009, 0x200A, 0x2028, 0x2029, 0x202F, 0x205F, 0x3000]

/-- Every blank character is among the listed codes. -/
theorem toNat_mem_blankCodes {c : Char} (h : Text.isBlank c = true) : c.toNat ∈ blankCodes := by
  unfold Text.isBlank at h
  simp only [Bool.or_eq_true, Bool.and_eq_true, decide_eq_true_eq, beq_iff_eq] at h
  simp only [blankCodes, List.mem_cons, List.not_mem_nil]
  omega

/-- No digit is blank, whatever its script. -/
theorem isBlank_of_isDecimalDigit {c : Char} (h : Text.isDecimalDigit c = true) :
    Text.isBlank c = false := by
  have hapart : ∀ code ∈ blankCodes, Text.Category.digitTable.contains code = false := by
    decide +kernel
  refine Bool.eq_false_iff.2 fun hblank => ?_
  have hdigit := hapart _ (toNat_mem_blankCodes hblank)
  rw [Text.isDecimalDigit, hdigit] at h
  cases h

theorem isDecimalDigit_of_isAsciiDigit {c : Char} (h : isAsciiDigit c = true) :
    Text.isDecimalDigit c = true := by
  have hcode : 48 ≤ c.toNat ∧ c.toNat ≤ 57 := Char.isDigit_iff_toNat.1 h
  -- The ASCII digits are the first row of the table.
  refine List.any_eq_true.2 ⟨⟨0x30, 0x39, 1, []⟩, List.mem_cons_self, ?_⟩
  simp [Text.CodeRow.contains, Nat.mod_one, hcode]

theorem marksApart_decimal : MarksApart Text.isDecimalDigit := forall_marks.2 (by decide +kernel)

/-- ASCII digits are digits of a script, so that a numeral of them is one with digits of any. -/
theorem Numeral.Form.decimal {chars : List Char} {n : Numeral} (form : Form isAsciiDigit chars n) :
    Form Text.isDecimalDigit chars n :=
  form.mono fun _ => isDecimalDigit_of_isAsciiDigit

/-- A form with digits of any script is one with ASCII digits if its numeral has no others. -/
theorem form_ascii_iff {chars : List Char} {n : Numeral} (form : Form Text.isDecimalDigit chars n) :
    Form isAsciiDigit chars n ↔ n.isAscii = true := by
  rw [isAscii_eq]
  exact ⟨Form.all, form.of_all⟩

/-- A mark is no blank. -/
theorem isBlank_of_mem_marks {c : Char} (h : c ∈ marks) : Text.isBlank c = false := by
  have hmarks : ∀ mark ∈ marks, Text.isBlank mark = false := forall_marks.2 (by decide)
  exact hmarks c h

/-- Nothing in a numeral is a blank. -/
theorem isBlank_of_form {chars : List Char} {n : Numeral} (form : Form Text.isDecimalDigit chars n) :
    ∀ c ∈ chars, Text.isBlank c = false := by
  intro c hc
  rcases form.mem hc with hdigit | hmark
  · exact isBlank_of_isDecimalDigit hdigit
  · exact isBlank_of_mem_marks hmark

namespace Number

open Regex (words mem_words_anyOf mem_words_single mem_words_rep_symbol words_inRow_cons
  words_inRow_nil words_optional)

/-! ## What the expressions compile to -/

set_option maxRecDepth 20000 in
/-- The expression for numbers compiles. -/
theorem compile?_numericExpression : Regex.compile? numericExpression = some numericRegex := by
  have hread : (Regex.Node.parse? numericExpression).bind (·.pattern? .standard) =
      some (numericRegex.pattern, .standard) := by
    rfl
  have hfits : (Regex.footprint numericRegex.pattern).fits = true := by cbv
  exact Regex.compile?_of_pattern? hread hfits

set_option maxRecDepth 20000 in
/-- The expression for integers compiles. -/
theorem compile?_integerExpression : Regex.compile? integerExpression = some integerRegex := by
  have hread : (Regex.Node.parse? integerExpression).bind (·.pattern? .standard) =
      some (integerRegex.pattern, .standard) := by
    rfl
  have hfits : (Regex.footprint integerRegex.pattern).fits = true := by cbv
  exact Regex.compile?_of_pattern? hread hfits

/-! ## The parts of a numeral -/

variable {word : List Char}

/-- The class of digits holds the digits of every script. -/
theorem contains_digit (c : Char) : CharSet.digit.contains c.toNat = Text.isDecimalDigit c := by
  rw [CharSet.contains, Char.ofNat_toNat]

theorem contains_blank (c : Char) : CharSet.blank.contains c.toNat = Text.isBlank c := by
  rw [CharSet.contains, Char.ofNat_toNat]

/-- Digits are read as digits of any script. -/
theorem mem_words_digits : word ∈ words digitsPattern ↔ DigitsForm Text.isDecimalDigit word := by
  rw [digitsPattern, mem_words_rep_symbol, Nat.one_le_iff_ne_zero, Ne, List.length_eq_zero_iff]
  simp only [contains_digit, Option.not_mem_none, false_implies, implies_true, true_and]
  exact ⟨fun h => ⟨h.1, List.all_eq_true.2 h.2⟩, fun h => ⟨h.nonempty, List.all_eq_true.1 h.all⟩⟩

theorem mem_words_star {set : CharSet} {test : Char → Bool}
    (h : ∀ c : Char, set.contains c.toNat = test c) :
    word ∈ words (.star (.symbol set)) ↔ word.all test = true := by
  rw [Regular.star, mem_words_rep_symbol, List.all_eq_true]
  simp [h]

theorem mem_words_sign : word ∈ words signPattern ↔ ∃ negative, SignForm word negative := by
  rw [signPattern, words_optional, Language.mem_add, Language.mem_one, mem_words_anyOf]
  constructor
  · rintro (rfl | ⟨c, hc, rfl⟩)
    · exact ⟨_, .none⟩
    · simp only [List.mem_cons, List.not_mem_nil, or_false] at hc
      rcases hc with rfl | rfl
      · exact ⟨_, .plus⟩
      · exact ⟨_, .minus⟩
  · rintro ⟨negative, ofSign⟩
    cases ofSign with
    | none => exact .inl rfl
    | plus => exact .inr ⟨'+', by decide, rfl⟩
    | minus => exact .inr ⟨'-', by decide, rfl⟩

/-- The mantissa of the expression is that of the grammar. -/
theorem mem_words_mantissa :
    word ∈ words mantissaPattern ↔
      ∃ whole fraction, MantissaForm Text.isDecimalDigit word whole fraction := by
  have hsplit : words mantissaPattern =
      words digitsPattern * (1 + words (.symbol (.single '.')) * words (.star (.symbol .digit))) +
        words (.symbol (.single '.')) * words digitsPattern := by
    change words (.inRow _) + words (.inRow _) = _
    simp only [words_inRow_cons, words_inRow_nil, words_optional, mul_one]
  rw [hsplit]
  simp only [Language.mem_add, Language.mem_mul, Language.mem_one, mem_words_digits,
    mem_words_single, mem_words_star contains_digit]
  constructor
  · rintro (⟨whole, hwhole, _, rfl | ⟨_, rfl, after, hafter, rfl⟩, rfl⟩ | ⟨_, rfl, after, hafter, rfl⟩)
    · rw [List.append_nil]
      exact ⟨_, _, .whole hwhole⟩
    · exact ⟨_, _, .point hwhole hafter⟩
    · exact ⟨_, _, .bare hafter⟩
  · rintro ⟨whole, fraction, ofMantissa⟩
    cases ofMantissa with
    | whole digits => exact .inl ⟨_, digits, [], .inl rfl, List.append_nil _⟩
    | point digits all => exact .inl ⟨_, digits, _, .inr ⟨_, rfl, _, all, rfl⟩, rfl⟩
    | bare digits => exact .inr ⟨_, rfl, _, digits, rfl⟩

theorem mem_words_exponent :
    word ∈ words exponentPattern ↔ ∃ exponent, ExponentForm Text.isDecimalDigit word exponent := by
  have hsplit : words exponentPattern =
      1 + words (.symbol (.anyOf ['e', 'E'])) * (words signPattern * words digitsPattern) := by
    rw [exponentPattern, words_optional]
    simp only [words_inRow_cons, words_inRow_nil, mul_one]
  rw [hsplit]
  simp only [Language.mem_add, Language.mem_mul, Language.mem_one, mem_words_digits,
    mem_words_sign, mem_words_anyOf, List.mem_cons, List.not_mem_nil, or_false]
  constructor
  · rintro (rfl | ⟨_, ⟨mark, isMark, rfl⟩, _, ⟨sign, ⟨negative, ofSign⟩, digits, ofDigits, rfl⟩, rfl⟩)
    · exact ⟨_, .none⟩
    · have hmarked : ExponentForm Text.isDecimalDigit (mark :: (sign ++ digits))
          (some (negative, digits)) := .marked isMark ofSign ofDigits
      exact ⟨_, hmarked⟩
  · rintro ⟨exponent, ofExponent⟩
    cases ofExponent with
    | none => exact .inl rfl
    | marked isMark ofSign ofDigits =>
        exact .inr ⟨_, ⟨_, isMark, rfl⟩, _, ⟨_, ⟨_, ofSign⟩, _, ofDigits, rfl⟩, rfl⟩

/-! ## Whole texts -/

/-- The words of the expression are the numbers of the grammar, with blanks around them. -/
theorem mem_words_numericItems :
    word ∈ words (.inRow numericItems) ↔ ∃ before core after n,
      word = before ++ (core ++ after) ∧ before.all Text.isBlank = true ∧
        after.all Text.isBlank = true ∧ Form Text.isDecimalDigit core n := by
  have hsplit : words (.inRow numericItems) = words blanksPattern *
      (words signPattern * (words mantissaPattern * (words exponentPattern *
        words blanksPattern))) := by
    rw [numericItems]
    simp only [words_inRow_cons, words_inRow_nil, mul_one]
  have hblanks : ∀ ends, ends ∈ words blanksPattern ↔ ends.all Text.isBlank = true :=
    fun _ => mem_words_star contains_blank
  rw [hsplit]
  simp only [Language.mem_mul, hblanks, mem_words_sign, mem_words_mantissa, mem_words_exponent]
  constructor
  · rintro ⟨before, hbefore, _, ⟨sign, ⟨negative, ofSign⟩, _, ⟨mantissa, ⟨whole, fraction, ofMantissa⟩,
      _, ⟨exponent, ⟨scale, ofExponent⟩, after, hafter, rfl⟩, rfl⟩, rfl⟩, rfl⟩
    refine ⟨before, sign ++ (mantissa ++ exponent), after, ⟨negative, whole, fraction, scale⟩, ?_,
      hbefore, hafter, .intro ofSign ofMantissa ofExponent⟩
    simp only [List.append_assoc]
  · rintro ⟨before, _, after, n, rfl, hbefore, hafter, ofSign, ofMantissa, ofExponent⟩
    refine ⟨before, hbefore, _, ⟨_, ⟨_, ofSign⟩, _, ⟨_, ⟨_, _, ofMantissa⟩,
      _, ⟨_, ⟨_, ofExponent⟩, after, hafter, rfl⟩, rfl⟩, rfl⟩, ?_⟩
    simp only [List.append_assoc]

/-- The expression matches the numerals between blanks, with digits of any script. -/
theorem isMatch_numericRegex (text : String) :
    numericRegex.isMatch text = true ↔
      ∃ n, Form Text.isDecimalDigit (Text.stripOf Text.isBlank text.toList) n := by
  rw [numericRegex, Regex.isMatch_whole _ rfl, mem_words_numericItems]
  constructor
  · rintro ⟨before, core, after, n, htext, hbefore, hafter, form⟩
    have hblank := isBlank_of_form form
    -- A numeral has no blanks, so that it is what is left between them.
    have hcore : core = Text.stripOf Text.isBlank text.toList :=
      Text.stripped_iff.1 ⟨⟨before, after, htext, hbefore, hafter⟩,
        fun c hc => hblank c (List.mem_of_mem_head? hc),
        fun c hc => hblank c (List.mem_of_getLast? hc)⟩
    exact ⟨n, hcore ▸ form⟩
  · rintro ⟨n, form⟩
    obtain ⟨before, after, htext, hbefore, hafter⟩ :=
      (Text.stripped_stripOf Text.isBlank text.toList).around
    exact ⟨before, _, after, n, htext, hbefore, hafter, form⟩

/-- The expression matches digits of any script, after a sign or without one. -/
theorem isMatch_integerRegex (text : String) :
    integerRegex.isMatch text = true ↔
      ∃ n, Form Text.isDecimalDigit text.toList n ∧ n.fraction = none ∧ n.exponent = none := by
  have hsplit : words (.inRow integerItems) = words signPattern * words digitsPattern := by
    rw [integerItems]
    simp only [words_inRow_cons, words_inRow_nil, mul_one]
  rw [integerRegex, Regex.isMatch_whole _ rfl, hsplit, Language.mem_mul]
  simp only [mem_words_sign, mem_words_digits]
  constructor
  · rintro ⟨sign, ⟨negative, ofSign⟩, digits, ofDigits, htext⟩
    rw [← htext]
    exact ⟨_, form_whole ofSign ofDigits, rfl, rfl⟩
  · rintro ⟨n, form, hfraction, hexponent⟩
    obtain ⟨sign, ofSign, ofDigits, htext⟩ := form.exists_sign hfraction hexponent
    exact ⟨sign, ⟨_, ofSign⟩, n.whole, ofDigits, htext.symm⟩

end Number

end Assay
