import Assay.Proofs.Number.Readers

/-!
# Grammar — which texts are numbers, and of which kind

A text is a number if it is a numeral of ASCII digits between blanks.  It is an integer if it is
only a sign and digits and 64 bits hold it, and a float otherwise.  The two expressions and the two
readers that decide this take different texts: digits of other scripts pass the expressions, and
words pass the reader of floats.

* `Number.parse?_of_form` states what is read of a text that the expression of numerals matches;
* `Number.parse?_classifies` states which texts are read, and as what.
-/

namespace Assay

open Numeral

namespace Number

/-! ## Reading -/

/-- A numeral is an integer exactly if it is written as one within the bounds. -/
theorem ofNumeral_eq_int_iff {n : Numeral} {i : Int64} :
    ofNumeral n = int i ↔ n.toInt? = some i.toInt := by
  have hfits : n.toInt?.bind int64? = some i ↔ n.toInt? = some i.toInt := by
    rw [Option.bind_eq_some_iff]
    constructor
    · rintro ⟨k, hk, hi⟩
      rw [hk, Check.int64?_eq_some_iff.1 hi]
    · exact fun h => ⟨_, h, Check.int64?_eq_some_iff.2 rfl⟩
  rw [← hfits]
  unfold ofNumeral
  cases n.toInt?.bind int64? <;> simp

/-- Other numerals are rounded. -/
theorem ofNumeral_eq_float {n : Numeral} (h : ∀ i : Int64, n.toInt? ≠ some i.toInt) :
    ofNumeral n = float n.toBinary64 := by
  cases hnumber : ofNumeral n with
  | int i => exact absurd (ofNumeral_eq_int_iff.1 hnumber) (h i)
  | float x =>
      unfold ofNumeral at hnumber
      split at hnumber
      · cases hnumber
      · exact hnumber.symm

variable {text : String} {number : Number}

/-- The expression of integers stands in the way of none: what spells one is a sign and digits. -/
theorem read_integer_iff {i : Int64} :
    (if integerRegex.isMatch text then readInt64? text else none) = some i ↔
      Spells text.toList i.toInt := by
  rw [Option.ite_none_right_eq_some, readInt64?_eq_some_iff, isMatch_integerRegex]
  refine and_iff_right_of_imp fun hspells => ?_
  rcases spells_iff.1 hspells with ⟨n, form, hvalue⟩
  rcases whole_of_toInt? hvalue with ⟨hfraction, hexponent, -⟩
  exact ⟨n, form.decimal, hfraction, hexponent⟩

/-- Of a numeral with digits of any script the number is read, if all of them are ASCII digits. -/
theorem parse?_of_form {n : Numeral}
    (form : Form Text.isDecimalDigit (Text.stripOf Text.isBlank text.toList) n) :
    parse? text = if n.isAscii then some (ofNumeral n) else none := by
  have hcore : (Text.strip text).toList = Text.stripOf Text.isBlank text.toList :=
    String.toList_ofList
  rw [← hcore] at form
  unfold parse?
  rw [if_pos ((isMatch_numericRegex text).2 ⟨n, hcore ▸ form⟩)]
  dsimp only
  split
  · -- What spells an integer is a numeral of ASCII digits, and the only one.
    rename_i i hread
    rcases spells_iff.1 (read_integer_iff.1 hread) with ⟨m, hm, hvalue⟩
    have hsame : m = n := hm.decimal.unique marksApart_decimal form
    rw [hsame] at hm hvalue
    rw [if_pos ((form_ascii_iff form).1 hm), ofNumeral_eq_int_iff.2 hvalue]
  · rename_i hread
    rw [readBinary64?_of_form form]
    split
    · rename_i hascii
      -- The numeral is no integer of 64 bits, which would have been read before.
      have hfloat : ofNumeral n = float n.toBinary64 := by
        refine ofNumeral_eq_float fun i hvalue => ?_
        have hspells := spells_iff.2 ⟨n, (form_ascii_iff form).2 hascii, hvalue⟩
        rw [read_integer_iff.2 hspells] at hread
        cases hread
      rw [hfloat]
      rfl
    · rfl

/-- What is read is the number of a numeral that the text is between blanks. -/
theorem parse?_eq_some_iff :
    parse? text = some number ↔
      ∃ n, Form isAsciiDigit (Text.stripOf Text.isBlank text.toList) n ∧ ofNumeral n = number := by
  constructor
  · intro h
    have hmatch : numericRegex.isMatch text = true := by
      unfold parse? at h
      split at h
      · assumption
      · cases h
    rcases (isMatch_numericRegex text).1 hmatch with ⟨n, form⟩
    rw [parse?_of_form form, Option.ite_none_right_eq_some] at h
    exact ⟨n, (form_ascii_iff form).2 h.1, Option.some.inj h.2⟩
  · rintro ⟨n, form, rfl⟩
    rw [parse?_of_form form.decimal, if_pos ((form_ascii_iff form.decimal).1 form)]

/-- A character that is no blank and that no numeral is written with. -/
def IsStray (c : Char) : Prop :=
  Text.isBlank c = false ∧ isAsciiDigit c = false ∧ c ∉ Numeral.marks

instance (c : Char) : Decidable (IsStray c) :=
  inferInstanceAs (Decidable (_ ∧ _))

/-- A text with such a character is no number. -/
theorem parse?_eq_none_of_stray {c : Char} (hc : IsStray c) (h : c ∈ text.toList) :
    parse? text = none := by
  rcases hc with ⟨hblank, hdigit, hmark⟩
  refine Option.eq_none_iff_forall_ne_some.2 fun number hparse => ?_
  rcases parse?_eq_some_iff.1 hparse with ⟨n, form, -⟩
  rcases (Text.stripped_stripOf Text.isBlank text.toList).around with
    ⟨before, after, htext, hbefore, hafter⟩
  have hnot : ∀ ends : List Char, ends.all Text.isBlank = true → c ∉ ends := by
    intro ends hends hmem
    rw [List.all_eq_true.1 hends c hmem] at hblank
    cases hblank
  -- The blanks at the ends do not hold it, so the numeral would.
  have hcore : c ∈ Text.stripOf Text.isBlank text.toList := by
    rw [htext, List.mem_append, List.mem_append] at h
    exact (h.resolve_left (hnot before hbefore)).resolve_right (hnot after hafter)
  rcases form.mem hcore with hread | hread
  · rw [hread] at hdigit
    cases hdigit
  · exact hmark hread

/-- A text is parsed as an integer exactly if it spells one between blanks. -/
theorem parse?_eq_int_iff {i : Int64} :
    parse? text = some (int i) ↔ Spells (Text.stripOf Text.isBlank text.toList) i.toInt := by
  rw [parse?_eq_some_iff, spells_iff]
  simp only [ofNumeral_eq_int_iff]

/-- A text is read if and only if it is a numeral of ASCII digits between blanks.  It is the integer
that it spells, if 64 bits hold one, and otherwise a float.  So the text of an integer is read as
that integer. -/
theorem parse?_classifies (text : String) :
    let core := Text.stripOf Text.isBlank text.toList
    (∀ other, Text.Stripped Text.isBlank text.toList other ↔ other = core) ∧
    ((parse? text).isSome = true ↔ ∃ n, Form isAsciiDigit core n) ∧
    (∀ i : Int64, parse? text = some (.int i) ↔ Spells core i.toInt) ∧
    ((∃ x, parse? text = some (.float x)) ↔
      (∃ n, Form isAsciiDigit core n) ∧ ∀ i : Int64, ¬ Spells core i.toInt) ∧
    ∀ i : Int64, parse? (toString i.toInt) = some (.int i) := by
  intro core
  have hread : (parse? text).isSome = true ↔ ∃ n, Form isAsciiDigit core n := by
    rw [Option.isSome_iff_exists]
    constructor
    · rintro ⟨number, h⟩
      rcases parse?_eq_some_iff.1 h with ⟨n, form, -⟩
      exact ⟨n, form⟩
    · rintro ⟨n, form⟩
      exact ⟨_, parse?_eq_some_iff.2 ⟨n, form, rfl⟩⟩
  have hint : ∀ i : Int64, parse? text = some (.int i) ↔ Spells core i.toInt :=
    fun _ => parse?_eq_int_iff
  refine ⟨fun _ => Text.stripped_iff, hread, hint, ?_, ?_⟩
  · -- What is read is an integer or a float.
    simp only [← hread, ← hint]
    cases parse? text with
    | none => simp
    | some number => cases number <;> simp
  · intro i
    have hspells := Check.spells_toString i.toInt
    rw [parse?_eq_int_iff, Text.stripOf_of_forall hspells.not_blank]
    exact hspells

end Number

end Assay
