import Assay.Proofs.Number.Grammar

/-!
# Leading numbers — what a text is worth as an integer

The integer of a text is the number that it begins with.  The longest numeral is taken, and for
that digits of any script count; but what is taken is a number only if all its digits are ASCII
digits.  So an integer is lost if a digit of another script follows it at once.

* `Number.leading?_eq_parse?` states that what is taken is read like a text of its own;
* `Number.leading?_of_spells` and `Number.leading?_of_foreign` cover the ways in which a text can go
  on after an integer;
* `Value.toInt64_leading` states when the integer is found.
-/

namespace Assay

open Numeral

namespace Number

variable {text : String} {chars rest : List Char} {n : Numeral}

/-- A leading number is what a scan behind the blanks reads, if its digits are ASCII. -/
theorem leading?_of_scan
    (h : scan Text.isDecimalDigit (text.toList.dropWhile Text.isBlank) = some (n, rest)) :
    leading? text = if n.isAscii then some (ofNumeral n) else none := by
  unfold leading?
  rw [h]

/-- The number that a text begins with is what its longest numeral is read as. -/
theorem leading?_eq_parse?
    (h : scan Text.isDecimalDigit (text.toList.dropWhile Text.isBlank) = some (n, rest))
    (form : Form Text.isDecimalDigit chars n) : leading? text = parse? (String.ofList chars) := by
  have hcore : Text.stripOf Text.isBlank (String.ofList chars).toList = chars := by
    rw [String.toList_ofList]
    exact Text.stripOf_of_forall (isBlank_of_form form)
  rw [leading?_of_scan h, parse?_of_form (hcore.symm ▸ form)]

/-! ## Texts that begin with an integer -/

theorem dropWhile_isBlank_of_spells {k : Int} (h : Spells chars k) (rest : List Char) :
    (chars ++ rest).dropWhile Text.isBlank = chars ++ rest := by
  rcases h.exists_digits with ⟨sign, _, digits, _, ofDigits, rfl, _⟩
  refine Text.dropWhile_of_head fun c hc => h.not_blank c ?_
  rw [List.head?_append_of_ne_nil _ (by simp [ofDigits.nonempty])] at hc
  exact List.mem_of_mem_head? hc

/-- The integer is found, unless what follows goes on with it. -/
theorem leading?_of_spells {i : Int64} (htext : text.toList = chars ++ rest)
    (h : Spells chars i.toInt) (ends : Ends Text.isDecimalDigit rest) :
    leading? text = some (int i) := by
  rcases spells_iff.1 h with ⟨n, form, -⟩
  have hscan : scan Text.isDecimalDigit (text.toList.dropWhile Text.isBlank) = some (n, rest) := by
    rw [htext, dropWhile_isBlank_of_spells h]
    exact scan_form marksApart_decimal form.decimal ends
  rw [leading?_eq_parse? hscan form.decimal, parse?_eq_int_iff, String.toList_ofList,
    Text.stripOf_of_forall h.not_blank]
  exact h

/-- A digit of another script is taken for one of the integer, and then there is no number. -/
theorem leading?_of_foreign {k : Int} {c : Char} (htext : text.toList = chars ++ c :: rest)
    (h : Spells chars k) (digit : Text.isDecimalDigit c = true) (foreign : isAsciiDigit c = false) :
    leading? text = none := by
  have hdrop := dropWhile_isBlank_of_spells h (c :: rest)
  cases hscan : scan Text.isDecimalDigit (text.toList.dropWhile Text.isBlank) with
  | none =>
      unfold leading?
      rw [hscan]
  | some found =>
      rcases found with ⟨n, unread⟩
      have hwhole := whole_of_scan hscan
      rcases h.exists_digits with ⟨sign, negative, digits, ofSign, ofDigits, rfl, -⟩
      have hdecimal : ∀ d ∈ digits, Text.isDecimalDigit d = true := fun d hd =>
        isDecimalDigit_of_isAsciiDigit (List.all_eq_true.1 ofDigits.all d hd)
      have hsign : scanSign (sign ++ (digits ++ c :: rest)) = (negative, digits ++ c :: rest) :=
        scanSign_form ofSign (ofDigits.head marksApart_ascii)
      -- The whole part goes beyond the ASCII digits, and so it has the foreign one among its own.
      have hmem : c ∈ n.digits := by
        rw [htext, hdrop, List.append_assoc, hsign, List.takeWhile_append_of_pos hdecimal,
          List.takeWhile_cons_of_pos digit] at hwhole
        rw [Numeral.digits, hwhole]
        simp
      have hascii : n.isAscii = false := by
        rw [isAscii_eq]
        exact List.all_eq_false.2 ⟨c, hmem, by simp [foreign]⟩
      rw [leading?_of_scan hscan, hascii]
      rfl

end Number

namespace Value

/-- An integer in front of a text is the integer of the text, if the text does not go on with an
ASCII digit, a point or the mark of an exponent, and if it does not go on with a digit of another
script either.  If it does, the integer of the text is zero. -/
theorem toInt64_leading (i : Int64) {rest : String} (ends : Ends isAsciiDigit rest.toList) :
    let value := str (toString i.toInt ++ rest)
    (value.toInt64 = i ↔ i = 0 ∨ ∀ c ∈ rest.toList.head?, Text.isDecimalDigit c = false) ∧
    (value.toInt64 ≠ i → value.toInt64 = 0) := by
  intro value
  have htext : (toString i.toInt ++ rest).toList = (toString i.toInt).toList ++ rest.toList :=
    String.toList_append
  have hspells := Check.spells_toString i.toInt
  -- The text goes on with a digit of another script, or with nothing that a numeral goes on with.
  by_cases hends : ∀ c ∈ rest.toList.head?, Text.isDecimalDigit c = false
  · have hleading : Number.leading? (toString i.toInt ++ rest) = some (.int i) :=
      Number.leading?_of_spells htext hspells fun c hc => ⟨hends c hc, (ends c hc).2⟩
    have hvalue : value.toInt64 = i := by
      rw [toInt64, hleading]
    exact ⟨⟨fun _ => .inr hends, fun _ => hvalue⟩, fun hother => absurd hvalue hother⟩
  · simp only [not_forall] at hends
    rcases hends with ⟨c, hhead, hnot⟩
    have hdigit : Text.isDecimalDigit c = true := eq_true_of_ne_false hnot
    rcases List.head?_eq_some_iff.1 hhead with ⟨after, hrest⟩
    have hforeign : isAsciiDigit c = false := (ends c hhead).1
    rw [hrest] at htext
    have hvalue : value.toInt64 = 0 := by
      rw [toInt64, Number.leading?_of_foreign htext hspells hdigit hforeign]
    rw [hvalue]
    refine ⟨⟨fun hzero => .inl hzero.symm, ?_⟩, fun _ => rfl⟩
    rintro (rfl | hnone)
    · rfl
    · exact absurd (hnone c hhead) hnot

/-- A letter after an integer does not matter. -/
theorem toInt64_leading_letter :
    Ends isAsciiDigit "px".toList ∧ (str (toString (-12 : Int64).toInt ++ "px")).toInt64 = -12 := by
  have hends : Ends isAsciiDigit "px".toList := by
    rintro c hc
    cases hc
    decide
  refine ⟨hends, (toInt64_leading (-12) hends).1.2 (.inr ?_)⟩
  rintro c hc
  cases hc
  decide +kernel

/-- An Arabic digit three after twelve makes the text worth nothing. -/
theorem toInt64_foreign_digit :
    let value := str (toString (12 : Int64).toInt ++ "\u0663")
    Ends isAsciiDigit "\u0663".toList ∧ value.toInt64 = 0 ∧ value.toInt64 ≠ 12 := by
  refine ⟨?_, by decide +kernel, by decide +kernel⟩
  rintro c hc
  cases hc
  decide

end Value

end Assay
