import Assay.Proofs.Check.Integers
import Assay.Proofs.Number.Expression
import Assay.Proofs.Text.Case

/-!
# Readers — what is read as an integer or a float

An integer is read digit by digit, and the reading ends at the first digit that goes beyond a limit.
So it succeeds exactly if the integer that is spelled lies within the bounds.  A float is read off a
numeral of ASCII digits, and otherwise off one of three words.

* `spells_iff` states that the numerals which spell an integer are those with no other parts;
* `Integer.read_eq_ok_iff` states which integers are read between bounds around zero;
* `Number.readInt64?_eq_some_iff` states it for those of 64 bits;
* `Number.readBinary64?_of_form` states what is read of a numeral with digits of any script.
-/

namespace Assay

open Numeral

variable {chars : List Char} {k : Int}

/-! ## Integers among the numerals -/

/-- What spells an integer is a sign and digits that denote it. -/
theorem Spells.exists_digits (h : Spells chars k) :
    ∃ sign negative digits, SignForm sign negative ∧ DigitsForm isAsciiDigit digits ∧
      chars = sign ++ digits ∧ signed negative (digitsValue digits) = k := by
  cases h with
  | unsigned hnonempty hdecimal => exact ⟨_, _, _, .none, ⟨hnonempty, hdecimal⟩, rfl, rfl⟩
  | plus hnonempty hdecimal => exact ⟨_, _, _, .plus, ⟨hnonempty, hdecimal⟩, rfl, rfl⟩
  | minus hnonempty hdecimal => exact ⟨_, _, _, .minus, ⟨hnonempty, hdecimal⟩, rfl, rfl⟩

/-- A sign and ASCII digits spell an integer. -/
theorem spells_of_digits {sign digits : List Char} {negative : Bool}
    (ofSign : SignForm sign negative) (ofDigits : DigitsForm isAsciiDigit digits) :
    Spells (sign ++ digits) (signed negative (digitsValue digits)) := by
  cases ofSign with
  | none => exact .unsigned ofDigits.nonempty ofDigits.all
  | plus => exact .plus ofDigits.nonempty ofDigits.all
  | minus => exact .minus ofDigits.nonempty ofDigits.all

/-- Only a numeral without point and exponent is an integer. -/
theorem whole_of_toInt? {n : Numeral} (h : n.toInt? = some k) :
    n.fraction = none ∧ n.exponent = none ∧ signed n.negative (digitsValue n.whole) = k := by
  unfold toInt? at h
  split at h
  · rename_i hfraction hexponent
    exact ⟨hfraction, hexponent, Option.some.inj h⟩
  · cases h

/-- The numerals that spell an integer are those that are only a sign and digits. -/
theorem spells_iff :
    Spells chars k ↔ ∃ n, Form isAsciiDigit chars n ∧ n.toInt? = some k := by
  constructor
  · intro h
    rcases h.exists_digits with ⟨sign, negative, digits, ofSign, ofDigits, rfl, hvalue⟩
    exact ⟨_, form_whole ofSign ofDigits, congrArg some hvalue⟩
  · rintro ⟨n, form, hvalue⟩
    rcases whole_of_toInt? hvalue with ⟨hfraction, hexponent, hsigned⟩
    rcases form.exists_sign hfraction hexponent with ⟨sign, ofSign, ofDigits, htext⟩
    rw [htext, ← hsigned]
    exact spells_of_digits ofSign ofDigits

/-- Characters spell one integer at most. -/
theorem Spells.unique {l : Int} (hk : Spells chars k) (hl : Spells chars l) : k = l := by
  rcases spells_iff.1 hk with ⟨m, hm, hmk⟩
  rcases spells_iff.1 hl with ⟨n, hn, hnl⟩
  rw [hm.unique marksApart_ascii hn, hnl] at hmk
  exact (Option.some.inj hmk).symm

/-- A spelled integer has no blanks. -/
theorem Spells.not_blank (h : Spells chars k) : ∀ c ∈ chars, Text.isBlank c = false := by
  rcases spells_iff.1 h with ⟨n, form, -⟩
  exact isBlank_of_form form.decimal

/-- What spells an integer is read off its sign. -/
theorem spells_iff_scanSign :
    Spells chars k ↔ DigitsForm isAsciiDigit (scanSign chars).2 ∧
      signed (scanSign chars).1 (digitsValue (scanSign chars).2) = k := by
  constructor
  · intro h
    rcases h.exists_digits with ⟨sign, negative, digits, ofSign, ofDigits, rfl, hvalue⟩
    have hsign : scanSign (sign ++ (digits ++ [])) = (negative, digits ++ []) :=
      scanSign_form ofSign (ofDigits.head marksApart_ascii)
    rw [List.append_nil] at hsign
    rw [hsign]
    exact ⟨ofDigits, hvalue⟩
  · rintro ⟨ofDigits, rfl⟩
    rcases exists_signForm chars with ⟨sign, ofSign, hchars⟩
    have hspells := spells_of_digits ofSign ofDigits
    rwa [← hchars] at hspells

/-! ## Integers between bounds -/

namespace Integer

variable {limit m n : Nat} {overflow : IntegerFlaw} {least greatest : Int}

/-- More digits do not make a number smaller. -/
theorem le_ofDigitChars (chars : List Char) (n : Nat) : n ≤ Nat.ofDigitChars 10 chars n := by
  rw [Nat.ofDigitChars_eq_ofDigitChars_zero]
  exact Nat.le_add_right_of_le (Nat.le_mul_of_pos_left n (Nat.pow_pos (by decide)))

/-- Digits are appended exactly if the number stays within the limit, since on the way it only
grows. -/
theorem appendDigits_eq_ok_iff (hn : n ≤ limit) :
    appendDigits limit overflow n chars = .ok m ↔
      chars.all isAsciiDigit = true ∧ Nat.ofDigitChars 10 chars n = m ∧ m ≤ limit := by
  induction chars generalizing n with
  | nil =>
      simp only [appendDigits, Except.ok.injEq, List.all_nil, Nat.ofDigitChars_nil, true_and]
      exact ⟨fun h => ⟨h, h ▸ hn⟩, And.left⟩
  | cons c rest ih =>
      rw [appendDigits, List.all_cons, Nat.ofDigitChars_cons, Nat.mul_comm 10 n]
      by_cases hdigit : isAsciiDigit c = true
      · rw [if_pos hdigit, hdigit, Bool.true_and]
        dsimp only
        split
        · exact ih ‹_›
        · rename_i hlarge
          have hgrows := le_ofDigitChars rest (n * 10 + (c.toNat - '0'.toNat))
          refine iff_of_false nofun ?_
          rintro ⟨-, rfl, hle⟩
          exact hlarge (hgrows.trans hle)
      · simp [hdigit]

/-- Digits are read if they are there and do not exceed the limit. -/
theorem readDigits_eq_ok_iff :
    readDigits limit overflow chars = .ok m ↔
      DigitsForm isAsciiDigit chars ∧ digitsValue chars = m ∧ m ≤ limit := by
  unfold readDigits
  split
  · rename_i hempty
    refine iff_of_false nofun ?_
    rintro ⟨ofDigits, -⟩
    exact ofDigits.nonempty (List.isEmpty_iff.1 hempty)
  · rename_i hfilled
    rw [appendDigits_eq_ok_iff (Nat.zero_le _)]
    have hnonempty : chars ≠ [] := fun h => hfilled (List.isEmpty_iff.2 h)
    exact and_congr_left fun _ => ⟨fun hall => ⟨hnonempty, hall⟩, DigitsForm.all⟩

theorem bind_pure_eq_ok_iff {ε α β : Type} {x : Except ε α} {f : α → β} {b : β} :
    (x >>= fun a => pure (f a)) = .ok b ↔ ∃ a, x = .ok a ∧ f a = b := by
  constructor
  · intro h
    cases x with
    | error e => cases h
    | ok a => exact ⟨a, rfl, Except.ok.inj h⟩
  · rintro ⟨a, rfl, rfl⟩
    rfl

/-- An integer is read exactly if it is spelled and lies within the bounds. -/
theorem read_eq_ok_iff (hleast : least < 0) (hgreatest : 0 ≤ greatest) (text : String) :
    read least greatest text = .ok k ↔ Spells text.toList k ∧ least ≤ k ∧ k ≤ greatest := by
  have hunsigned : ∀ digits,
      (readDigits greatest.toNat .tooLarge digits >>= fun n => pure (n : Int)) = .ok k ↔
        (DigitsForm isAsciiDigit digits ∧ signed false (digitsValue digits) = k) ∧
          least ≤ k ∧ k ≤ greatest := by
    intro digits
    simp only [bind_pure_eq_ok_iff, readDigits_eq_ok_iff, Binary64.signed_false]
    grind
  rw [spells_iff_scanSign]
  unfold read
  split
  · -- Of an empty text nothing is spelled.
    rename_i hempty
    rw [hempty]
    exact iff_of_false nofun fun h => h.1.1.nonempty rfl
  · rename_i digits hplus
    rw [hplus]
    exact hunsigned digits
  · rename_i digits hminus
    rw [hminus, if_pos hleast]
    simp only [bind_pure_eq_ok_iff, readDigits_eq_ok_iff, scanSign, Binary64.signed_true]
    grind
  · rename_i hplus hminus
    have hsign : scanSign text.toList = (false, text.toList) := by
      unfold scanSign
      split
      · exact absurd ‹_› (hminus _)
      · exact absurd ‹_› (hplus _)
      · rfl
    rw [hsign]
    exact hunsigned text.toList

end Integer

namespace Number

variable {text : String} {n : Numeral}

/-- An integer of 64 bits is read exactly if it is spelled. -/
theorem readInt64?_eq_some_iff {i : Int64} :
    readInt64? text = some i ↔ Spells text.toList i.toInt := by
  have hread : ∀ k, Integer.read Int64.minValue.toInt Int64.maxValue.toInt text = .ok k ↔
      Spells text.toList k ∧ Int64.minValue.toInt ≤ k ∧ k ≤ Int64.maxValue.toInt :=
    fun _ => Integer.read_eq_ok_iff (by decide) (by decide) text
  have hrange : ∀ k, Int64.minValue.toInt ≤ k ∧ k ≤ Int64.maxValue.toInt → (Int64.ofInt k).toInt = k :=
    fun _ hfits => Check.int64?_eq_some_iff.1 (if_pos hfits)
  unfold readInt64?
  constructor
  · intro h
    split at h
    · rename_i k hk
      cases h
      rw [hread] at hk
      rw [hrange k hk.2]
      exact hk.1
    · cases h
  · intro h
    have hk := (hread i.toInt).2 ⟨h, i.minValue_le_toInt, i.toInt_le⟩
    rw [hk]
    exact congrArg some (Int64.ofInt_toInt i)

/-! ## Floats -/

/-- All words for floats have this letter. -/
theorem ofWord?_eq_none {negative : Bool} {word : List Char} (h : ∀ c ∈ word, c.toLower ≠ 'n') :
    ofWord? negative word = none := by
  have hother : ∀ name : List Char, 'n' ∈ name → word.map Char.toLower ≠ name := by
    rintro _ hn rfl
    rcases List.mem_map.1 hn with ⟨c, hc, hlower⟩
    exact h c hc hlower
  unfold ofWord?
  rw [if_neg, if_neg]
  · exact hother _ (by decide)
  · exact not_or.2 ⟨hother _ (by decide), hother _ (by decide)⟩

theorem eq_of_toLower_eq {c : Char} (h : c.toLower = 'n') : c = 'n' ∨ c = 'N' := by
  by_cases hascii : c.toNat < 0x80
  · exact Text.ascii_forall (p := fun c => c.toLower = 'n' → c = 'n' ∨ c = 'N')
      (by decide +kernel) hascii h
  · -- Beyond ASCII every character stays as it is.
    have hsame : c.toLower = c := by
      unfold Char.toLower
      rw [dif_neg]
      rintro ⟨-, hle⟩
      exact hascii (Nat.lt_of_le_of_lt (UInt32.le_iff_toNat_le.1 hle) (by decide))
    exact .inl (hsame.symm.trans h)

/-- No numeral has this letter. -/
theorem toLower_ne_of_form (form : Form Text.isDecimalDigit chars n) :
    ∀ c ∈ chars, c.toLower ≠ 'n' := by
  have hlower : Text.isDecimalDigit 'n' = false ∧ 'n' ∉ marks := by decide +kernel
  have hupper : Text.isDecimalDigit 'N' = false ∧ 'N' ∉ marks := by decide +kernel
  intro c hc hletter
  have hforeign : Text.isDecimalDigit c = false ∧ c ∉ marks := by
    rcases eq_of_toLower_eq hletter with rfl | rfl
    · exact hlower
    · exact hupper
  rcases form.mem hc with h | h
  · rw [hforeign.1] at h
    cases h
  · exact hforeign.2 h

/-- A numeral has a float if all its digits are ASCII digits, and otherwise none. -/
theorem readBinary64?_of_form (form : Form Text.isDecimalDigit text.toList n) :
    readBinary64? text = if n.isAscii then some n.toBinary64 else none := by
  unfold readBinary64?
  split
  · rename_i m hscan
    have hm := (scan_eq_some_nil_iff marksApart_ascii).1 hscan
    have hsame : m = n := hm.decimal.unique marksApart_decimal form
    rw [hsame] at hm ⊢
    rw [if_pos ((form_ascii_iff form).1 hm)]
  · rename_i hscan
    have hforeign : ¬ n.isAscii = true := by
      rw [← form_ascii_iff form, ← scan_eq_some_nil_iff marksApart_ascii]
      exact hscan n
    rw [if_neg hforeign]
    rcases exists_signForm text.toList with ⟨sign, -, htext⟩
    refine ofWord?_eq_none fun c hc => ?_
    refine toLower_ne_of_form form c ?_
    rw [htext]
    exact List.mem_append_right sign hc

end Number

end Assay
