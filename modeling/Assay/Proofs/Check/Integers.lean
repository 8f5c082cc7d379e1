import Assay.Check.Coercion
import Assay.Proofs.Number.Rounding
import Assay.Settings

/-!
# Integers — what the check of an integer makes of one

An integer may come as such or written out, with spaces anywhere.  Strictly within the bound it
stays what it is; from the bound on it becomes a float, and is rounded if no float holds it.

* `Spells` relates decimal digits, with a sign or without, to the integer that they denote;
* `Value.Writes` says of a value that it is this integer, or spells it once its spaces are gone;
* `Value.Denotes` says of a number that this integer is its exact value;
* `Check.int_of_writes` states what such a value becomes, and when it keeps its value.
-/

namespace Assay

/-- The characters are decimal digits, after a sign or without one, of an integer. -/
inductive Spells : List Char → Int → Prop where
  | unsigned {digits : List Char} (nonempty : digits ≠ [])
      (decimal : digits.all isAsciiDigit = true) : Spells digits (Numeral.digitsValue digits)
  | plus {digits : List Char} (nonempty : digits ≠ [])
      (decimal : digits.all isAsciiDigit = true) :
      Spells ('+' :: digits) (Numeral.digitsValue digits)
  | minus {digits : List Char} (nonempty : digits ≠ [])
      (decimal : digits.all isAsciiDigit = true) :
      Spells ('-' :: digits) (-(Numeral.digitsValue digits : Int))

namespace Value

/-- The value is the integer, or a text that spells it once its spaces are removed. -/
def Writes : Value → Int → Prop
  | int i, n => i.toInt = n
  | str s, n => Spells (Check.withoutSpaces s).toList n
  | _, _ => False

/-- The value is a number, and exactly this integer. -/
def Denotes : Value → Int → Prop
  | int i, n => i.toInt = n
  | float x, n => x.amount? = some (.finite (n * Binary64.unitsPerOne))
  | _, _ => False

end Value

namespace Check

open Numeral

/-! ## Texts -/

theorem scanSign_digits {digits : List Char} (decimal : digits.all isAsciiDigit = true) :
    scanSign digits = (false, digits) := by
  cases digits with
  | nil => rfl
  | cons first rest =>
      -- No digit is a sign.
      have hfirst := List.all_eq_true.1 decimal first List.mem_cons_self
      unfold scanSign
      split
      · rename_i heq
        cases heq
        cases hfirst
      · rename_i heq
        cases heq
        cases hfirst
      · rfl

/-- A text that spells an integer is read as it is spelled. -/
theorem integerNumeral?_of_spells {text : String} {n : Int} (h : Spells text.toList n) :
    ∃ negative digits, integerNumeral? text = some ⟨negative, digits, none, none⟩ ∧
      signed negative (digitsValue digits) = n := by
  have hread : ∀ {negative digits}, scanSign text.toList = (negative, digits) → digits ≠ [] →
      digits.all isAsciiDigit = true →
        integerNumeral? text = some ⟨negative, digits, none, none⟩ := by
    intro negative digits hsign hnonempty hdecimal
    unfold integerNumeral?
    simp [hsign, hnonempty, hdecimal]
  generalize htext : text.toList = chars at h
  rw [htext] at hread
  cases h with
  | unsigned hnonempty hdecimal =>
      exact ⟨false, _, hread (scanSign_digits hdecimal) hnonempty hdecimal, rfl⟩
  | plus hnonempty hdecimal => exact ⟨false, _, hread rfl hnonempty hdecimal, rfl⟩
  | minus hnonempty hdecimal => exact ⟨true, _, hread rfl hnonempty hdecimal, rfl⟩

/-- Decimal digits are ASCII digits. -/
theorem all_toDigits (n : Nat) : (Nat.toDigits 10 n).all isAsciiDigit = true :=
  List.all_eq_true.2 fun _ hc => Nat.isDigit_of_mem_toDigits (by decide) (by decide) hc

/-- The text of an integer is the decimal form of its amount, after a minus if it is negative. -/
theorem exists_toDigits (i : Int) :
    ∃ negative n, signed negative n = i ∧ (negative = true → n ≠ 0) ∧
      (toString i).toList = (if negative then ['-'] else []) ++ Nat.toDigits 10 n := by
  rw [Int.toString_eq_repr, Int.repr_eq_if]
  split
  · refine ⟨false, i.toNat, Int.toNat_of_nonneg ‹_›, nofun, ?_⟩
    rw [Nat.toList_repr]
    rfl
  · refine ⟨true, (-i).toNat, ?_, fun _ => by omega, ?_⟩
    · rw [Binary64.signed_true]
      omega
    · rw [String.toList_append, Nat.toList_repr]
      rfl

/-- The text of an integer spells it. -/
theorem spells_toString (i : Int) : Spells (toString i).toList i := by
  rcases exists_toDigits i with ⟨negative, n, rfl, -, htext⟩
  have hvalue : digitsValue (Nat.toDigits 10 n) = n := Nat.ofDigitChars_ten_toDigits
  rw [htext]
  cases negative with
  | true =>
      have hspells := Spells.minus Nat.toDigits_ne_nil (all_toDigits n)
      rwa [hvalue] at hspells
  | false =>
      have hspells := Spells.unsigned Nat.toDigits_ne_nil (all_toDigits n)
      rwa [hvalue] at hspells

/-- The text that is read of a value that is written as an integer. -/
theorem integerText?_of_writes {value : Value} {n : Int} (h : value.Writes n) :
    ∃ text, integerText? (spaceless value) = some text ∧ Spells text.toList n := by
  cases value with
  | int i =>
      cases h
      exact ⟨_, rfl, spells_toString _⟩
  | str s => exact ⟨_, rfl, h⟩
  | _ => cases h

/-! ## Numerals -/

/-- Written without a fraction or an exponent, a number other than zero becomes the same float as
the integer. -/
theorem toBinary64_whole {negative : Bool} {digits : List Char} {n : Int}
    (h : signed negative (digitsValue digits) = n) (hn : n ≠ 0) :
    Numeral.toBinary64 ⟨negative, digits, none, none⟩ = .ofInt n := by
  have hwhole : Numeral.toBinary64 ⟨negative, digits, none, none⟩ =
      Binary64.ofDecimal negative (digitsValue digits) 0 := by
    simp [Numeral.toBinary64]
  -- Of zero only the numeral has a sign.
  have hparts : decide (n < 0) = negative ∧ n.natAbs = digitsValue digits := by
    cases negative with
    | true =>
        rw [Binary64.signed_true] at h
        exact ⟨decide_eq_true (by omega), by omega⟩
    | false =>
        rw [Binary64.signed_false] at h
        exact ⟨decide_eq_false (by omega), by omega⟩
  rw [hwhole, Binary64.ofDecimal_whole, Binary64.ofInt, hparts.1, hparts.2]

/-- Integers of 64 bits are kept as they are. -/
theorem int64?_eq_some_iff {n : Int} {i : Int64} : int64? n = some i ↔ i.toInt = n := by
  unfold int64?
  constructor
  · intro h
    split at h
    · rename_i hrange
      rw [Int64.toInt_minValue, Int64.toInt_maxValue] at hrange
      cases h
      exact Int64.toInt_ofInt_of_le hrange.1 (by omega)
    · cases h
  · rintro rfl
    rw [if_pos ⟨i.minValue_le_toInt, i.toInt_le⟩, Int64.ofInt_toInt]

/-! ## Results -/

variable {bound : Int64} {negative : Bool} {digits : List Char} {value : Value} {n : Int}

/-- Strictly within the bound the integer stays. -/
theorem boundedInteger_within (h : signed negative (digitsValue digits) = n)
    (within : (n.natAbs : Int) < bound.toInt) :
    ∃ i : Int64, i.toInt = n ∧
      boundedInteger bound ⟨negative, digits, none, none⟩ = .int i := by
  have hbound := bound.toInt_lt
  have hvalue : (Int64.ofInt n).toInt = n := Int64.toInt_ofInt_of_le (by omega) (by omega)
  refine ⟨_, hvalue, ?_⟩
  simp only [boundedInteger, toInt?, h, Option.bind_some, int64?_eq_some_iff.2 hvalue]
  rw [if_pos (by omega)]

/-- From the bound on, on either side, it becomes a float. -/
theorem boundedInteger_beyond (h : signed negative (digitsValue digits) = n)
    (positive : 0 < bound.toInt) (beyond : bound.toInt ≤ n.natAbs) :
    boundedInteger bound ⟨negative, digits, none, none⟩ = .float (.ofInt n) := by
  have hfloat := toBinary64_whole h (by omega)
  unfold boundedInteger
  -- It may still fit into 64 bits, and then the bound decides.
  split
  · rename_i i hi
    simp only [toInt?, h, Option.bind_some, int64?_eq_some_iff] at hi
    rw [if_neg (by omega), hfloat]
  · rw [hfloat]

/-- Written integers are read as sign and digits, and then bounded. -/
theorem int_eq_boundedInteger (bound : Int64) (h : value.Writes n) :
    ∃ negative digits, signed negative (digitsValue digits) = n ∧
      int bound value = .ok (boundedInteger bound ⟨negative, digits, none, none⟩) := by
  rcases integerText?_of_writes h with ⟨text, htext, hspells⟩
  rcases integerNumeral?_of_spells hspells with ⟨negative, digits, hnumeral, hvalue⟩
  refine ⟨negative, digits, hvalue, ?_⟩
  simp only [int, htext, Option.bind_some, hnumeral]

/-- If any float has the value of an integer, then the nearest one has. -/
theorem denotes_ofInt_iff (n : Int) :
    (Value.float (.ofInt n)).Denotes n ↔ ∃ x, (Value.float x).Denotes n := by
  refine ⟨fun h => ⟨_, h⟩, ?_⟩
  rintro ⟨x, hx⟩
  have hcount := Binary64.representable_of_amount? hx
  rw [Int.natAbs_mul, Int.natAbs_natCast] at hcount
  exact (Binary64.amount?_ofInt_iff n).2 hcount

/-- A value that is an integer, or a text that spells one, is not refused.  Strictly within the
bound it becomes the integer, and otherwise the nearest float.  So it keeps its value if and only
if it lies within the bound or is the value of some float, as up to 53 bits it is. -/
theorem int_of_writes (positive : 0 < bound.toInt) (h : value.Writes n) :
    (n.natAbs < bound.toInt → ∃ i : Int64, int bound value = .ok (.int i) ∧ i.toInt = n) ∧
    (bound.toInt ≤ n.natAbs → int bound value = .ok (.float (.ofInt n)) ∧
      (Binary64.ofInt n).IsNearest (n * Binary64.unitsPerOne)) ∧
    ∃ w, int bound value = .ok w ∧
      (w.Denotes n ↔ n.natAbs < bound.toInt ∨ ∃ x, (Value.float x).Denotes n) ∧
      (n.natAbs ≤ 2 ^ 53 → w.Denotes n) := by
  rcases int_eq_boundedInteger bound h with ⟨negative, digits, hvalue, hint⟩
  by_cases within : (n.natAbs : Int) < bound.toInt
  · rcases boundedInteger_within hvalue within with ⟨i, hi, hresult⟩
    rw [hresult] at hint
    refine ⟨fun _ => ⟨i, hint, hi⟩, fun hbeyond => by omega, _, hint, ?_, fun _ => hi⟩
    exact ⟨fun _ => .inl within, fun _ => hi⟩
  · have beyond : bound.toInt ≤ n.natAbs := Int.not_lt.1 within
    rw [boundedInteger_beyond hvalue positive beyond] at hint
    refine ⟨fun hwithin => by omega, fun _ => ⟨hint, Binary64.ofInt_isNearest n⟩, _, hint, ?_, ?_⟩
    · rw [denotes_ofInt_iff, or_iff_right (by omega)]
    · exact fun hsmall =>
        (Binary64.amount?_ofInt_iff n).2 (Binary64.representable_of_natAbs_le hsmall)

/-- A text with a sign and spaces, and an integer of 54 bits that a float holds. -/
theorem int_of_writes_bounded :
    (∃ i : Int64, int Settings.standard.intBound (.str "- 4 2") = .ok (.int i) ∧ i.toInt = -42) ∧
    ∃ w, int Settings.standard.intBound (.int 18014398509481980) = .ok w ∧
      w.Denotes 18014398509481980 := by
  have hpositive : 0 < Settings.standard.intBound.toInt := by decide
  have htext : (Value.str "- 4 2").Writes (-42) := by
    have hchars : (withoutSpaces "- 4 2").toList = ['-', '4', '2'] := by decide
    have hspells : Spells ['-', '4', '2'] (-42) := .minus (by decide) (by decide)
    change Spells (withoutSpaces "- 4 2").toList (-42)
    rwa [hchars]
  have hinteger : (Value.int 18014398509481980).Writes 18014398509481980 := rfl
  have hfloat : (Value.float (.ofInt 18014398509481980)).Denotes 18014398509481980 :=
    (Binary64.amount?_ofInt_iff _).2 (by decide +kernel)
  refine ⟨(int_of_writes hpositive htext).1 (by decide), ?_⟩
  rcases (int_of_writes hpositive hinteger).2.2 with ⟨w, hw, hkeeps, -⟩
  exact ⟨w, hw, hkeeps.2 (.inr ⟨_, hfloat⟩)⟩

/-- The first integer that no float holds becomes the one before it. -/
theorem int_rounds :
    let n : Int64 := 9007199254740993
    (Value.int n).Writes n.toInt ∧ 0 < Settings.standard.intBound.toInt ∧
      int Settings.standard.intBound (.int n) = .ok (.float (.ofInt 9007199254740992)) ∧
      ¬ (Value.float (.ofInt 9007199254740992)).Denotes n.toInt := by
  intro n
  have hpositive : 0 < Settings.standard.intBound.toInt := by decide
  have hwrites : (Value.int n).Writes n.toInt := rfl
  have hrounded : Binary64.ofInt n.toInt = .ofInt 9007199254740992 := by decide +kernel
  refine ⟨hwrites, hpositive, ?_, ?_⟩
  · rcases int_eq_boundedInteger Settings.standard.intBound hwrites with
      ⟨negative, digits, hvalue, hint⟩
    rw [hint, boundedInteger_beyond hvalue hpositive (by decide), hrounded]
  · unfold Value.Denotes
    decide +kernel

end Check

end Assay
