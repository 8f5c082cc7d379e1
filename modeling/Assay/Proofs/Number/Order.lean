import Assay.Check.Bound
import Assay.Proofs.Check.Integers

/-!
# Order — lengths against the bounds that limit them

A length is compared with a bound as a float.  Up to `2 ^ 53` both are their own floats, and the
order is that of the integers.  A float with a fraction lies below `2 ^ 52`; there every length is
compared by its exact value, and one can be taken off without rounding.

* `Check.compareLength_int` compares lengths with integers;
* `Check.compareLength_fraction` compares lengths with fractions, however large the lengths are;
* `Number.exists_offset` states that a step from one integer to another one is exact, and
  `Binary64.toLength_pred` which length is left when one is taken off a fraction.
-/

namespace Assay

namespace Binary64

variable {n : Nat}

/-! ## Integers -/

/-- An integer that some float has becomes that float. -/
theorem ofInt_of_representable {i : Int} (h : Representable (i.natAbs * unitsPerOne)) :
    ofInt i = finite (decide (i < 0)) (i.natAbs * unitsPerOne) h := by
  have hsame : roundUnits (i.natAbs * unitsPerOne) 1 = i.natAbs * unitsPerOne :=
    roundUnits_of_dvd h.1
  unfold ofInt ofRatio
  rw [dif_pos (hsame.symm ▸ h.2)]
  simp only [hsame]

theorem ofNat_eq_ofInt (n : Nat) : ofNat n = ofInt n := by
  have hsign : decide ((n : Int) < 0) = false := decide_eq_false (by omega)
  unfold ofNat ofInt
  rw [hsign, Int.natAbs_natCast]

/-- A common scale does not change the order. -/
theorem compare_scaled (i j : Int) : compare (i * unitsPerOne) (j * unitsPerOne) = compare i j := by
  have hpositive : (0 : Int) < unitsPerOne := Int.natCast_pos.2 unitsPerOne_pos
  rcases Int.lt_trichotomy i j with hlt | rfl | hgt
  · rw [Int.compare_eq_lt.2 hlt, Int.compare_eq_lt.2 (Int.mul_lt_mul_of_pos_right hlt hpositive)]
  · rw [Int.compare_eq_eq.2 rfl, Int.compare_eq_eq.2 rfl]
  · rw [Int.compare_eq_gt.2 hgt, Int.compare_eq_gt.2 (Int.mul_lt_mul_of_pos_right hgt hpositive)]

/-- Integers that are their own floats are compared as they are. -/
theorem compare?_ofInt {i j : Int} (hi : Representable (i.natAbs * unitsPerOne))
    (hj : Representable (j.natAbs * unitsPerOne)) :
    compare? (ofInt i) (ofInt j) = some (compare i j) := by
  have hscaled : compare? (ofInt i) (ofInt j) =
      some (compare (i * unitsPerOne) (j * unitsPerOne)) := by
    rw [ofInt_of_representable hi, ofInt_of_representable hj, ← signed_units i, ← signed_units j]
    rfl
  rw [hscaled, compare_scaled]

/-! ## Fractions -/

/-- The grid of a float with a fraction is finer than one. -/
theorem log2_lt_of_fraction (h : Representable n) (hfraction : ¬unitsPerOne ∣ n) {k : Nat}
    (hunits : unitsPerOne = 2 ^ k) : n.log2 - 52 < k := by
  refine Nat.lt_of_not_le fun hcoarse => ?_
  have hgrid : unitsPerOne ∣ 2 ^ (n.log2 - 52) := by
    rw [hunits]
    exact Nat.pow_dvd_pow 2 hcoarse
  exact hfraction (Nat.dvd_trans hgrid h.1)

/-- From `2 ^ 52` on all floats are whole. -/
theorem lt_of_fraction (h : Representable n) (hfraction : ¬unitsPerOne ∣ n) :
    n < 2 ^ 52 * unitsPerOne := by
  rcases exists_unitsPerOne_eq with ⟨k, hunits, -⟩
  have hfine := log2_lt_of_fraction h hfraction hunits
  calc n < 2 ^ (n.log2 + 1) := Nat.lt_log2_self
    _ ≤ 2 ^ (52 + k) := Nat.pow_le_pow_right (by decide) (by omega)
    _ = 2 ^ 52 * unitsPerOne := by rw [Nat.pow_add, hunits]

/-- Rounding does not bring a count below a representable one. -/
theorem le_roundUnits {r : Nat} (hr : Representable r) (h : r ≤ n) : r ≤ roundUnits n 1 := by
  have hnearest := roundUnits_nearest n hr.1
  omega

/-- Up to 2⁵³ every natural number is a double. -/
theorem representable_of_le {m : Nat} (h : m ≤ 2 ^ 53) : Representable (m * unitsPerOne) := by
  have hinteger : Representable ((m : Int).natAbs * unitsPerOne) := representable_of_natAbs_le h
  rwa [Int.natAbs_natCast] at hinteger

/-- A whole number that is large lies above every float with a fraction. -/
theorem compare?_ofNat_of_large {m : Nat} (hm : 2 ^ 53 ≤ m) (h : Representable n)
    (hfraction : ¬unitsPerOne ∣ n) : compare? (ofNat m) (finite false n h) = some .gt := by
  have hrounded : 2 ^ 53 * unitsPerOne ≤ roundUnits (m * unitsPerOne) 1 :=
    le_roundUnits (representable_of_le (Nat.le_refl _)) (Nat.mul_le_mul_right _ hm)
  have hbelow : n < 2 ^ 53 * unitsPerOne := by
    have hfine := lt_of_fraction h hfraction
    omega
  unfold ofNat ofRatio
  split
  · have hgt : ((n : Nat) : Int) < (roundUnits (m * unitsPerOne) 1 : Nat) := by omega
    exact congrArg some (Int.compare_eq_gt.2 hgt)
  · rfl

/-- A whole number is compared with a fraction by its value. -/
theorem compare?_ofNat_fraction (m : Nat) (h : Representable n) (hfraction : ¬unitsPerOne ∣ n) :
    compare? (ofNat m) (finite false n h) =
      some (compare ((m * unitsPerOne : Nat) : Int) (n : Int)) := by
  -- Beyond `2 ^ 53` the number may be rounded, but not below the fraction.
  by_cases hm : m ≤ 2 ^ 53
  · have hexact : Representable ((m : Int).natAbs * unitsPerOne) := representable_of_natAbs_le hm
    have hcount : (m : Int) * unitsPerOne = ((m * unitsPerOne : Nat) : Int) := by push_cast; rfl
    rw [ofNat_eq_ofInt, ofInt_of_representable hexact, ← hcount, ← signed_units m]
    rfl
  · have hlarge : 2 ^ 53 ≤ m := Nat.le_of_lt (Nat.lt_of_not_le hm)
    have hgt : (n : Int) < ((m * unitsPerOne : Nat) : Int) := by
      have hbelow := lt_of_fraction h hfraction
      have hscaled : 2 ^ 53 * unitsPerOne ≤ m * unitsPerOne := Nat.mul_le_mul_right _ hlarge
      omega
    rw [compare?_ofNat_of_large hlarge h hfraction, Int.compare_eq_gt.2 hgt]

/-- One less than a float with a fraction is a float. -/
theorem representable_pred (h : Representable n) (hfraction : ¬unitsPerOne ∣ n) :
    Representable (n - unitsPerOne) := by
  rcases exists_unitsPerOne_eq with ⟨k, hunits, -⟩
  have hfine := log2_lt_of_fraction h hfraction hunits
  have hgrid : 2 ^ (n.log2 - 52) ∣ n - unitsPerOne := by
    refine Nat.dvd_sub h.1 ?_
    rw [hunits]
    exact Nat.pow_dvd_pow 2 (Nat.le_of_lt hfine)
  have hlog : (n - unitsPerOne).log2 ≤ n.log2 := by
    by_cases hzero : n - unitsPerOne = 0
    · simp [hzero]
    · have hlower : n - unitsPerOne < 2 ^ (n.log2 + 1) :=
        Nat.lt_of_le_of_lt (Nat.sub_le _ _) Nat.lt_log2_self
      exact Nat.le_of_lt_succ ((Nat.log2_lt hzero).2 hlower)
  refine ⟨Nat.dvd_trans (Nat.pow_dvd_pow 2 (by omega)) hgrid, ?_⟩
  exact Nat.lt_of_le_of_lt (Nat.sub_le _ _) h.2

theorem toLength_of_negative (n d : Nat) : (ofRatio true n d).toLength = 0 := by
  unfold ofRatio
  split <;> rfl

/-- Terms that do not cancel out are added exactly, and then the sum is rounded. -/
theorem add_of_ne_zero {a b : Bool} {m n : Nat} (hm : Representable m) (hn : Representable n)
    (h : Numeral.signed a m + Numeral.signed b n ≠ 0) :
    (finite a m hm).add (finite b n hn) =
      ofRatio (decide (Numeral.signed a m + Numeral.signed b n < 0))
        (Numeral.signed a m + Numeral.signed b n).natAbs 1 := if_neg h

/-- When one is taken off a fraction, its whole part loses one. -/
theorem toLength_pred (h : Representable n) (hfraction : ¬unitsPerOne ∣ n) :
    ((finite false n h).add (ofInt (-1))).toLength = n / unitsPerOne - 1 := by
  have hone : Representable ((-1 : Int).natAbs * unitsPerOne) :=
    representable_of_natAbs_le (by decide)
  have hpositive := unitsPerOne_pos
  have hdifferent : n ≠ unitsPerOne := fun hsame => hfraction (hsame ▸ Nat.dvd_refl _)
  have hsum : Numeral.signed false n +
      Numeral.signed (decide ((-1 : Int) < 0)) ((-1 : Int).natAbs * unitsPerOne) =
        (n : Int) - unitsPerOne := by
    rw [signed_units, signed_false]
    omega
  have hadd : (finite false n h).add (ofInt (-1)) =
      ofRatio (decide ((n : Int) - unitsPerOne < 0)) ((n : Int) - unitsPerOne).natAbs 1 := by
    rw [ofInt_of_representable hone, add_of_ne_zero h hone (by omega), hsum]
  rw [hadd]
  by_cases hsmall : n < unitsPerOne
  · -- What is left is negative, and there was no whole part.
    have hnegative : (n : Int) - unitsPerOne < 0 := by omega
    rw [decide_eq_true hnegative, toLength_of_negative, Nat.div_eq_of_lt hsmall]
  · -- What is left is on the grid already, and rounding does nothing to it.
    have hwhole : unitsPerOne ≤ n := Nat.le_of_not_lt hsmall
    have hpred := representable_pred h hfraction
    have hexact : roundUnits (n - unitsPerOne) 1 = n - unitsPerOne := roundUnits_of_dvd hpred.1
    have hunits : ((n : Int) - unitsPerOne).natAbs = n - unitsPerOne := by omega
    have hsign : decide ((n : Int) - unitsPerOne < 0) = false := decide_eq_false (by omega)
    have hquotient : (n - unitsPerOne) / unitsPerOne = n / unitsPerOne - 1 := by
      simpa using Nat.sub_mul_div n unitsPerOne 1
    have hfits : n / unitsPerOne - 1 < 2 ^ 64 - 1 := by
      have hquotient : n / unitsPerOne < 2 ^ 52 :=
        (Nat.div_lt_iff_lt_mul hpositive).2 (lt_of_fraction h hfraction)
      omega
    rw [hsign, hunits, ofRatio, dif_pos (hexact.symm ▸ hpred.2)]
    simp only [toLength, hexact, hquotient]
    exact Nat.min_eq_left (Nat.le_of_lt hfits)

end Binary64

namespace Number

/-- A step from an integer that does not leave the 64 bits leads to an integer. -/
theorem exists_offset (i delta : Int64) (hlower : -2 ^ 63 ≤ i.toInt + delta.toInt)
    (hupper : i.toInt + delta.toInt < 2 ^ 63) :
    ∃ j : Int64, (int i).offset delta = int j ∧ j.toInt = i.toInt + delta.toInt := by
  have hvalue : (Int64.ofInt (i.toInt + delta.toInt)).toInt = i.toInt + delta.toInt :=
    Int64.toInt_ofInt_of_le hlower hupper
  refine ⟨_, ?_, hvalue⟩
  simp only [offset, Check.int64?_eq_some_iff.2 hvalue]

end Number

namespace Check

/-- A length and an integer, neither beyond `2 ^ 53`, are compared as integers. -/
theorem compareLength_int {length : Nat} {i : Int64} (hlength : length ≤ 2 ^ 53)
    (hbound : i.toInt.natAbs ≤ 2 ^ 53) :
    compareLength length (.int i) = some (compare (length : Int) i.toInt) := by
  unfold compareLength
  rw [Binary64.ofNat_eq_ofInt]
  exact Binary64.compare?_ofInt (Binary64.representable_of_natAbs_le hlength)
    (Binary64.representable_of_natAbs_le hbound)

/-- A length is below a fraction if its value is. -/
theorem compareLength_fraction (length : Nat) {n : Nat} (h : Representable n)
    (hfraction : ¬Binary64.unitsPerOne ∣ n) :
    compareLength length (.float (.finite false n h)) = some .lt ↔
      length * Binary64.unitsPerOne < n := by
  unfold compareLength
  rw [Number.toBinary64, Binary64.compare?_ofNat_fraction length h hfraction, Option.some.injEq,
    Int.compare_eq_lt, Int.ofNat_lt]

end Check

end Assay
