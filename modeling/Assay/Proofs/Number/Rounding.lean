import Assay.Proofs.Number.Amount

/-!
# Rounding — the float nearest to an integer

An integer becomes the nearest float.  Beyond the largest float this is an infinity, which takes the
place where the next float would be.

* `roundHalfEven_nearest` and `roundUnits_nearest` state that rounding finds the nearest count;
* `Binary64.IsNearest` says it of floats, and `Binary64.ofInt_isNearest` that integers are rounded so;
* `Binary64.amount?_ofInt_iff` states that an integer keeps its value if and only if it is the value
  of some float, as are all integers of at most 53 bits.
-/

namespace Assay.Binary64

/-! ## Counts -/

/-- No other multiple of the divisor is nearer. -/
theorem roundHalfEven_nearest (n : Nat) {d : Nat} (hd : 0 < d) (z : Nat) :
    ((d * roundHalfEven n d : Nat) - n : Int).natAbs ≤ ((d * z : Nat) - n : Int).natAbs := by
  have hdiv : d * (n / d) + n % d = n := Nat.div_add_mod n d
  have hmod : n % d < d := Nat.mod_lt n hd
  -- The multiple lies at the quotient or below it, or after it.
  have hz : d * z ≤ d * (n / d) ∨ d * (n / d) + d ≤ d * z := by
    rcases Nat.lt_or_ge (n / d) z with hlt | hle
    · exact .inr (Nat.mul_le_mul_left d hlt)
    · exact .inl (Nat.mul_le_mul_left d hle)
  unfold roundHalfEven
  split
  · rw [Nat.mul_add, Nat.mul_one]
    omega
  · omega

/-- No other representable count is nearer. -/
theorem roundUnits_nearest (n : Nat) {r : Nat} (hr : 2 ^ (r.log2 - 52) ∣ r) :
    ((roundUnits n 1 : Nat) - n : Int).natAbs ≤ ((r : Nat) - n : Int).natAbs := by
  have hrounded : roundUnits n 1 =
      2 ^ droppedBits n * roundHalfEven n (2 ^ droppedBits n) := by
    unfold roundUnits
    rw [Nat.div_one, Nat.one_mul, Nat.mul_comm]
  have hnearest := roundHalfEven_nearest n (Nat.two_pow_pos (droppedBits n))
  rw [hrounded]
  by_cases hgrid : 2 ^ droppedBits n ∣ r
  · rcases hgrid with ⟨z, rfl⟩
    exact hnearest z
  · -- The count is too small for the grid, and so below the leading power of two.
    have hlog : r.log2 < n.log2 ∧ 52 ≤ n.log2 := by
      refine Decidable.byContradiction fun hnot => ?_
      have hle : droppedBits n ≤ r.log2 - 52 := by
        unfold droppedBits
        omega
      exact hgrid (Nat.dvd_trans (Nat.pow_dvd_pow 2 hle) hr)
    have hlead : 2 ^ droppedBits n * 2 ^ 52 = 2 ^ n.log2 := by
      rw [← Nat.pow_add, droppedBits, Nat.sub_add_cancel hlog.2]
    have hn : n ≠ 0 := by
      rintro rfl
      simp at hlog
    have hlower : r < 2 ^ n.log2 :=
      Nat.lt_of_lt_of_le Nat.lt_log2_self (Nat.pow_le_pow_right (by decide) hlog.1)
    have hupper : 2 ^ n.log2 ≤ n := Nat.log2_self_le hn
    have hstep := hnearest (2 ^ 52)
    rw [hlead] at hstep
    omega

/-- A representable count stays as it is. -/
theorem roundUnits_of_dvd {n : Nat} (h : 2 ^ (n.log2 - 52) ∣ n) : roundUnits n 1 = n := by
  have hnearest := roundUnits_nearest n h
  omega

theorem exists_overflowUnits_eq : ∃ k, overflowUnits = 2 ^ k := by
  unfold overflowUnits
  exact ⟨_, rfl⟩

/-- A count from the overflow bound on stays there. -/
theorem overflowUnits_le_roundUnits {n : Nat} (h : overflowUnits ≤ n) :
    overflowUnits ≤ roundUnits n 1 := by
  have hpower : 2 ^ (overflowUnits.log2 - 52) ∣ overflowUnits := by
    rcases exists_overflowUnits_eq with ⟨k, hk⟩
    rw [hk, Nat.log2_two_pow]
    exact Nat.pow_dvd_pow 2 (Nat.sub_le k 52)
  have hnearest := roundUnits_nearest n hpower
  omega

/-! ## Floats -/

/-- Where a number lies on the scale of units.  An infinity lies where the float after the largest
one would. -/
def place : Binary64 → Int
  | nan => 0
  | infinity negative => Numeral.signed negative overflowUnits
  | finite negative n _ => Numeral.signed negative n

/-- No finite float lies nearer to so many units. -/
def IsNearest (x : Binary64) (units : Int) : Prop :=
  x ≠ nan ∧ ∀ negative n (h : Representable n),
    (x.place - units).natAbs ≤ ((finite negative n h).place - units).natAbs

theorem signed_true (n : Nat) : Numeral.signed true n = -(n : Int) := rfl

theorem signed_false (n : Nat) : Numeral.signed false n = n := rfl

/-- A natural number is rounded to a nearest double. -/
theorem ofRatio_isNearest (negative : Bool) (n : Nat) :
    (ofRatio negative n 1).IsNearest (Numeral.signed negative n) := by
  have hzero := roundUnits_nearest n representable_zero.1
  unfold ofRatio
  split
  · refine ⟨by simp, fun sign r hr => ?_⟩
    have hnearest := roundUnits_nearest n hr.1
    -- On the other side of zero, zero itself would be nearer.
    cases negative <;> cases sign <;> simp only [place, signed_true, signed_false] <;> omega
  · rename_i hover
    refine ⟨by simp, fun sign r hr => ?_⟩
    have hnearest := roundUnits_nearest n hr.1
    have hrange := hr.2
    cases negative <;> cases sign <;> simp only [place, signed_true, signed_false] <;> omega

theorem signed_units (i : Int) :
    Numeral.signed (decide (i < 0)) (i.natAbs * unitsPerOne) = i * unitsPerOne := by
  by_cases hi : i < 0
  · have hneg : i = -(i.natAbs : Int) := by omega
    rw [decide_eq_true hi, signed_true, Int.natCast_mul, ← Int.neg_mul, ← hneg]
  · have hpos : i = (i.natAbs : Int) := by omega
    rw [decide_eq_false hi, signed_false, Int.natCast_mul, ← hpos]

/-- An integer becomes the nearest float. -/
theorem ofInt_isNearest (i : Int) : (ofInt i).IsNearest (i * unitsPerOne) := by
  rw [← signed_units i]
  exact ofRatio_isNearest _ _

/-- An integer keeps its value if and only if some float has it. -/
theorem amount?_ofInt_iff (i : Int) :
    (ofInt i).amount? = some (.finite (i * unitsPerOne)) ↔
      Representable (i.natAbs * unitsPerOne) := by
  rw [← signed_units i]
  unfold ofInt ofRatio
  constructor
  · intro h
    split at h
    · rename_i hrange
      have hsame : roundUnits (i.natAbs * unitsPerOne) 1 = i.natAbs * unitsPerOne := by
        simp only [amount?, Option.some.injEq, Amount.finite.injEq, Numeral.signed] at h
        split at h <;> omega
      rw [hsame] at hrange
      exact ⟨hsame ▸ pow_log2_dvd_roundUnits _ _, hrange⟩
    · cases h
  · intro h
    have hsame := roundUnits_of_dvd h.1
    rw [dif_pos (hsame.symm ▸ h.2)]
    simp only [amount?, hsame]

/-- The count of a value of a float is representable. -/
theorem representable_of_amount? {x : Binary64} {units : Int}
    (h : x.amount? = some (.finite units)) : Representable units.natAbs := by
  cases x with
  | nan => cases h
  | infinity _ => cases h
  | finite negative n hn =>
      cases h
      cases negative <;> simpa [Numeral.signed] using hn

/-- A whole number that is written in digits is rounded like an integer: what is settled by the
number of its digits is beyond the largest float anyway. -/
theorem ofDecimal_whole (negative : Bool) (n : Nat) :
    ofDecimal negative n 0 = ofRatio negative (n * unitsPerOne) 1 := by
  unfold ofDecimal
  dsimp only
  split
  · rename_i hsmall
    have hzero : n = 0 := hsmall.resolve_right (by omega)
    subst hzero
    have hround : roundUnits (0 * unitsPerOne) 1 = 0 := by
      rw [Nat.zero_mul]
      exact roundUnits_of_dvd (Nat.dvd_zero _)
    simp only [ofRatio, hround]
    rw [dif_pos representable_zero.2]
  · split
    · -- More digits than any finite float has: `10 ^ 310` is beyond `2 ^ 1024`.
      rename_i _ hlong
      have hdigits : ¬ (Nat.toDigits 10 n).length ≤ 310 := by omega
      rw [Nat.length_toDigits_le_iff (by decide) (by decide), Nat.not_lt] at hdigits
      have hpower : 2 ^ 1024 ≤ 10 ^ 310 := by decide +kernel
      have hover : overflowUnits ≤ n * unitsPerOne := by
        calc overflowUnits ≤ 2 ^ 1024 * unitsPerOne := by decide +kernel
          _ ≤ n * unitsPerOne := Nat.mul_le_mul_right _ (Nat.le_trans hpower hdigits)
      unfold ofRatio
      rw [dif_neg (Nat.not_lt.2 (overflowUnits_le_roundUnits hover))]
    · simp

/-- The count of units in one is a power of two, far below the overflow bound. -/
theorem exists_unitsPerOne_eq : ∃ k, unitsPerOne = 2 ^ k ∧ 54 + k ≤ 2098 := by
  unfold unitsPerOne
  exact ⟨_, rfl, by decide⟩

/-- Integers of at most 53 bits are values of floats. -/
theorem representable_of_natAbs_le {i : Int} (h : i.natAbs ≤ 2 ^ 53) :
    Representable (i.natAbs * unitsPerOne) := by
  rcases exists_unitsPerOne_eq with ⟨k, hunits, hk⟩
  rw [hunits]
  refine ⟨pow_log2_dvd_shifted k h, ?_⟩
  calc i.natAbs * 2 ^ k
      ≤ 2 ^ 53 * 2 ^ k := Nat.mul_le_mul_right _ h
    _ < 2 ^ 54 * 2 ^ k := Nat.mul_lt_mul_of_pos_right (by decide) (Nat.two_pow_pos k)
    _ = 2 ^ (54 + k) := (Nat.pow_add ..).symm
    _ ≤ overflowUnits := pow_le_overflowUnits hk

end Assay.Binary64
