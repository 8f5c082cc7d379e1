import Assay.Number

/-!
# Amounts — the exact values of numbers

Integers and floats are both whole counts of the smallest float, so that one scale holds the values
of all numbers, without any rounding.

* `Amount` is a place on this scale, or an infinity; a NaN has none;
* `Binary64.numEq_iff` states that floats are compared by their amounts;
* `Number.numEq_ints` and `Number.numEq_float_left`, `Number.numEq_float_right` state that integers
  are compared as they are, and with floats after rounding.
-/

namespace Assay

/-- What a number amounts to: a count of units, or more than any on one side. -/
inductive Amount where
  | finite (units : Int)
  | infinite (negative : Bool)
  deriving DecidableEq

namespace Binary64

def amount? : Binary64 → Option Amount
  | nan => none
  | infinity negative => some (.infinite negative)
  | finite negative n _ => some (.finite (Numeral.signed negative n))

/-- Floats are equal if they amount to the same; the two zeros do, and a NaN amounts to nothing. -/
theorem numEq_iff {x y : Binary64} :
    x.numEq y = true ↔ ∃ amount, x.amount? = some amount ∧ y.amount? = some amount := by
  cases x with
  | nan => simp [numEq, compare?, amount?]
  | infinity a =>
      cases y with
      | nan => simp [numEq, compare?, amount?]
      | infinity b => cases a <;> cases b <;> simp [numEq, compare?, amount?]
      | finite b n hn => cases a <;> simp [numEq, compare?, amount?]
  | finite a m hm =>
      cases y with
      | nan => simp [numEq, compare?, amount?]
      | infinity b => cases b <;> simp [numEq, compare?, amount?]
      | finite b n hn =>
          have hcompare : numEq (finite a m hm) (finite b n hn) =
              (some (compare (Numeral.signed a m) (Numeral.signed b n)) == some .eq) := rfl
          have hamounts : (∃ amount, some (Amount.finite (Numeral.signed a m)) = some amount ∧
              some (Amount.finite (Numeral.signed b n)) = some amount) ↔
                Numeral.signed a m = Numeral.signed b n := by
            simp [eq_comm]
          rw [hcompare, beq_iff_eq, Option.some.injEq, Int.compare_eq_eq]
          exact hamounts.symm

theorem numEq_comm (x y : Binary64) : x.numEq y = y.numEq x := by
  rw [Bool.eq_iff_iff, numEq_iff, numEq_iff]
  exact exists_congr fun _ => And.comm

end Binary64

namespace Number

def amount? : Number → Option Amount
  | int i => some (.finite (i.toInt * Binary64.unitsPerOne))
  | float x => x.amount?

/-- Integers that amount to the same are the same. -/
theorem amount?_int_inj {i j : Int64} : (int i).amount? = (int j).amount? ↔ i = j := by
  constructor
  · intro h
    have hunits := Amount.finite.inj (Option.some.inj h)
    have hpositive : (Binary64.unitsPerOne : Int) ≠ 0 :=
      Int.natCast_ne_zero.2 (Nat.ne_of_gt Binary64.unitsPerOne_pos)
    exact Int64.toInt_inj.1 (Int.eq_of_mul_eq_mul_right hpositive hunits)
  · exact congrArg fun k => (int k).amount?

/-! ## Comparison -/

/-- Integers are compared as they are. -/
theorem numEq_ints (i j : Int64) : numEq (int i) (int j) = true ↔ i = j := by
  simp [numEq, compare?, Int64.toInt_inj]

theorem numEq_float_left (x : Binary64) (n : Number) :
    numEq (float x) n = x.numEq n.toBinary64 := by
  cases n <;> rfl

theorem numEq_float_right (n : Number) (x : Binary64) :
    numEq n (float x) = n.toBinary64.numEq x := by
  cases n <;> rfl

/-- Numeric equality is symmetric. -/
theorem numEq_comm (m n : Number) : numEq m n = numEq n m := by
  cases m with
  | float x => rw [numEq_float_left, numEq_float_right, Binary64.numEq_comm]
  | int i =>
      cases n with
      | float y => rw [numEq_float_left, numEq_float_right, Binary64.numEq_comm]
      | int j => rw [Bool.eq_iff_iff, numEq_ints, numEq_ints, eq_comm]

end Number

end Assay
