/-!
# Binary64 — double precision numbers as whole multiples of the smallest one

Every finite binary64 number is a signed whole number of *units*, one unit being `2 ^ -1074`, the
smallest positive subnormal.  Storing that whole number makes comparison, addition and rounding
questions about `Nat` and `Int`; the exponent of a number is read off its binary length.

* `Representable n` says that `n` units have at most 53 significant bits and do not overflow;
* `roundUnits` rounds an exact ratio to the nearest representable count, a tie going to the even
  significand, and `roundUnits_representable` says it stays on the grid;
* `ofRatio`, `ofInt`, `add`, `mul`, `div`, `compare?` are exact arithmetic followed by one rounding.
-/

-- A power is the one of natural numbers, also beside libraries that define powers for whole classes
-- of types.
attribute [instance (high), default_instance (high + 1)] instPowNat

namespace Assay

/-- The first power of two, in units, that is too large: `2 ^ 1024`. -/
def overflowUnits : Nat := 2 ^ 2098

/-- `n` units are a finite magnitude: 53 significant bits, below the overflow bound. -/
def Representable (n : Nat) : Prop := 2 ^ (n.log2 - 52) ∣ n ∧ n < overflowUnits

instance (n : Nat) : Decidable (Representable n) :=
  inferInstanceAs (Decidable (_ ∧ _))

/-- A binary64 number.  All NaNs are one; zero keeps its sign. -/
inductive Binary64 where
  | nan
  | infinity (negative : Bool)
  | finite (negative : Bool) (units : Nat) (representable : Representable units)
  deriving DecidableEq

namespace Binary64

def unitsPerOne : Nat := 2 ^ 1074

theorem unitsPerOne_pos : 0 < unitsPerOne := Nat.two_pow_pos _

/-- Powers of two up to the overflow bound. -/
theorem pow_le_overflowUnits {k : Nat} (h : k ≤ 2098) : 2 ^ k ≤ overflowUnits :=
  Nat.pow_le_pow_right (by decide) h

/-- Zero is a double. -/
theorem representable_zero : Representable 0 :=
  ⟨Nat.dvd_zero _, Nat.lt_of_lt_of_le (Nat.two_pow_pos 0) (pow_le_overflowUnits (by decide))⟩

/-- Positive zero. -/
def zero : Binary64 := .finite false 0 representable_zero

instance : Inhabited Binary64 := ⟨zero⟩

/-! ## Rounding an exact ratio -/

/-- The whole number nearest `n / d`; a tie goes to the even one. -/
def roundHalfEven (n d : Nat) : Nat :=
  if d < 2 * (n % d) ∨ (2 * (n % d) = d ∧ n / d % 2 = 1) then n / d + 1 else n / d

/-- Rounding goes up by at most one. -/
theorem roundHalfEven_le (n d : Nat) : roundHalfEven n d ≤ n / d + 1 := by
  unfold roundHalfEven
  split <;> omega

/-- How many low bits of a count must be zero: those beyond the leading 53. -/
def droppedBits (n : Nat) : Nat := n.log2 - 52

/-- The representable count of units nearest `n / d` units (overflow not yet considered). -/
def roundUnits (n d : Nat) : Nat :=
  roundHalfEven n (d * 2 ^ droppedBits (n / d)) * 2 ^ droppedBits (n / d)

/-- What is left after dropping bits fits into a significand. -/
theorem div_pow_droppedBits_lt (q : Nat) : q / 2 ^ droppedBits q < 2 ^ 53 := by
  apply (Nat.div_lt_iff_lt_mul (Nat.two_pow_pos _)).mpr
  rw [← Nat.pow_add]
  exact Nat.lt_of_lt_of_le Nat.lt_log2_self
    (Nat.pow_le_pow_right (by decide) (by unfold droppedBits; omega))

/-- A significand of at most 53 bits, shifted, fills only its leading 53 bits. -/
theorem pow_log2_dvd_shifted {r : Nat} (s : Nat) (hr : r ≤ 2 ^ 53) :
    2 ^ ((r * 2 ^ s).log2 - 52) ∣ r * 2 ^ s := by
  by_cases h0 : r = 0
  · simp [h0]
  by_cases hlt : r < 2 ^ 53
  · have hpos : r * 2 ^ s ≠ 0 := Nat.mul_ne_zero h0 (Nat.ne_of_gt (Nat.two_pow_pos s))
    have hlog : (r * 2 ^ s).log2 < 53 + s := by
      rw [Nat.log2_lt hpos, Nat.pow_add]
      exact Nat.mul_lt_mul_of_pos_right hlt (Nat.two_pow_pos s)
    exact Nat.dvd_trans (Nat.pow_dvd_pow 2 (by omega)) (Nat.dvd_mul_left _ _)
  · have he : r = 2 ^ 53 := by omega
    subst he
    rw [← Nat.pow_add, Nat.log2_two_pow]
    exact Nat.pow_dvd_pow 2 (by omega)

/-- Rounding lands on the grid. -/
theorem pow_log2_dvd_roundUnits (n d : Nat) :
    2 ^ ((roundUnits n d).log2 - 52) ∣ roundUnits n d := by
  apply pow_log2_dvd_shifted
  refine Nat.le_trans (roundHalfEven_le _ _) ?_
  rw [← Nat.div_div_eq_div_mul]
  exact div_pow_droppedBits_lt _

/-- The number nearest `± n / d` units. -/
def ofRatio (negative : Bool) (n d : Nat) : Binary64 :=
  if h : roundUnits n d < overflowUnits then
    .finite negative (roundUnits n d) ⟨pow_log2_dvd_roundUnits n d, h⟩
  else
    .infinity negative

def ofInt (i : Int) : Binary64 := ofRatio (decide (i < 0)) (i.natAbs * unitsPerOne) 1

def ofNat (n : Nat) : Binary64 := ofRatio false (n * unitsPerOne) 1

/-! ## Views -/

def isFinite : Binary64 → Bool
  | finite .. => true
  | _ => false

/-- Neither zero of either sign; NaN counts as nonzero. -/
def isNonzero : Binary64 → Bool
  | finite _ n _ => n != 0
  | _ => true

/-- The whole part of a finite number, toward zero. -/
def truncate? : Binary64 → Option Int
  | finite negative n _ =>
    let whole : Int := (n / unitsPerOne : Nat)
    some (if negative then -whole else whole)
  | _ => none

/-- The whole part, clamped to 64-bit integers; NaN counts as zero. -/
def toInt64 (x : Binary64) : Int64 :=
  match x with
  | nan => 0
  | infinity negative => if negative then Int64.minValue else Int64.maxValue
  | finite negative n _ =>
    let whole : Int := (n / unitsPerOne : Nat)
    Int64.ofIntClamp (if negative then -whole else whole)

/-- The whole part of a positive number, clamped to `2 ^ 64 - 1`; zero for all others. -/
def toLength : Binary64 → Nat
  | infinity false => 2 ^ 64 - 1
  | finite false n _ => min (n / unitsPerOne) (2 ^ 64 - 1)
  | _ => 0

/-! ## Order -/

/-- The order of the numeric values; none when a NaN takes part.  The two zeros are equal. -/
def compare? : Binary64 → Binary64 → Option Ordering
  | nan, _ | _, nan => none
  | infinity a, infinity b =>
    some (if a = b then .eq else if a then .lt else .gt)
  | infinity a, finite .. => some (if a then .lt else .gt)
  | finite .., infinity b => some (if b then .gt else .lt)
  | finite a m _, finite b n _ =>
    some (compare (if a then -(m : Int) else m) (if b then -(n : Int) else n))

/-- Numeric equality: NaN equals nothing and the zeros are equal. -/
def numEq (x y : Binary64) : Bool := compare? x y == some .eq

/-! ## Arithmetic -/

def neg : Binary64 → Binary64
  | nan => nan
  | infinity negative => infinity !negative
  | finite negative n h => finite (!negative) n h

/-- The rounded sum.  An exact zero is negative only when both terms are. -/
def add : Binary64 → Binary64 → Binary64
  | nan, _ | _, nan => nan
  | infinity a, infinity b => if a = b then infinity a else nan
  | infinity a, finite .. => infinity a
  | finite .., infinity b => infinity b
  | finite a m _, finite b n _ =>
    let sum : Int := (if a then -(m : Int) else m) + (if b then -(n : Int) else n)
    if sum = 0 then .finite (a && b) 0 representable_zero
    else ofRatio (decide (sum < 0)) sum.natAbs 1

def mul : Binary64 → Binary64 → Binary64
  | nan, _ | _, nan => nan
  | infinity a, infinity b => infinity (a != b)
  | infinity a, finite b n _ | finite b n _, infinity a =>
    if n = 0 then nan else infinity (a != b)
  | finite a m _, finite b n _ => ofRatio (a != b) (m * n) unitsPerOne

def div : Binary64 → Binary64 → Binary64
  | nan, _ | _, nan => nan
  | infinity _, infinity _ => nan
  | infinity a, finite b _ _ => infinity (a != b)
  | finite a _ _, infinity b => .finite (a != b) 0 representable_zero
  | finite a m _, finite b n _ =>
    if n = 0 then (if m = 0 then nan else infinity (a != b))
    else ofRatio (a != b) (m * unitsPerOne) n

/-! ## Decimal input -/

def powTen (k : Nat) : Binary64 := ofRatio false (10 ^ k * unitsPerOne) 1

/-- The number nearest `± digits * 10 ^ exponent`.  Values beyond the reach of the format are
settled by their leading decimal place, so the power is never larger than the format itself. -/
def ofDecimal (negative : Bool) (digits : Nat) (exponent : Int) : Binary64 :=
  let top : Int := (Nat.toDigits 10 digits).length + exponent
  if digits = 0 ∨ top ≤ -324 then .finite negative 0 representable_zero
  else if 310 < top then .infinity negative
  else if 0 ≤ exponent then ofRatio negative (digits * 10 ^ exponent.toNat * unitsPerOne) 1
  else ofRatio negative (digits * unitsPerOne) (10 ^ (-exponent).toNat)

/-! ## Interchange format -/

/-- The 64-bit interchange encoding; the quiet NaN stands for all NaNs. -/
def toBits : Binary64 → UInt64
  | nan => 0x7ff8000000000000
  | infinity negative => if negative then 0xfff0000000000000 else 0x7ff0000000000000
  | finite negative n _ =>
    let magnitude := UInt64.ofNat (droppedBits n * 2 ^ 52 + n / 2 ^ droppedBits n)
    if negative then magnitude ||| 0x8000000000000000 else magnitude

/-- A fraction alone is a number of units, as in subnormal doubles. -/
theorem representable_subnormal {f : Nat} (h : f < 2 ^ 52) : Representable f := by
  constructor
  · have : f.log2 - 52 = 0 := by
      by_cases h0 : f = 0
      · simp [h0]
      · have := (Nat.log2_lt h0).mpr h; omega
    simp [this]
  · exact Nat.lt_of_lt_of_le h (pow_le_overflowUnits (by decide))

/-- A fraction behind the leading one is a number of units, scaled by the exponent. -/
theorem representable_normal {f e : Nat} (hf : f < 2 ^ 52) (he : e < 2046) :
    Representable ((2 ^ 52 + f) * 2 ^ e) := by
  constructor
  · exact pow_log2_dvd_shifted e (by omega)
  · calc (2 ^ 52 + f) * 2 ^ e
        < 2 ^ 53 * 2 ^ e := Nat.mul_lt_mul_of_pos_right (by omega) (Nat.two_pow_pos e)
      _ = 2 ^ (53 + e) := (Nat.pow_add ..).symm
      _ ≤ overflowUnits := pow_le_overflowUnits (by omega)

def ofBits (bits : UInt64) : Binary64 :=
  let negative := bits >>> 63 == 1
  let fraction := bits.toNat % 2 ^ 52
  let exponent := bits.toNat / 2 ^ 52 % 2 ^ 11
  if _h0 : exponent = 0 then
    .finite negative fraction (representable_subnormal (Nat.mod_lt _ (Nat.two_pow_pos 52)))
  else if h : exponent - 1 < 2046 then
    .finite negative ((2 ^ 52 + fraction) * 2 ^ (exponent - 1))
      (representable_normal (Nat.mod_lt _ (Nat.two_pow_pos 52)) h)
  else if fraction = 0 then .infinity negative
  else .nan

end Binary64

end Assay
