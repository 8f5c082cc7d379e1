import Assay.Proofs.Number.Grammar
import Assay.Proofs.Value.Equality

/-!
# Numeric — loose equality of numbers and numerals

Two integers are compared as they are.  As soon as a float takes part, the other side is rounded
first, and so an integer that no float holds equals the float that it is rounded to.

* `looseEq_of_numeric` states that numbers and numerals are compared as numbers, however written;
* `Number.RoundsTo` relates an integer to a float that it equals without having its value;
* `Number.numEq_iff` states that numbers are equal by their values, or by rounding one of them;
* `looseEq_numeric` draws the consequences: for chains of equal values and for membership.
-/

namespace Assay

namespace Number

/-- What is left of a number after rounding. -/
def rounded? (n : Number) : Option Amount := n.toBinary64.amount?

/-- The number is the value of a float. -/
def Exact (n : Number) : Prop := n.rounded? = n.amount?

/-- An integer becomes a float of another value. -/
def RoundsTo (m n : Number) : Prop :=
  ∃ i x, m = int i ∧ n = float x ∧ m.rounded? = n.amount? ∧ ¬ m.Exact

/-- An integer is exact if it is a double. -/
theorem exact_int_iff (i : Int64) :
    (int i).Exact ↔ Representable (i.toInt.natAbs * Binary64.unitsPerOne) :=
  Binary64.amount?_ofInt_iff i.toInt

/-- A value of both an integer and a float is exact. -/
theorem exact_of_amount?_eq {i : Int64} {x : Binary64} (h : (int i).amount? = x.amount?) :
    (int i).Exact := by
  have hcount := Binary64.representable_of_amount? h.symm
  rw [Int.natAbs_mul, Int.natAbs_natCast] at hcount
  exact (exact_int_iff i).2 hcount

/-! ## Comparison -/

/-- A ratio is rounded to an amount, the infinities included. -/
theorem isSome_ofRatio (negative : Bool) (n d : Nat) :
    (Binary64.ofRatio negative n d).amount?.isSome = true := by
  unfold Binary64.ofRatio
  split <;> rfl

theorem isSome_rounded? (i : Int64) : (int i).rounded?.isSome = true := by
  unfold rounded? toBinary64 Binary64.ofInt
  exact isSome_ofRatio _ _ _

theorem exists_shared_iff {p q : Option Amount} (h : p.isSome = true) :
    (∃ amount, p = some amount ∧ q = some amount) ↔ p = q := by
  rcases Option.isSome_iff_exists.1 h with ⟨amount, rfl⟩
  simp [eq_comm]

/-- An integer equals a double exactly if it is rounded to it. -/
theorem numEq_int_float (i : Int64) (x : Binary64) :
    numEq (int i) (float x) = true ↔ (int i).rounded? = x.amount? := by
  rw [numEq_float_right, Binary64.numEq_iff]
  exact exists_shared_iff (isSome_rounded? i)

theorem numEq_floats (x y : Binary64) :
    numEq (float x) (float y) = true ↔
      ∃ amount, x.amount? = some amount ∧ y.amount? = some amount := by
  rw [numEq_float_left]
  exact Binary64.numEq_iff

/-- Unless both are integers, numbers are compared by what is left of them after rounding. -/
theorem numEq_iff_rounded {m n : Number} (h : ∀ i j, m = int i → n = int j → i = j) :
    numEq m n = true ↔ ∃ amount, m.rounded? = some amount ∧ n.rounded? = some amount := by
  cases m with
  | float x =>
      rw [numEq_float_left]
      exact Binary64.numEq_iff
  | int i =>
      cases n with
      | float y =>
          rw [numEq_float_right]
          exact Binary64.numEq_iff
      | int j =>
          cases h i j rfl rfl
          rw [numEq_ints, exists_shared_iff (isSome_rounded? i)]
          exact iff_of_true rfl rfl

/-- Equal numbers are rounded to one amount. -/
theorem rounded?_of_numEq {m n : Number} (h : numEq m n = true) :
    ∃ amount, m.rounded? = some amount ∧ n.rounded? = some amount := by
  refine (numEq_iff_rounded ?_).1 h
  rintro i j rfl rfl
  exact (numEq_ints i j).1 h

/-- An integer equals a double by its amount, or because it is rounded to it. -/
theorem numEq_int_float_iff (i : Int64) (x : Binary64) :
    numEq (int i) (float x) = true ↔
      (int i).amount? = x.amount? ∨ (int i).RoundsTo (float x) := by
  rw [numEq_int_float]
  constructor
  · intro hrounded
    by_cases hexact : (int i).Exact
    · exact .inl (hexact.symm.trans hrounded)
    · exact .inr ⟨i, x, rfl, rfl, hrounded, hexact⟩
  · rintro (hsame | ⟨_, _, _, _, hrounded, _⟩)
    · exact (exact_of_amount?_eq hsame).trans hsame
    · exact hrounded

theorem not_roundsTo_int (m : Number) (j : Int64) : ¬ m.RoundsTo (int j) := by
  rintro ⟨_, _, _, hfloat, _⟩
  cases hfloat

theorem not_float_roundsTo (x : Binary64) (n : Number) : ¬ (float x).RoundsTo n := by
  rintro ⟨_, _, hint, _⟩
  cases hint

/-- Numbers are equal if they have the same value, or if one of them is an integer that is rounded
to the other. -/
theorem numEq_iff (m n : Number) :
    numEq m n = true ↔
      (∃ amount, m.amount? = some amount ∧ n.amount? = some amount) ∨
        m.RoundsTo n ∨ n.RoundsTo m := by
  have hsome : ∀ i, (int i).amount?.isSome = true := fun _ => rfl
  -- Only an integer is rounded, and only to a float.
  have hmixed : ∀ i x, numEq (int i) (float x) = true ↔
      (∃ amount, (int i).amount? = some amount ∧ x.amount? = some amount) ∨
        (int i).RoundsTo (float x) ∨ (float x).RoundsTo (int i) := by
    intro i x
    rw [numEq_int_float_iff, exists_shared_iff (hsome i), or_iff_left (not_float_roundsTo x _)]
  cases m with
  | int i =>
      cases n with
      | int j =>
          rw [numEq_ints, exists_shared_iff (hsome i), amount?_int_inj, or_iff_left]
          exact not_or.2 ⟨not_roundsTo_int _ j, not_roundsTo_int _ i⟩
      | float y => exact hmixed i y
  | float x =>
      cases n with
      | int j =>
          rw [numEq_comm, hmixed j x]
          exact or_congr (exists_congr fun _ => And.comm) Or.comm
      | float y =>
          rw [numEq_floats, or_iff_left]
          · exact Iff.rfl
          · exact not_or.2 ⟨not_float_roundsTo x _, not_float_roundsTo y _⟩

/-! ## Numerals -/

theorem isSome_ofDecimal (negative : Bool) (digits : Nat) (exponent : Int) :
    (Binary64.ofDecimal negative digits exponent).amount?.isSome = true := by
  unfold Binary64.ofDecimal
  dsimp only
  split
  · rfl
  · split
    · rfl
    · split <;> exact isSome_ofRatio _ _ _

/-- A numeral has a value, if only an infinite one. -/
theorem isSome_of_parse? {text : String} {n : Number} (h : parse? text = some n) :
    n.amount?.isSome = true := by
  have hnumeral : ∀ numeral, (ofNumeral numeral).amount?.isSome = true := by
    intro numeral
    unfold ofNumeral
    split
    · rfl
    · exact isSome_ofDecimal _ _ _
  rcases parse?_eq_some_iff.1 h with ⟨numeral, -, rfl⟩
  exact hnumeral numeral

/-- What equals the same number is equal, unless both are integers. -/
theorem numEq_chain_iff {l m n : Number} (hl : numEq l m = true) (hn : numEq m n = true) :
    numEq l n = true ↔ ∀ i j, l = int i → n = int j → i = j := by
  constructor
  · rintro hequal i j rfl rfl
    exact (numEq_ints i j).1 hequal
  · intro hints
    -- After rounding all three are the same.
    rcases rounded?_of_numEq hl with ⟨amount, hleft, hmiddle⟩
    rcases rounded?_of_numEq hn with ⟨other, hmiddle', hright⟩
    cases hmiddle.symm.trans hmiddle'
    exact (numEq_iff_rounded hints).2 ⟨amount, hleft, hright⟩

/-- An exact number is not rounded. -/
theorem not_roundsTo_of_exact {m n : Number} (h : m.Exact) : ¬ m.RoundsTo n := by
  rintro ⟨_, _, _, _, _, hinexact⟩
  exact hinexact h

/-- What an integer is rounded to depends on its amount only. -/
theorem RoundsTo.of_amount?_eq {l m n : Number} (h : l.amount? = m.amount?)
    (hround : l.RoundsTo n) : m.RoundsTo n := by
  rcases hround with ⟨i, x, rfl, rfl, hrounded, hinexact⟩
  cases m with
  | int j =>
      have hsame : i = j := (numEq_ints i j).1 ((numEq_iff _ _).2 (.inl ⟨_, rfl, h.symm⟩))
      exact ⟨j, x, rfl, rfl, hsame ▸ hrounded, hsame ▸ hinexact⟩
  | float y => exact absurd (exact_of_amount?_eq h) hinexact

/-- Numbers of one value equal the same exact numbers. -/
theorem numEq_of_amount?_eq {l m n : Number} (h : l.amount? = m.amount?) (hn : n.Exact) :
    numEq l n = numEq m n := by
  rw [Bool.eq_iff_iff, numEq_iff, numEq_iff, h]
  simp only [not_roundsTo_of_exact hn, or_false]
  exact or_congr_right ⟨.of_amount?_eq h, .of_amount?_eq h.symm⟩

theorem numEq_self {n : Number} (h : n.amount?.isSome = true) : numEq n n = true := by
  rcases Option.isSome_iff_exists.1 h with ⟨amount, hamount⟩
  exact (numEq_iff n n).2 (.inl ⟨amount, hamount, hamount⟩)

end Number

namespace Value

open Number

variable {a b c : Value} {l m n : Number}

/-- However they are written, numbers and numerals are compared as numbers. -/
theorem looseEq_of_numeric (ha : a.numeric? = some l) (hb : b.numeric? = some m) :
    looseEq a b = l.numEq m := by
  have htext : ∀ {number : Number} {text : String} {other : Number},
      parse? text = some other → numberEqText number text = number.numEq other := by
    intro number text other hparse
    rw [numberEqText, hparse]
  -- What is strictly equal is equal as numbers as well.
  have hstrict : ∀ {strict loose : Bool}, (strict = true → loose = true) →
      (strict || loose) = loose := by
    rintro (_ | _) _ h
    · rfl
    · exact (h rfl).symm
  rw [looseEq.eq_def]
  cases a with
  | int i =>
      cases ha
      cases b with
      | int j =>
          cases hb
          exact hstrict fun hsame => (numEq_ints i j).2 (eq_of_beq hsame)
      | float y =>
          cases hb
          exact Bool.false_or _
      | str t =>
          exact (Bool.false_or _).trans (htext hb)
      | _ => cases hb
  | float x =>
      cases ha
      cases b with
      | int j =>
          cases hb
          exact Bool.false_or _
      | float y =>
          cases hb
          exact Bool.or_self _
      | str t =>
          exact (Bool.false_or _).trans (htext hb)
      | _ => cases hb
  | str s =>
      cases b with
      | int j =>
          cases hb
          exact (Bool.false_or _).trans ((htext ha).trans (numEq_comm _ _))
      | float y =>
          cases hb
          exact (Bool.false_or _).trans ((htext ha).trans (numEq_comm _ _))
      | str t =>
          have hnumerals : numeralsEq s t = l.numEq m := by
            change parse? s = some l at ha
            change parse? t = some m at hb
            rw [numeralsEq, ha, hb]
          refine (hstrict fun hsame => ?_).trans hnumerals
          cases eq_of_beq hsame
          cases ha.symm.trans hb
          exact hnumerals.trans (numEq_self (isSome_of_parse? ha))
      | _ => cases hb
  | _ => cases ha

/-- Numbers and numerals, however they are written, are loosely equal if they have the same value, or
if one is an integer that is rounded to the other.  So what equals the same value is equal, unless
both are integers; and values that are the same number are members of the same lists, as long as the
lists hold no integer that would be rounded. -/
theorem looseEq_numeric (ha : a.numeric? = some l) (hb : b.numeric? = some m)
    (hc : c.numeric? = some n) :
    (looseEq a b = true ↔
      (∃ amount, l.amount? = some amount ∧ m.amount? = some amount) ∨
        l.RoundsTo m ∨ m.RoundsTo l) ∧
    (looseEq a b = true → looseEq b c = true →
      (looseEq a c = true ↔ ∀ i j, l = .int i → n = .int j → i = j)) ∧
    (l.amount? = m.amount? → ∀ items : List Value,
      (∀ item ∈ items, ∃ number, item.numeric? = some number ∧ number.Exact) →
        looseContains items a = looseContains items b) := by
  refine ⟨?_, ?_, ?_⟩
  · rw [looseEq_of_numeric ha hb, numEq_iff]
  · intro hab hbc
    rw [looseEq_of_numeric ha hb] at hab
    rw [looseEq_of_numeric hb hc] at hbc
    rw [looseEq_of_numeric ha hc]
    exact numEq_chain_iff hab hbc
  · intro hsame items hitems
    unfold looseContains
    rw [Bool.eq_iff_iff, List.any_eq_true, List.any_eq_true]
    refine exists_congr fun item => and_congr_right fun hitem => ?_
    rcases hitems item hitem with ⟨number, hnumber, hexact⟩
    rw [looseEq_of_numeric ha hnumber, looseEq_of_numeric hb hnumber,
      numEq_of_amount?_eq hsame hexact]

/-- Five, written in three ways, against a list with a fourth. -/
theorem looseEq_numeric_five :
    let items := [str " +5", int 7]
    looseEq (str "5.0") (int 5) = true ∧ looseEq (int 5) (float (.ofInt 5)) = true ∧
      looseEq (str "5.0") (float (.ofInt 5)) = true ∧
      looseContains items (str "5.0") = looseContains items (int 5) := by
  intro items
  have hfive : (str "5.0").numeric? = some (.float (.ofInt 5)) := by decide +kernel
  have htext : (str " +5").numeric? = some (.int 5) := by decide +kernel
  have hexact : ∀ i : Int64, i.toInt.natAbs ≤ 2 ^ 53 → (Number.int i).Exact :=
    fun i hi => (exact_int_iff i).2 (Binary64.representable_of_natAbs_le hi)
  have hamount : (Number.int 5).amount? = (Number.float (.ofInt 5)).amount? :=
    (hexact 5 (by decide)).symm
  have hint : (int 5).numeric? = some (.int 5) := rfl
  have hfloat : (float (.ofInt 5)).numeric? = some (.float (.ofInt 5)) := rfl
  have htheorem := looseEq_numeric hfive hint hfloat
  have hleft := htheorem.1.2 (.inl ⟨_, hamount.symm, rfl⟩)
  have hright : looseEq (int 5) (float (.ofInt 5)) = true :=
    (looseEq_of_numeric hint hfloat).trans ((numEq_iff _ _).2 (.inl ⟨_, rfl, hamount.symm⟩))
  refine ⟨hleft, hright, (htheorem.2.1 hleft hright).2 (by rintro _ _ ⟨⟩), ?_⟩
  refine htheorem.2.2 hamount.symm items fun item hitem => ?_
  rcases List.mem_pair.1 hitem with rfl | rfl
  · exact ⟨_, htext, hexact 5 (by decide)⟩
  · exact ⟨_, rfl, hexact 7 (by decide)⟩

/-- The first integer that no float holds equals the float before it, which equals another one; and
so it is found in a list where it is not. -/
theorem looseEq_not_transitive :
    let small := int 9007199254740992
    let middle := float (.ofInt 9007199254740992)
    let large := int 9007199254740993
    looseEq small middle = true ∧ looseEq middle large = true ∧ looseEq small large = false ∧
      (Number.int 9007199254740992).amount? = (Number.float (.ofInt 9007199254740992)).amount? ∧
      looseContains [large] middle = true ∧ looseContains [large] small = false := by
  intro small middle large
  have hsmall : looseEq small middle = true :=
    (looseEq_of_numeric rfl rfl).trans (by decide +kernel)
  have hlarge : looseEq middle large = true :=
    (looseEq_of_numeric rfl rfl).trans (by decide +kernel)
  have hother : looseEq small large = false :=
    (looseEq_of_numeric rfl rfl).trans (by decide +kernel)
  refine ⟨hsmall, hlarge, hother, by decide +kernel, ?_, ?_⟩
  · exact (Bool.or_false _).trans hlarge
  · exact (Bool.or_false _).trans hother

end Value

end Assay
