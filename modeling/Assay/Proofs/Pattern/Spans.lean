import Assay.Pattern.Regex
import Assay.Proofs.Pattern.Positions

/-!
# Spans — the parts of a text that match an expression

A part of a text lies between two positions, and whether it matches is told by the relation of the
pattern: a set of characters holds where one of its members stands, and a place where its neighbours
are the right ones.

* `Regex.Spans` is the relation over a text;
* `Regex.isMatch_iff` states that a search finds a match exactly where there is one;
* `Regex.spans_textStart` and `Regex.spans_textEnd` tell where the ends of a text are.
-/

namespace Assay

/-! ## Sets of positions -/

namespace Regular

/-- The marked positions are those of the items that pass the test. -/
theorem testBit_positionsOf {α : Type} (test : α → Bool) (items : List α) (i : Nat) :
    (positionsOf test items).testBit i = true ↔ ∃ item, items[i]? = some item ∧ test item = true := by
  induction items generalizing i with
  | nil => simp [positionsOf]
  | cons item items ih =>
      have hcons : positionsOf test (item :: items) =
          2 * positionsOf test items + if test item then 1 else 0 := rfl
      rw [hcons]
      cases i with
      | zero => cases htest : test item <;> simp [Nat.testBit_zero, htest]
      | succ i =>
          have hrest : (2 * positionsOf test items + if test item then 1 else 0) / 2 =
              positionsOf test items := by
            split <;> omega
          rw [Nat.testBit_succ, hrest, ih]
          simp

theorem testBit_allPositions (length i : Nat) :
    (allPositions length).testBit i = true ↔ i ≤ length := by
  rw [allPositions, Nat.one_shiftLeft, Nat.testBit_two_pow_sub_one, decide_eq_true_eq, Nat.lt_succ_iff]

end Regular

namespace Regex

/-! ## Spans -/

/-- The part of a text between two positions matches a pattern. -/
def Spans (text : List Char) (pattern : Pattern) (i j : Nat) : Prop :=
  pattern.Leads (fun set i => ∃ c, text[i]? = some c ∧ set.contains c.toNat = true)
    (fun place i => ∃ seam, (seams none text)[i]? = some seam ∧ place.holds seam = true) i j

/-- A search finds a match exactly if the pattern spans some part of the text. -/
theorem isMatch_iff (regex : Regex) (text : String) :
    regex.isMatch text = true ↔
      ∃ i ≤ text.toList.length, ∃ j, Spans text.toList regex.pattern i j := by
  -- Symbols hold where a character stands, and so before the end of the text.
  have hsymbols : ∀ (set : CharSet) i,
      (Regular.positionsOf (fun c => set.contains c.toNat) text.toList).testBit i = true →
        i < text.toList.length := by
    intro set i hbit
    obtain ⟨c, hc, -⟩ := (Regular.testBit_positionsOf _ _ _).1 hbit
    exact (List.getElem?_eq_some_iff.1 hc).1
  let places (place : Place) := Regular.positionsOf place.holds (seams none text.toList)
  have hcomputes := @Regular.computes_reach _ _ _ _ places hsymbols regex.pattern
  have hfound : regex.isMatch text = true ↔
      ∃ j, ((regex.pattern.map
        (fun set => Regular.positionsOf (fun c => set.contains c.toNat) text.toList)
        places).reach text.toList.length
          (Regular.allPositions text.toList.length)).testBit j = true := by
    rw [isMatch, bne_iff_ne]
    constructor
    · exact Nat.exists_testBit_of_ne_zero
    · rintro ⟨j, hj⟩ hzero
      rw [hzero, Nat.zero_testBit] at hj
      cases hj
  rw [hfound]
  simp only [hcomputes _ _, Regular.testBit_allPositions, Regular.testBit_positionsOf, Spans, places]
  grind

/-- A sequence spans what its parts span one after the other. -/
theorem spans_seq {text : List Char} {a b : Pattern} {i j : Nat} :
    Spans text (.seq a b) i j ↔ ∃ k, Spans text a i k ∧ Spans text b k j := Iff.rfl

theorem spans_inRow_singleton {text : List Char} {item : Pattern} {i j : Nat} :
    Spans text (.inRow [item]) i j ↔ Spans text item i j := by
  constructor
  · rintro ⟨_, h, rfl⟩
    exact h
  · intro h
    exact ⟨j, h, rfl⟩

/-- Items in a row span what the first ones and then the others span. -/
theorem spans_inRow_append {text : List Char} {first second : List Pattern} {i j : Nat} :
    Spans text (.inRow (first ++ second)) i j ↔
      ∃ k, Spans text (.inRow first) i k ∧ Spans text (.inRow second) k j := by
  induction first generalizing i with
  | nil =>
      constructor
      · intro h
        exact ⟨i, rfl, h⟩
      · rintro ⟨k, rfl, h⟩
        exact h
  | cons item first ih =>
      have hcons : ∀ items k, Spans text (.inRow (item :: items)) i k ↔
          ∃ l, Spans text item i l ∧ Spans text (.inRow items) l k := fun _ _ => Iff.rfl
      simp only [List.cons_append, hcons, ih]
      grind

/-! ## The ends of a text -/

/-- The neighbours of a position: the character before it and the one after it. -/
theorem getElem?_seams (before : Option Char) (text : List Char) {i : Nat} (h : i ≤ text.length) :
    (seams before text)[i]? = some (if i = 0 then before else text[i - 1]?, text[i]?) := by
  induction text generalizing before i with
  | nil =>
      obtain rfl : i = 0 := Nat.le_zero.1 h
      rfl
  | cons c rest ih =>
      cases i with
      | zero => rfl
      | succ i =>
          have hrest := ih (some c) (Nat.le_of_succ_le_succ h)
          cases i with
          | zero => simpa [seams] using hrest
          | succ i => simpa [seams] using hrest

theorem length_seams (before : Option Char) (text : List Char) :
    (seams before text).length = text.length + 1 := by
  induction text generalizing before with
  | nil => rfl
  | cons c rest ih => simp [seams, ih]

/-- An assertion spans nothing, at the places where it holds. -/
theorem spans_assertion {text : List Char} {place : Place} {i j : Nat} :
    Spans text (.assertion place) i j ↔
      i ≤ text.length ∧ place.holds (if i = 0 then none else text[i - 1]?, text[i]?) = true ∧
        i = j := by
  unfold Spans Regular.Leads
  rcases Nat.lt_or_ge text.length i with hout | hin
  · have hnone : (seams none text)[i]? = none := by
      rw [List.getElem?_eq_none_iff, length_seams]
      exact hout
    simp [hnone, Nat.not_le.2 hout]
  · simp [getElem?_seams none text hin, hin]

theorem spans_textStart {text : List Char} {i j : Nat} :
    Spans text (.assertion .textStart) i j ↔ i = 0 ∧ i = j := by
  rw [spans_assertion]
  rcases Nat.eq_zero_or_pos i with rfl | hpos
  · simp [Place.holds]
  · have hne := hpos.ne'
    simp only [Place.holds, hne, if_false, false_and, iff_false, Option.isNone_iff_eq_none,
      List.getElem?_eq_none_iff]
    omega

theorem spans_textEnd {text : List Char} {i j : Nat} :
    Spans text (.assertion .textEnd) i j ↔ i = text.length ∧ i = j := by
  rw [spans_assertion]
  simp only [Place.holds, Option.isNone_iff_eq_none, List.getElem?_eq_none_iff]
  omega

end Regex

end Assay
