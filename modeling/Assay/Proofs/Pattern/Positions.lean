import Assay.Pattern.Regular
import Mathlib.Data.Nat.Bitwise

/-!
# Positions — what the step of a pattern computes

A pattern relates the positions where a match begins to those where it ends.  The relation is read
off the pattern, construct by construct, and knows no sets.  The step of the pattern takes a whole
set of positions, as the bits of a number, to the positions that the relation leads to.

* `Regular.Leads` is the relation;
* `Regular.Computes` says that a step follows a relation;
* `Regular.computes_reach` states that the step of a pattern follows the relation of the pattern.
-/

namespace Assay.Regular

variable {σ τ : Type}

/-- A relation so many times in a row. -/
def Repeated (r : Nat → Nat → Prop) : Nat → Nat → Nat → Prop
  | 0, i, j => i = j
  | times + 1, i, j => ∃ k, r i k ∧ Repeated r times k j

/-- A match of the pattern can begin at the first position and end at the second, given where
symbols and assertions hold.  A greatest number of times below the least one counts as that. -/
def Leads (symbolHolds : σ → Nat → Prop) (placeHolds : τ → Nat → Prop) :
    Regular σ τ → Nat → Nat → Prop
  | empty, i, j => i = j
  | symbol s, i, j => symbolHolds s i ∧ i + 1 = j
  | assertion t, i, j => placeHolds t i ∧ i = j
  | seq a b, i, j => ∃ k, a.Leads symbolHolds placeHolds i k ∧ b.Leads symbolHolds placeHolds k j
  | alt a b, i, j => a.Leads symbolHolds placeHolds i j ∨ b.Leads symbolHolds placeHolds i j
  | rep a least most, i, j =>
    ∃ more, (∀ bound ∈ most, more ≤ bound - least) ∧
      Repeated (a.Leads symbolHolds placeHolds) (least + more) i j
  | group a, i, j => a.Leads symbolHolds placeHolds i j

/-! ## Repetition -/

namespace Repeated

variable {r : Nat → Nat → Prop} {i j : Nat}

/-- Repeating so many times and then some more is repeating the sum of times. -/
theorem add_iff {m n : Nat} :
    Repeated r (m + n) i j ↔ ∃ k, Repeated r m i k ∧ Repeated r n k j := by
  induction m generalizing i with
  | zero => simp [Repeated]
  | succ m ih =>
      rw [Nat.add_right_comm]
      simp only [Repeated, ih]
      grind

/-- What holds of no step and is kept by a step in front holds of any number of steps. -/
theorem closed {q : Nat → Nat → Prop} (hnone : ∀ i, q i i)
    (hstep : ∀ i k j, r i k → q k j → q i j) {times : Nat} (h : Repeated r times i j) : q i j := by
  induction times generalizing i with
  | zero =>
      cases h
      exact hnone j
  | succ times ih =>
      obtain ⟨k, hik, hkj⟩ := h
      exact hstep i k j hik (ih hkj)

/-- Steps that do not lead back, nor beyond a length, do so as well many times in a row. -/
theorem bounds {length : Nat} (hstep : ∀ i j, r i j → i ≤ j ∧ j ≤ max i length) {times : Nat}
    (h : Repeated r times i j) : i ≤ j ∧ j ≤ max i length := by
  refine closed (q := fun i j => i ≤ j ∧ j ≤ max i length) ?_ ?_ h
  · intro i
    exact ⟨le_rfl, Nat.le_max_left _ _⟩
  · intro i k j hik hkj
    have hk := hstep i k hik
    omega

/-- Where no step leads back, no more steps are needed than the positions are apart. -/
theorem shortened (hforward : ∀ i j, r i j → i ≤ j) {times : Nat} (h : Repeated r times i j) :
    i ≤ j ∧ ∃ fewer ≤ j - i, Repeated r fewer i j := by
  refine closed (q := fun i j => i ≤ j ∧ ∃ fewer ≤ j - i, Repeated r fewer i j) ?_ ?_ h
  · intro i
    exact ⟨le_rfl, 0, Nat.zero_le _, rfl⟩
  · rintro i k j hik ⟨hkj, fewer, hfewer, hrest⟩
    have hle := hforward i k hik
    refine ⟨hle.trans hkj, ?_⟩
    rcases hle.eq_or_lt with rfl | hlt
    -- A step that stays where it is can be left out.
    · exact ⟨fewer, hfewer, hrest⟩
    · exact ⟨fewer + 1, by omega, k, hik, hrest⟩

end Repeated

/-! ## Bounds -/

variable {symbolHolds : σ → Nat → Prop} {placeHolds : τ → Nat → Prop}

/-- A match ends where it begins or further on, and not beyond a text whose symbols it takes. -/
theorem Leads.bounds {length : Nat} (hsymbols : ∀ s i, symbolHolds s i → i < length)
    {pattern : Regular σ τ} {i j : Nat} (h : pattern.Leads symbolHolds placeHolds i j) :
    i ≤ j ∧ j ≤ max i length := by
  induction pattern generalizing i j with
  | empty =>
      cases h
      exact ⟨le_rfl, Nat.le_max_left _ _⟩
  | symbol s =>
      obtain ⟨hholds, rfl⟩ := h
      exact ⟨Nat.le_succ i, Nat.le_trans (hsymbols s i hholds) (Nat.le_max_right _ _)⟩
  | assertion t =>
      obtain ⟨-, rfl⟩ := h
      exact ⟨le_rfl, Nat.le_max_left _ _⟩
  | seq a b iha ihb =>
      obtain ⟨k, hik, hkj⟩ := h
      have hk := iha hik
      have hj := ihb hkj
      omega
  | alt a b iha ihb => exact h.elim iha ihb
  | rep a least most ih =>
      obtain ⟨more, -, hrepeated⟩ := h
      exact hrepeated.bounds fun i j => ih
  | group a ih => exact ih h

/-! ## Steps -/

/-- A step takes the positions of a set to those that a relation leads to from them. -/
def Computes (step : Nat → Nat) (r : Nat → Nat → Prop) : Prop :=
  ∀ positions j, (step positions).testBit j = true ↔
    ∃ i, positions.testBit i = true ∧ r i j

namespace Computes

variable {step : Nat → Nat} {r : Nat → Nat → Prop}

protected theorem iterate (h : Computes step r) (times : Nat) :
    Computes (Regular.iterate step times) (Repeated r times) := by
  induction times with
  | zero =>
      intro positions j
      simp [Regular.iterate, Repeated]
  | succ times ih =>
      intro positions j
      unfold Regular.iterate
      split
      case isTrue hnowhere => simp [hnowhere]
      case isFalse =>
        rw [ih]
        simp only [h positions, Repeated]
        grind

/-- The closure leads wherever the step leads within so many rounds. -/
protected theorem closure (h : Computes step r) (rounds : Nat) :
    Computes (Regular.closure step rounds) fun i j => ∃ times ≤ rounds, Repeated r times i j := by
  induction rounds with
  | zero =>
      intro positions j
      simp [Regular.closure, Repeated]
  | succ rounds ih =>
      intro positions j
      have hnext : ∀ i, (positions ||| step positions).testBit i = true ↔
          positions.testBit i = true ∨ ∃ k, positions.testBit k = true ∧ r k i := by
        intro i
        simp [Nat.testBit_or, h positions i]
      rw [Regular.closure]
      split
      case isTrue hsettled =>
        -- The positions lead nowhere else, so that more rounds would add nothing.
        constructor
        · intro hj
          exact ⟨j, hj, 0, Nat.zero_le _, rfl⟩
        · rintro ⟨i, hi, times, -, hrepeated⟩
          refine hrepeated.closed (q := fun i j => positions.testBit i → positions.testBit j) ?_ ?_ hi
          · intro i hi
            exact hi
          · intro i k j hik hkj hi
            refine hkj ?_
            rw [← hsettled, hnext]
            exact .inr ⟨i, hi, hik⟩
      case isFalse =>
        -- The first step is taken now, the others from the positions reached by it.
        rw [ih]
        constructor
        · rintro ⟨i, hi, times, htimes, hrepeated⟩
          rcases (hnext i).1 hi with hi | ⟨k, hk, hki⟩
          · exact ⟨i, hi, times, by omega, hrepeated⟩
          · exact ⟨k, hk, times + 1, by omega, i, hki, hrepeated⟩
        · rintro ⟨i, hi, times, htimes, hrepeated⟩
          cases times with
          | zero => exact ⟨i, (hnext i).2 (.inl hi), 0, Nat.zero_le _, hrepeated⟩
          | succ times =>
              obtain ⟨k, hik, hkj⟩ := hrepeated
              exact ⟨k, (hnext k).2 (.inr ⟨i, hi, hik⟩), times, by omega, hkj⟩

end Computes

/-- The step of a pattern follows the relation of the pattern, if symbols hold within the text
only: then a repetition without a bound needs no more rounds than the text has positions. -/
theorem computes_reach {length : Nat} {symbols : σ → Nat} {places : τ → Nat}
    (hsymbols : ∀ s i, (symbols s).testBit i = true → i < length) (pattern : Regular σ τ) :
    Computes ((pattern.map symbols places).reach length)
      (pattern.Leads (fun s i => (symbols s).testBit i = true)
        fun t i => (places t).testBit i = true) := by
  induction pattern with
  | empty =>
      intro positions j
      simp [map, reach, Leads]
  | symbol s =>
      intro positions j
      cases j with
      | zero => simp [map, reach, Leads]
      | succ j => simp [map, reach, Leads, Nat.testBit_shiftLeft]
  | assertion t =>
      intro positions j
      simp [map, reach, Leads]
  | seq a b iha ihb =>
      intro positions j
      simp only [map, reach, Leads, ihb _ j, iha positions]
      grind
  | alt a b iha ihb =>
      intro positions j
      simp only [map, reach, Leads, Nat.testBit_or, Bool.or_eq_true, iha positions j,
        ihb positions j]
      grind
  | rep a least most ih =>
      intro positions j
      simp only [map, reach, Leads, (ih.closure _) _ j, (ih.iterate least) positions]
      constructor
      · rintro ⟨k, ⟨i, hi, hik⟩, times, htimes, hkj⟩
        refine ⟨i, hi, times, ?_, Repeated.add_iff.2 ⟨k, hik, hkj⟩⟩
        rintro bound hbound
        cases hbound
        exact htimes
      · rintro ⟨i, hi, more, hmore, hrepeated⟩
        obtain ⟨k, hik, hkj⟩ := Repeated.add_iff.1 hrepeated
        refine ⟨k, ⟨i, hi, hik⟩, ?_⟩
        cases most with
        | some bound => exact ⟨more, hmore bound rfl, hkj⟩
        | none =>
            -- Any number of times is allowed, but the closure goes through `length + 1` rounds only.
            have hj := (hkj.bounds fun i j hij => hij.bounds hsymbols).2
            obtain ⟨-, fewer, hfewer, hshort⟩ :=
              hkj.shortened fun i j hij => (hij.bounds hsymbols).1
            refine ⟨fewer, ?_, hshort⟩
            simp only [Option.elim_none]
            omega
  | group a ih => exact ih

end Assay.Regular
