import Assay.Proofs.Check.Normal
import Assay.Proofs.Number.Order

/-!
# Neighbours — numbers moved to where a bound allows them

A number that a bound does not allow is replaced: by the bound itself, if this is inclusive, and
otherwise by the number one step beyond it.  Of integers this is the next one, unless the bound lies
at the end of the 64 bits.  There the step leads to a float, and a float is compared with the bound
after rounding, by which they become equal.

* `Moves` says which numbers a check accepts and which one it puts in the place of all others, with
  one lemma for each kind of bound;
* `Moves.settles_iff` states when it accepts what it left;
* `settles_of_integers_iff` states that of integers this fails at the two ends only.
-/

namespace Assay.Check

variable {check : Value → Outcome} {accepted : Number → Prop} {moved bound : Number}

/-- The check accepts some numbers and puts one number in the place of all others. -/
structure Moves (accepted : Number → Prop) (moved : Number) (check : Value → Outcome) : Prop where
  accepts : ∀ n, accepted n → check (.ofNumber n) = .ok (.ofNumber n)
  replaces : ∀ n, ¬accepted n → ∃ fault, check (.ofNumber n) = .fail (.ofNumber moved) fault

/-- A number settles if it is accepted, or else what takes its place is. -/
theorem Moves.settles_iff (h : Moves accepted moved check) (n : Number) :
    Settles check (.ofNumber n) ↔ accepted n ∨ accepted moved := by
  by_cases hn : accepted n
  · refine iff_of_true ?_ (.inl hn)
    rw [Settles, h.accepts n hn]
    exact h.accepts n hn
  · rw [or_iff_right hn]
    rcases h.replaces n hn with ⟨fault, hfirst⟩
    rw [Settles, hfirst]
    constructor
    · intro hsettled
      by_contra hmoved
      rcases h.replaces moved hmoved with ⟨other, hsecond⟩
      -- The second pass has a fault like the first one.
      cases hsecond.symm.trans hsettled
    · exact h.accepts moved

/-! ## The four bounds -/

/-- A check that accepts some numbers, and puts one number in place of the others, moves to it. -/
theorem moves_of_ite [DecidablePred accepted] (fault : Fault)
    (h : ∀ n, check (.ofNumber n) =
      if accepted n then .ok (.ofNumber n) else .fail (.ofNumber moved) fault) :
    Moves accepted moved check where
  accepts n hn := (h n).trans (if_pos hn)
  replaces n hn := ⟨fault, (h n).trans (if_neg hn)⟩

/-- A greatest value puts itself in place of what exceeds it. -/
theorem max_moves (bound : Number) :
    Moves (fun n => n.compare? bound ≠ some .gt) bound (max bound) := by
  refine moves_of_ite (boundFault .max "Must be at most %s" bound) fun n => ?_
  rw [ite_not]
  cases n <;> rfl

theorem min_moves (bound : Number) :
    Moves (fun n => n.compare? bound ≠ some .lt) bound (min bound) := by
  refine moves_of_ite (boundFault .min "Must be at least %s" bound) fun n => ?_
  rw [ite_not]
  cases n <;> rfl

/-- A strict upper bound puts the number below itself in place of what reaches it. -/
theorem less_moves (bound : Number) :
    Moves (fun n => n.compare? bound = some .lt) (bound.offset (-1)) (less bound) := by
  refine moves_of_ite (boundFault .less "Must be less than %s" bound) fun n => ?_
  cases n <;> rfl

theorem more_moves (bound : Number) :
    Moves (fun n => n.compare? bound = some .gt) (bound.offset 1) (more bound) := by
  refine moves_of_ite (boundFault .more "Must be greater than %s" bound) fun n => ?_
  cases n <;> rfl

/-! ## Integers -/

theorem compare?_self_int (i : Int64) : (Number.int i).compare? (.int i) = some .eq := by
  simp [Number.compare?]

/-- One step down leads below an integer, unless it is the least one. -/
theorem offset_pred_lt_iff (i : Int64) :
    ((Number.int i).offset (-1)).compare? (.int i) = some .lt ↔ i ≠ Int64.minValue := by
  constructor
  · -- At the end of the range the step leads to the bound itself, as a float.
    rintro hless rfl
    exact absurd hless (by decide +kernel)
  · intro hi
    have hone : (-1 : Int64).toInt = -1 := by decide
    have hlower := i.le_toInt
    have hupper := i.toInt_lt
    have hend : i.toInt ≠ Int64.minValue.toInt := fun hsame => hi (Int64.toInt_inj.1 hsame)
    rw [Int64.toInt_minValue] at hend
    rcases Number.exists_offset i (-1) (by omega) (by omega) with ⟨j, hoffset, hj⟩
    rw [hoffset, Number.compare?, Option.some.injEq, Int.compare_eq_lt]
    omega

/-- One step up leads above an integer, unless it is the greatest one. -/
theorem offset_succ_gt_iff (i : Int64) :
    ((Number.int i).offset 1).compare? (.int i) = some .gt ↔ i ≠ Int64.maxValue := by
  constructor
  · rintro hgreater rfl
    exact absurd hgreater (by decide +kernel)
  · intro hi
    have hone : (1 : Int64).toInt = 1 := by decide
    have hlower := i.le_toInt
    have hupper := i.toInt_lt
    have hend : i.toInt ≠ Int64.maxValue.toInt := fun hsame => hi (Int64.toInt_inj.1 hsame)
    rw [Int64.toInt_maxValue] at hend
    rcases Number.exists_offset i 1 (by omega) (by omega) with ⟨j, hoffset, hj⟩
    rw [hoffset, Number.compare?, Option.some.injEq, Int.compare_eq_gt]
    omega

/-- What a bound leaves of an integer, it accepts unchanged, unless the bound is exclusive and no
integer of 64 bits lies beyond it. -/
theorem settles_of_integers_iff (bound v : Int64) :
    Settles (max (.int bound)) (.int v) ∧ Settles (min (.int bound)) (.int v) ∧
      (Settles (less (.int bound)) (.int v) ↔ bound ≠ Int64.minValue) ∧
      (Settles (more (.int bound)) (.int v) ↔ bound ≠ Int64.maxValue) := by
  refine ⟨?_, ?_, ?_, ?_⟩
  · refine ((max_moves (.int bound)).settles_iff (.int v)).2 (.inr ?_)
    simp [compare?_self_int]
  · refine ((min_moves (.int bound)).settles_iff (.int v)).2 (.inr ?_)
    simp [compare?_self_int]
  · refine ((less_moves (.int bound)).settles_iff (.int v)).trans ?_
    rw [offset_pred_lt_iff]
    refine or_iff_right_of_imp fun hless => ?_
    -- An integer below the bound is there only if the bound is not the least one.
    rintro rfl
    rw [Number.compare?, Option.some.injEq, Int.compare_eq_lt, Int64.toInt_minValue] at hless
    have hlower := v.le_toInt
    omega
  · refine ((more_moves (.int bound)).settles_iff (.int v)).trans ?_
    rw [offset_succ_gt_iff]
    refine or_iff_right_of_imp fun hgreater => ?_
    -- Nor is there one above the greatest.
    rintro rfl
    rw [Number.compare?, Option.some.injEq, Int.compare_eq_gt, Int64.toInt_maxValue] at hgreater
    have hupper := v.toInt_lt
    omega

/-- Above the greatest integer there is only a float, which is refused in its turn. -/
theorem more_refuses_float :
    let beyond := Value.float (.ofInt (2 ^ 63))
    (more (.int Int64.maxValue) (.int 5)).value = beyond ∧
      (more (.int Int64.maxValue) beyond).isOk = false ∧
      ¬Settles (more (.int Int64.maxValue)) (.int 5) := by
  intro beyond
  have hoffset : (Number.int Int64.maxValue).offset 1 = .float (.ofInt (2 ^ 63)) := by
    decide +kernel
  have hmoves := more_moves (.int Int64.maxValue)
  rw [hoffset] at hmoves
  have hfirst : ¬(Number.int 5).compare? (.int Int64.maxValue) = some .gt := by decide
  have hsecond : ¬(Number.float (.ofInt (2 ^ 63))).compare? (.int Int64.maxValue) = some .gt := by
    decide +kernel
  rcases hmoves.replaces (.int 5) hfirst with ⟨fault, hleft⟩
  rcases hmoves.replaces (.float (.ofInt (2 ^ 63))) hsecond with ⟨other, hagain⟩
  refine ⟨congrArg Outcome.value hleft, congrArg Outcome.isOk hagain, ?_⟩
  rw [show Value.int 5 = .ofNumber (.int 5) from rfl, hmoves.settles_iff]
  exact not_or.2 ⟨hfirst, hsecond⟩

end Assay.Check
