import Assay.Proofs.Checker.Depth
import Assay.Proofs.Container.Congruence
import Assay.Proofs.World.Settled

/-!
# Agreement — two runs of one rule

Two checkers run the same rule, each in its own world.  The interpreter itself treats them alike, so
that their runs can only come apart at a filter that reads something in which they differ.

* `Checker.FilterAgrees` says that they do not come apart at a filter;
* `Checker.agreement` takes agreement through containers, and `firstAccepted_agree` and
  `applyAll_agree` take it through the rest of the interpreter;
* `run_agree` lifts agreement from the filters in a rule to its runs;
* `run_withDepth` states that a run depends on the levels that are left, and not on the settings.
-/

namespace Assay.Checker

variable {related : World → World → Prop} {checker other : Checker}

/-- The filter makes no difference between two checkers, by itself.  A filter that calls back into
the checker differs only where the rules that it holds do. -/
def FilterAgrees (related : World → World → Prop) (checker other : Checker) :
    Filter Rule → Prop
  | .arrays _ | .any _ => True
  | filter => ∀ whole value,
      Agree related (checker.apply none whole filter value) (other.apply none whole filter value)

/-- Agreement goes through containers. -/
def agreement (related : World → World → Prop) : Congruence (StateM World) (StateM World) :=
  ⟨Agree related, .pure, .bind⟩

/-! ## Rules -/

variable {step step' : Option Step} {whole : Rule}

/-- Checkers that agree on the alternatives agree on the first accepted one. -/
theorem firstAccepted_agree {alternatives : List Rule}
    (h : ∀ rule ∈ alternatives, ∀ value,
      Agree related (checker.runWith step rule value) (other.runWith step' rule value))
    (last : Outcome) (value : Value) :
    Agree related (checker.firstAccepted step last alternatives value)
      (other.firstAccepted step' last alternatives value) := by
  induction alternatives generalizing last with
  | nil => exact .pure last
  | cons rule rest ih =>
      refine .bind (h rule (by simp) value) fun outcome => ?_
      -- Both have the same outcome here, so that they stop at the same alternative.
      cases outcome.isOk with
      | true => exact .pure outcome
      | false => exact ih (fun later hlater => h later (by simp [hlater])) outcome

/-- A filter agrees if it does so by itself, and so do the rules it holds and the next level. -/
theorem apply_agree {filter : Filter Rule} (hfilter : FilterAgrees related checker other filter)
    (hheld : ∀ rule ∈ filter.rules, ∀ value,
      Agree related (checker.runWith step rule value) (other.runWith step' rule value))
    (hstep : ∀ rule, rule = whole ∨ rule ∈ filter.rules → (agreement related).StepRelated step step' rule)
    (value : Value) :
    Agree related (checker.apply step whole filter value)
      (other.apply step' whole filter value) := by
  cases filter with
  | any alternatives => exact firstAccepted_agree hheld (.ok value) value
  | arrays shape => exact (agreement related).checkContainer hstep value
  | _ => exact hfilter whole value

/-- The walks agree if every filter on the way does. -/
theorem applyAll_agree {filters : List (Filter Rule)}
    (h : ∀ filter ∈ filters, ∀ value,
      Agree related (checker.apply step whole filter value) (other.apply step' whole filter value))
    (value : Value) :
    Agree related (checker.applyAll step whole filters value)
      (other.applyAll step' whole filters value) := by
  induction filters generalizing value with
  | nil => exact .pure _
  | cons filter rest ih =>
      refine .bind (h filter (by simp) value) fun outcome => ?_
      cases continues whole outcome with
      | true => exact ih (fun later hlater => h later (by simp [hlater])) outcome.value
      | false => exact .pure outcome

/-- Agreement passes from the next level to this one, by induction on the rule. -/
theorem runWith_agree
    (hstep : ∀ rule, rule.Every (FilterAgrees related checker other) →
      (agreement related).StepRelated step step' rule)
    (rule : Rule) (hrule : rule.Every (FilterAgrees related checker other)) (value : Value) :
    Agree related (checker.runWith step rule value) (other.runWith step' rule value) := by
  induction rule using Rule.nested_induction generalizing value with
  | step rule ih =>
      rw [runWith_eq, runWith_eq]
      refine .bind (applyAll_agree (fun filter hfilter value => ?_) value) fun _ => .pure _
      have hheld := hrule.held filter hfilter
      refine apply_agree (hrule.own filter hfilter) ?_ ?_ value
      · intro held hmem
        exact ih filter hfilter held hmem (hheld held hmem)
      · intro next hnext
        -- Members at the next level meet a rule of the shape, or in a tree this one again.
        rcases hnext with rfl | hmem
        · exact hstep _ hrule
        · exact hstep next (hheld next hmem)

/-- Where the filters in a rule make no difference between two checkers, its runs agree.  The
members at the next level meet rules that this one holds, or in a tree this one again. -/
theorem run_agree (levels : Nat) {rule : Rule}
    (hrule : rule.Every (FilterAgrees related checker other)) (value : Value) :
    Agree related (checker.run levels rule value) (other.run levels rule value) := by
  -- The step of the next level must agree on every rule of this kind, and not only on this one.
  induction levels generalizing rule value with
  | zero => exact runWith_agree (fun _ _ => .none) rule hrule value
  | succ levels ih =>
      refine runWith_agree (fun next hnext => .some ?_) rule hrule value
      exact fun value => ih hnext value

/-! ## Levels that are left -/

/-- The greatest depth of the settings has no part in a run with so many levels left. -/
theorem run_withDepth (checker : Checker) (depth levels : Nat) (rule : Rule) (value : Value) :
    (checker.withDepth depth).run levels rule value = checker.run levels rule value := by
  have hfilter : ∀ filter, FilterAgrees Eq (checker.withDepth depth) checker filter := by
    intro filter
    -- No filter by itself asks how many levels there may be.
    cases filter with
    | arrays _ => trivial
    | any _ => trivial
    | _ => exact fun whole value => Agree.eq_iff.2 rfl
  exact Agree.eq_iff.1 (run_agree levels (.of_forall hfilter rule) value)

end Assay.Checker
