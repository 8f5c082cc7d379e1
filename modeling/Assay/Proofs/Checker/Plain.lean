import Assay.Proofs.Checker.Isolation

/-!
# Plain rules — rules that look at nothing but the value

A plain filter neither looks at the world nor calls back into the checker, and a plain rule has only
such filters.

* `Rule.isPlain` tells plain rules;
* `Checker.run_of_isPlain` states that the depth does not matter to them, and
  `Checker.check_ofFilter` what a check by a single plain filter comes to;
* `Rule.Every.of_isPlain` states that neither does the world.
-/

namespace Assay

/-- The filter neither looks at the world nor calls back into the checker. -/
def Filter.isPlain {ρ : Type} : Filter ρ → Bool
  | .arrays _ | .any _ | .entity _ | .custom .. => false
  | _ => true

def Rule.isPlain (rule : Rule) : Bool := rule.filters.all Filter.isPlain

namespace Checker

variable {checker : Checker} {step : Option Step} {whole : Rule}

/-- A plain filter needs neither the world nor the next level. -/
theorem apply_of_isPlain {filter : Filter Rule} (h : filter.isPlain = true) (value : Value) :
    checker.apply step whole filter value = pure (checker.applyPlain filter value) := by
  cases filter with
  | arrays _ => cases h
  | any _ => cases h
  | entity _ => cases h
  | custom _ _ => cases h
  | _ => rfl

theorem applyAll_of_isPlain {filters : List (Filter Rule)}
    (h : ∀ filter ∈ filters, filter.isPlain = true) (value : Value) :
    checker.applyAll step whole filters value = checker.applyAll none whole filters value := by
  induction filters generalizing value with
  | nil => rfl
  | cons filter rest ih =>
      have hrest := ih fun other hother => h other (by simp [hother])
      have happly : ∀ next : Option Step, checker.applyAll next whole (filter :: rest) value =
          checker.apply next whole filter value >>= fun outcome =>
            if continues whole outcome then checker.applyAll next whole rest outcome.value
            else pure outcome := fun _ => rfl
      rw [happly, happly, apply_of_isPlain (h filter (by simp)),
        apply_of_isPlain (h filter (by simp))]
      simp only [hrest]

/-- With however many levels left, a plain rule is checked as at the top. -/
theorem run_of_isPlain {rule : Rule} (h : rule.isPlain = true) (levels : Nat) (value : Value) :
    checker.run levels rule value = checker.check value rule := by
  -- Whatever the levels, the rule is applied as if there were no next one.
  have hnone : ∀ levels, checker.run levels rule value = checker.runWith none rule value := by
    intro levels
    cases levels with
    | zero => rfl
    | succ levels =>
        refine (runWith_eq checker _ rule value).trans ?_
        rw [applyAll_of_isPlain (List.all_eq_true.1 h), ← runWith_eq]
  exact (hnone levels).trans (hnone _).symm

/-- A rule with a single plain filter is that filter. -/
theorem check_ofFilter {filter : Filter Rule} (h : filter.isPlain = true) (value : Value) :
    checker.check value (.ofFilter filter) = pure (checker.applyPlain filter value) := by
  have hrule : (Rule.ofFilter filter).isPlain = true := List.all_eq_true.2 fun other hother =>
    List.mem_singleton.1 hother ▸ h
  rw [← run_of_isPlain hrule 0]
  exact (runWith_ofFilter checker none filter value).trans (apply_of_isPlain h value)

end Checker

/-- A plain filter does not ask the world, and holds no rules that could. -/
theorem Rule.Every.of_isPlain {rule : Rule} (h : rule.isPlain = true) (admits : World → Prop)
    (checker : Checker) : rule.Every (Checker.SettlesFilter admits checker) := by
  have hplain := List.all_eq_true.1 h
  refine .intro (fun filter hfilter => ?_) (fun filter hfilter below hbelow => ?_)
  · cases filter with
    | entity _ => cases hplain _ hfilter
    | custom _ _ => cases hplain _ hfilter
    | _ => trivial
  · cases filter with
    | arrays _ => cases hplain _ hfilter
    | any _ => cases hplain _ hfilter
    | _ => cases hbelow

end Assay
