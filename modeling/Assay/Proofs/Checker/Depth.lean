import Assay.Checker
import Assay.Rule.Typed

/-!
# Depth — runs by the depth of the value

A check begins at depth zero, and every container that it enters takes it one deeper, up to the
greatest depth of the settings.  What the interpreter counts is the levels that are left.

* `Checker.runAt` and `Checker.applyAt` are a rule and a filter at a depth;
* `Checker.stepAt` is the step that they are given, if they may go deeper;
* `Checker.runAt_eq` relates them.
-/

namespace Assay

/-- The checker without hooks and normalizer, with the standard settings. -/
def Checker.bare : Checker := ⟨.standard, .empty, none⟩

/-- The checker with another greatest depth. -/
def Checker.withDepth (checker : Checker) (levels : Nat) : Checker :=
  { checker with settings := { checker.settings with maxDepth := levels } }

/-- The world without a store in which nothing has happened yet. -/
def World.bare : World := ⟨none, []⟩

namespace Checker

variable (checker : Checker) (depth : Nat)

/-- Applies a rule to a value that lies so many containers deep. -/
def runAt : Step := checker.run (checker.settings.maxDepth - depth)

/-- How members are checked, unless the depth is the greatest. -/
def stepAt : Option Step :=
  if depth < checker.settings.maxDepth then some (checker.runAt (depth + 1)) else none

/-- Applies a filter of a rule to a value that lies so many containers deep. -/
def applyAt (whole : Rule) (filter : Filter Rule) (value : Value) : Check :=
  checker.apply (checker.stepAt depth) whole filter value

/-- A rule applies its filters one after another, and then its default. -/
theorem runWith_eq (step : Option Step) (rule : Rule) (value : Value) :
    checker.runWith step rule value =
      checker.applyAll step rule rule.filters value >>= fun outcome =>
        pure (withDefault rule.default outcome) := by
  cases rule
  rfl

/-- The walk through filters begins with the first, and ends there unless the rule goes on. -/
theorem applyAll_cons (step : Option Step) (whole : Rule) (filter : Filter Rule)
    (rest : List (Filter Rule)) (value : Value) :
    checker.applyAll step whole (filter :: rest) value =
      checker.apply step whole filter value >>= fun outcome =>
        if continues whole outcome then checker.applyAll step whole rest outcome.value
        else pure outcome := rfl

/-- The first alternative is taken if it has no fault, and else one of the others. -/
theorem firstAccepted_cons (step : Option Step) (last : Outcome) (rule : Rule) (rest : List Rule)
    (value : Value) :
    checker.firstAccepted step last (rule :: rest) value =
      checker.runWith step rule value >>= fun outcome =>
        if outcome.isOk then pure outcome
        else checker.firstAccepted step outcome rest value := rfl

/-- Without a default and ignored codes, a rule with a single filter is that filter. -/
theorem runWith_ofFilter (step : Option Step) (filter : Filter Rule) (value : Value) :
    checker.runWith step (.ofFilter filter) value =
      checker.apply step (.ofFilter filter) filter value := by
  have hdecides : ∀ outcome : Outcome,
      (if continues (.ofFilter filter) outcome then pure (.ok outcome.value) else pure outcome :
        Check) >>= (fun last => pure (withDefault none last)) = pure outcome := by
    -- The rule goes on exactly if there is no fault, and then nothing is left to do.
    rintro ⟨left, fault⟩
    cases fault with
    | none => rfl
    | some fault =>
        have hstops : continues (.ofFilter filter) ⟨left, some fault⟩ = false := by
          cases hcode : fault.code <;> simp [continues, hcode, Rule.ignores, Rule.ofFilter,
            Rule.withFilter, Rule.empty]
        rw [hstops]
        rfl
  funext world
  exact congrFun (hdecides (checker.apply step (.ofFilter filter) filter value world).1)
    (checker.apply step (.ofFilter filter) filter value world).2

theorem runAt_eq : checker.runAt depth = checker.runWith (checker.stepAt depth) := by
  unfold runAt stepAt
  by_cases hdepth : depth < checker.settings.maxDepth
  · have hlevels : checker.settings.maxDepth - depth =
        checker.settings.maxDepth - (depth + 1) + 1 := by omega
    rw [if_pos hdepth, hlevels]
    rfl
  · have hlevels : checker.settings.maxDepth - depth = 0 := by omega
    rw [if_neg hdepth, hlevels]
    rfl

/-- Above the greatest depth, members are checked one level deeper. -/
theorem stepAt_of_lt {depth : Nat} (hdepth : depth < checker.settings.maxDepth) :
    checker.stepAt depth = some (checker.runAt (depth + 1)) := if_pos hdepth

/-- A container above the greatest depth is checked with the step to the next one. -/
theorem applyAt_arrays {depth : Nat} (hdepth : depth < checker.settings.maxDepth) (whole : Rule)
    (shape : Shape Rule) (value : Value) :
    checker.applyAt depth whole (.arrays shape) value =
      checkContainer (some (checker.runAt (depth + 1))) shape whole value := by
  unfold applyAt
  rw [stepAt_of_lt checker hdepth]
  rfl

end Checker

end Assay
