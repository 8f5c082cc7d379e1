import Assay.Proofs.Checker.Depth
import Assay.Proofs.World.Settled

/-!
# Suppression — the faults that a rule lets through

A rule drops the faults whose codes it ignores, and a default takes the place of any fault.  So a
fault that is left after a rule was applied says something about the rule.

* `Rule.Lets rule outcome` says what;
* `run_lets` states it of every run, whatever the hooks and the world.
-/

namespace Assay

/-- If the outcome has a fault, the rule has no default and does not ignore the code. -/
def Rule.Lets (rule : Rule) (outcome : Outcome) : Prop :=
  ∀ fault, outcome.fault = some fault →
    rule.default = none ∧ ∀ code, fault.code = some code → rule.ignores code = false

namespace Checker

variable {checker : Checker} {step : Option Step}

/-- A rule that ignores no code goes on only without a fault. -/
theorem continues_of_ignored_eq_nil {whole : Rule} (h : whole.ignored = [])
    (outcome : Outcome) :
    continues whole outcome = outcome.isOk := by
  rcases outcome with ⟨value, fault⟩
  cases fault with
  | none => rfl
  | some fault =>
      cases hcode : fault.code <;> simp [continues, Rule.ignores, Outcome.isOk, h, hcode]

/-- The walk through filters ends without a fault, or at one with which the rule does not go on. -/
theorem applyAll_stops (whole : Rule) (filters : List (Filter Rule)) (value : Value) :
    Ensures (checker.applyAll step whole filters value) fun outcome =>
      outcome.isOk = true ∨ continues whole outcome = false := by
  induction filters generalizing value with
  | nil => exact .pure (.inl rfl)
  | cons filter rest ih =>
      refine .bind (.of_forall (fun _ => trivial) _) fun outcome _ => ?_
      cases hcontinues : continues whole outcome with
      | true => exact ih outcome.value
      | false => exact .pure (.inr hcontinues)

/-- A fault with which a rule does not go on has no code that the rule ignores. -/
theorem unignored_of_stops {whole : Rule} {outcome : Outcome}
    (hstops : outcome.isOk = true ∨ continues whole outcome = false) {fault : Fault}
    (hfault : outcome.fault = some fault) {code : String} (hcode : fault.code = some code) :
    whole.ignores code = false := by
  rcases hstops with hok | hstop
  · simp [Outcome.isOk, hfault] at hok
  · simpa [continues, hfault, hcode] using hstop

theorem withDefault_none (outcome : Outcome) : withDefault none outcome = outcome := by
  rcases outcome with ⟨value, fault⟩
  cases fault <;> rfl

/-- With a default nothing is refused. -/
theorem fault_withDefault_some (value : Value) (outcome : Outcome) :
    (withDefault (some value) outcome).fault = none := by
  rcases outcome with ⟨left, fault⟩
  cases fault <;> rfl

/-- No rule fails with a code that it ignores. -/
theorem runWith_lets (rule : Rule) (value : Value) :
    Ensures (checker.runWith step rule value) rule.Lets := by
  rw [runWith_eq]
  refine .bind (applyAll_stops rule rule.filters value) fun outcome hstops => .pure ?_
  intro fault hfault
  -- Only where there is no default is the fault of the walk kept.
  cases hdefault : rule.default with
  | none =>
      rw [hdefault, withDefault_none] at hfault
      exact ⟨rfl, fun code hcode => unignored_of_stops hstops hfault hcode⟩
  | some default =>
      rw [hdefault, fault_withDefault_some] at hfault
      cases hfault

/-- What is left of a fault after a run, the rule neither ignores nor replaces. -/
theorem run_lets (levels : Nat) (rule : Rule) (value : Value) :
    Ensures (checker.run levels rule value) rule.Lets := by
  cases levels with
  | zero => exact runWith_lets rule value
  | succ levels => exact runWith_lets rule value

end Checker

end Assay
