import Assay.Proofs.Checker.Isolation
import Assay.Proofs.Rule.Reliance
import Assay.Rule.Typed

/-!
# Transparency — filters that no hook answers for

Where no hooks are registered, the filters that are left to hooks let every value pass.  They can be
left out of a rule at every depth.  In a tree this changes the rule that members are checked by, so
that the two runs are compared as a whole.

* `checkContainer_map` states that a container does nothing with rules but to hand them on;
* `runWith_withoutCustom` relates the runs at one level, and `run_withoutCustom` at all levels;
* `check_withoutCustom` is the result.
-/

namespace Assay.Checker

/-! ## Containers -/

section Containers

variable {f : Rule → Rule} (next : Step) (shape : Shape Rule) (whole : Rule)

theorem checkOther_map (key : String) (member : Value) :
    checkOther next (shape.map f) (f whole) key member =
      checkOther (fun rule => next (f rule)) shape whole key member := by
  rcases shape with ⟨members, others, tree⟩
  cases others <;> rfl

theorem checkPresent_map (hforbidden : ∀ rule, (f rule).forbidden = rule.forbidden) (key : String)
    (member : Value) :
    checkPresent next (shape.map f) (f whole) key member =
      checkPresent (fun rule => next (f rule)) shape whole key member := by
  have hlookup : (shape.map f).members.lookup key = (shape.members.lookup key).map f :=
    Entries.lookup_map f shape.members key
  unfold checkPresent
  rw [hlookup]
  cases shape.members.lookup key with
  | none => exact checkOther_map next shape whole key member
  | some rule =>
      dsimp only [Option.map_some]
      rw [hforbidden]

theorem missing_map (hrequired : ∀ rule, (f rule).required = rule.required)
    (hforbidden : ∀ rule, (f rule).forbidden = rule.forbidden) (keys : List String) :
    missing (shape.map f) keys =
      (missing shape keys).map fun entry => (entry.1, f entry.2) := by
  unfold missing Shape.map
  rw [List.filter_map]
  simp only [Function.comp_def, hrequired, hforbidden]

/-- Changing the rules of a shape comes to the same as changing them when they are applied. -/
theorem checkMembers_map (hrequired : ∀ rule, (f rule).required = rule.required)
    (hforbidden : ∀ rule, (f rule).forbidden = rule.forbidden)
    (entries : List (String × Value)) :
    checkMembers next (shape.map f) (f whole) entries =
      checkMembers (fun rule => next (f rule)) shape whole entries := by
  unfold checkMembers
  rw [missing_map shape hrequired hforbidden, List.mapM_map]
  simp only [checkPresent_map next shape whole hforbidden]
  rfl

/-- A container asks of a rule only whether its member may be there and must be there.  Everything
else is left to the step: to change the rules is to change the step. -/
theorem checkContainer_map (step : Option Step)
    (hrequired : ∀ rule, (f rule).required = rule.required)
    (hforbidden : ∀ rule, (f rule).forbidden = rule.forbidden) (value : Value) :
    checkContainer step (shape.map f) (f whole) value =
      checkContainer (step.map fun next rule => next (f rule)) shape whole value := by
  unfold checkContainer
  cases entries? value with
  | none => rfl
  | some container =>
      rcases container with ⟨entries, build⟩
      cases step with
      | none => rfl
      | some next =>
          dsimp only [Option.map_some]
          rw [checkMembers_map next shape whole hrequired hforbidden]

end Containers

/-! ## Rules -/

variable {checker : Checker}

/-- Without hooks a filter that needs them lets the value pass. -/
theorem apply_of_hookless (hookless : checker.registry.isEmpty = true) {filter : Filter Rule}
    (needs : filter.collaborator? = some .hooks) (step : Option Step) (whole : Rule)
    (value : Value) : checker.apply step whole filter value = pure (.ok value) := by
  cases filter with
  | custom name arguments => exact checkCustom_of_isEmpty hookless name arguments whole value
  | _ => cases needs

/-- The codes that the rule ignores are the same. -/
theorem continues_withoutCustom (whole : Rule) (outcome : Outcome) :
    continues whole.withoutCustom outcome = continues whole outcome := by
  cases whole
  rfl

theorem firstAccepted_withoutCustom {step step' : Option Step} {alternatives : List Rule}
    (h : ∀ rule ∈ alternatives, ∀ value,
      checker.runWith step rule.withoutCustom value = checker.runWith step' rule value)
    (last : Outcome) (value : Value) :
    checker.firstAccepted step last (alternatives.map Rule.withoutCustom) value =
      checker.firstAccepted step' last alternatives value := by
  induction alternatives generalizing last with
  | nil => rfl
  | cons rule rest ih =>
      have hrest := ih fun other hother => h other (by simp [hother])
      have hfirst := h rule (by simp) value
      rw [List.map_cons, firstAccepted_cons, firstAccepted_cons, hfirst]
      simp only [hrest]

/-- A filter that asks no hooks is the same without those below it. -/
theorem apply_withoutCustom {step : Option Step} {whole : Rule} {filter : Filter Rule}
    (other : filter.collaborator? ≠ some .hooks)
    (hheld : ∀ rule ∈ filter.rules, ∀ value,
      checker.runWith step rule.withoutCustom value =
        checker.runWith (step.map fun next rule => next rule.withoutCustom) rule value)
    (value : Value) :
    checker.apply step whole.withoutCustom filter.withoutCustom value =
      checker.apply (step.map fun next rule => next rule.withoutCustom) whole filter value := by
  cases filter with
  | arrays shape =>
      -- In a tree the rule around is applied again: it has been changed as those in the shape.
      rw [Filter.withoutCustom_arrays]
      exact checkContainer_map shape whole step Rule.required_withoutCustom
        Rule.forbidden_withoutCustom value
  | any alternatives =>
      rw [Filter.withoutCustom_any]
      exact firstAccepted_withoutCustom hheld (.ok value) value
  | custom _ _ => exact absurd rfl other
  | _ => rfl

/-- The walk through the filters that are left is the walk through all: those between let the value
pass as it is. -/
theorem applyAll_withoutCustom (hookless : checker.registry.isEmpty = true) {step : Option Step}
    {whole : Rule} {filters : List (Filter Rule)}
    (hheld : ∀ filter ∈ filters, ∀ rule ∈ filter.rules, ∀ value,
      checker.runWith step rule.withoutCustom value =
        checker.runWith (step.map fun next rule => next rule.withoutCustom) rule value)
    (value : Value) :
    checker.applyAll step whole.withoutCustom (filtersWithoutCustom filters) value =
      checker.applyAll (step.map fun next rule => next rule.withoutCustom) whole filters
        value := by
  induction filters generalizing value with
  | nil => rfl
  | cons filter rest ih =>
      have hrest := ih fun other hother => hheld other (by simp [hother])
      rw [filtersWithoutCustom, applyAll_cons]
      by_cases hhooks : filter.collaborator? = some .hooks
      · -- Left out on one side, the filter lets the value pass on the other.
        rw [if_pos hhooks, apply_of_hookless hookless hhooks, pure_bind]
        exact hrest value
      · rw [if_neg hhooks, applyAll_cons, apply_withoutCustom hhooks (hheld filter (by simp))]
        simp only [hrest, continues_withoutCustom]

/-- Without hooks, their filters can be left out of a rule, by induction on the rule. -/
theorem runWith_withoutCustom (hookless : checker.registry.isEmpty = true) (step : Option Step)
    (rule : Rule) (value : Value) :
    checker.runWith step rule.withoutCustom value =
      checker.runWith (step.map fun next rule => next rule.withoutCustom) rule value := by
  induction rule using Rule.nested_induction generalizing value with
  | step rule ih =>
      rw [runWith_eq, runWith_eq, Rule.filters_withoutCustom, Rule.default_withoutCustom,
        applyAll_withoutCustom hookless ih]

/-- At every level: there the rules that are met have been changed in the same way. -/
theorem run_withoutCustom (hookless : checker.registry.isEmpty = true) (levels : Nat) (rule : Rule)
    (value : Value) :
    checker.run levels rule.withoutCustom value = checker.run levels rule value := by
  induction levels generalizing rule value with
  | zero => exact runWith_withoutCustom hookless none rule value
  | succ levels ih =>
      -- The next level makes no difference between a rule and the changed one.
      have hstep : (fun rule : Rule => checker.run levels rule.withoutCustom) =
          checker.run levels := by
        funext other member
        exact ih other member
      calc
        checker.run (levels + 1) rule.withoutCustom value
            = checker.runWith (some (checker.run levels)) rule.withoutCustom value := rfl
        _ = checker.runWith (some fun rule => checker.run levels rule.withoutCustom) rule value :=
          runWith_withoutCustom hookless _ rule value
        _ = checker.runWith (some (checker.run levels)) rule value := by rw [hstep]
        _ = checker.run (levels + 1) rule value := rfl

/-- Where no hooks are registered, the filters that need hooks can be left out of a rule at every
depth: none of them is left, and every check comes to the same outcome in the same world. -/
theorem check_withoutCustom {checker : Checker} (hookless : checker.registry.isEmpty = true)
    (rule : Rule) :
    ¬rule.withoutCustom.ReliesOn .hooks ∧
      ∀ value, checker.check value rule.withoutCustom = checker.check value rule :=
  ⟨rule.not_reliesOn_withoutCustom, fun value => run_withoutCustom hookless _ rule value⟩

/-- A tree with filters for hooks in the rule itself, in the rule of a key and in an alternative of
the rule for other keys.  The tree applies the changed rule to the list below. -/
theorem check_withoutCustom_tree :
    let slug := Rule.string.custom "slug" []
    let others := Rule.any [Rule.int.custom "even" [], Rule.bool]
    let rule := (Rule.ofFilter (.custom "known" [])).withFilter
      (.arrays ⟨[("name", slug)], some others, true⟩)
    let plain := Rule.ofFilter
      (.arrays ⟨[("name", Rule.string)], some (Rule.any [Rule.int, Rule.bool]), true⟩)
    let input := Value.map [("name", .int 5), ("rest", .list [.str "x", .int 2])]
    Checker.bare.registry.isEmpty = true ∧ rule.withoutCustom = plain ∧
      ¬plain.ReliesOn .hooks ∧ Checker.bare.check input plain = Checker.bare.check input rule := by
  intro slug others rule plain input
  have hplain : rule.withoutCustom = plain := rfl
  have hchecks := @check_withoutCustom Checker.bare rfl rule
  rw [hplain] at hchecks
  exact ⟨rfl, hplain, hchecks.1, hchecks.2 input⟩

end Assay.Checker
