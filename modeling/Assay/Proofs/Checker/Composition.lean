import Assay.Proofs.Checker.Suppression
import Assay.Proofs.Rule.Reliance

/-!
# Composition — rules in sequence

A rule hands itself on to each of its filters, but only hooks and trees make use of it.  Without
these, a filter acts as it does in any other rule, and a list of filters can be cut anywhere.

* `Rule.sequence` is a rule of filters with nothing but codes that it ignores;
* `apply_of_readsNoRule` states that a filter acts alike in all rules;
* `applyAll_append` cuts the walk through filters, and `check_append` a check.
-/

namespace Assay

/-- The filter makes use of the rule that it stands in: it hands the rule to hooks, or applies it
to members. -/
def Filter.readsRule {ρ : Type} : Filter ρ → Bool
  | .custom .. => true
  | .arrays shape => shape.tree
  | _ => false

def Rule.sequence (ignored : List String) (filters : List (Filter Rule)) : Rule :=
  ⟨filters, false, false, none, ignored⟩

namespace Checker

variable {checker : Checker} {step : Option Step} {whole other : Rule}

/-! ## The rule that a filter stands in -/

theorem checkOther_of_not_tree {shape : Shape Rule} (flat : shape.tree = false) (next : Step)
    (whole other : Rule) (key : String) (member : Value) :
    checkOther next shape whole key member = checkOther next shape other key member := by
  unfold checkOther
  simp only [flat, Bool.false_and]
  rfl

/-- Only a tree looks at the rule that it is part of. -/
theorem checkContainer_of_not_tree {shape : Shape Rule} (flat : shape.tree = false)
    (step : Option Step) (whole other : Rule) (value : Value) :
    checkContainer step shape whole value = checkContainer step shape other value := by
  have hpresent : ∀ (next : Step) (key : String) (member : Value),
      checkPresent next shape whole key member = checkPresent next shape other key member := by
    intro next key member
    unfold checkPresent
    rw [checkOther_of_not_tree flat next whole other]
  unfold checkContainer checkMembers
  simp only [hpresent]

/-- A filter that does not read its rule acts alike in all rules. -/
theorem apply_of_readsNoRule {filter : Filter Rule} (blind : filter.readsRule = false)
    (whole other : Rule) (value : Value) :
    checker.apply step whole filter value = checker.apply step other filter value := by
  cases filter with
  | arrays shape => exact checkContainer_of_not_tree blind step whole other value
  | custom _ _ => cases blind
  | _ => rfl

/-- The walk through such filters depends only on the codes that the rule ignores. -/
theorem applyAll_of_readsNoRule {filters : List (Filter Rule)}
    (blind : ∀ filter ∈ filters, filter.readsRule = false) (same : whole.ignored = other.ignored)
    (value : Value) :
    checker.applyAll step whole filters value = checker.applyAll step other filters value := by
  induction filters generalizing value with
  | nil => rfl
  | cons filter rest ih =>
      have hrest := ih fun later hlater => blind later (by simp [hlater])
      -- After each filter, the rule is only asked for its codes.
      have hcontinues : ∀ outcome, continues whole outcome = continues other outcome := by
        intro outcome
        unfold continues Rule.ignores
        rw [same]
      rw [applyAll_cons, applyAll_cons, apply_of_readsNoRule (blind filter (by simp)) whole other]
      simp only [hrest, hcontinues]

/-! ## Walks in two parts -/

/-- An outcome with which a rule does not go on has a fault. -/
theorem isOk_of_not_continues {outcome : Outcome} (stops : continues whole outcome = false) :
    outcome.isOk = false := by
  cases hfault : outcome.fault with
  | none => simp [continues, hfault] at stops
  | some fault => simp [Outcome.isOk, hfault]

/-- The second part of a walk begins where the first one ended without a fault. -/
theorem applyAll_append (whole : Rule) (first second : List (Filter Rule)) (value : Value) :
    checker.applyAll step whole (first ++ second) value =
      checker.applyAll step whole first value >>= fun outcome =>
        if outcome.isOk then checker.applyAll step whole second outcome.value
        else pure outcome := by
  induction first generalizing value with
  | nil => rfl
  | cons filter rest ih =>
      rw [List.cons_append, applyAll_cons, applyAll_cons, bind_assoc]
      refine bind_congr fun outcome => ?_
      cases hcontinues : continues whole outcome with
      | true => exact ih outcome.value
      | false =>
          -- The walk ends here, and the fault keeps the second part from beginning.
          simp [isOk_of_not_continues hcontinues]

/-- Without a default, the outcome of a rule is that of its walk. -/
theorem runWith_sequence (ignored : List String) (filters : List (Filter Rule)) (value : Value) :
    checker.runWith step (.sequence ignored filters) value =
      checker.applyAll step (.sequence ignored filters) filters value := by
  rw [runWith_eq]
  simp only [Rule.sequence, withDefault_none, bind_pure]

/-- Filters that do not look at their rule can be run in two parts. -/
theorem runWith_append {ignored : List String} {first second : List (Filter Rule)}
    (blind : ∀ filter ∈ first ++ second, filter.readsRule = false) (value : Value) :
    checker.runWith step (.sequence ignored (first ++ second)) value =
      checker.runWith step (.sequence ignored first) value >>= fun outcome =>
        if outcome.isOk then checker.runWith step (.sequence ignored second) outcome.value
        else pure outcome := by
  -- Each part has a rule of its own, which ignores the same codes.
  have hpart : ∀ part : List (Filter Rule), (∀ filter ∈ part, filter.readsRule = false) →
      ∀ value, checker.applyAll step (.sequence ignored (first ++ second)) part value =
        checker.runWith step (.sequence ignored part) value := by
    intro part hblind value
    have hsame : (Rule.sequence ignored (first ++ second)).ignored =
        (Rule.sequence ignored part).ignored := rfl
    rw [runWith_sequence]
    exact applyAll_of_readsNoRule hblind hsame value
  have hfirst := hpart first fun filter hmem => blind filter (List.mem_append_left second hmem)
  have hsecond := hpart second fun filter hmem => blind filter (List.mem_append_right first hmem)
  rw [runWith_sequence, applyAll_append]
  simp only [hfirst, hsecond]

/-- A check by filters in sequence is a check by the first ones and then, if that leaves no fault,
a check of its value by the others; a fault of the first part is the outcome.  The filters ask no
hooks and are no trees. -/
theorem check_append {checker : Checker} {ignored : List String} {first second : List (Filter Rule)}
    (blind : ∀ filter ∈ first ++ second, filter.readsRule = false) (value : Value) :
    checker.check value (.sequence ignored (first ++ second)) =
      checker.check value (.sequence ignored first) >>= fun outcome =>
        if outcome.isOk then checker.check outcome.value (.sequence ignored second)
        else pure outcome := by
  unfold check
  -- Both parts have the levels that the whole has, for each of them begins at the top.
  cases checker.settings.maxDepth with
  | zero => exact runWith_append blind value
  | succ levels => exact runWith_append blind value

/-- A value below the least one is raised to it and goes on, since the code is ignored.  Then it is
looked into as a container, which it is not. -/
theorem check_append_ignored :
    let first : List (Filter Rule) := [.int, .min (.int 5)]
    let second : List (Filter Rule) := [.max (.int 10), .arrays ⟨[], some Rule.empty, false⟩]
    let both := Rule.sequence ["min"] (first ++ second)
    (∀ filter ∈ first ++ second, filter.readsRule = false) ∧
      (Checker.bare.check (.str "3") (.sequence ["min"] first) World.bare).1 = .ok (.int 5) ∧
      Checker.bare.check (.str "3") both World.bare =
        Checker.bare.check (.int 5) (.sequence ["min"] second) World.bare ∧
      (Checker.bare.check (.str "3") both World.bare).1 = noContainer "Must be an array" := by
  intro first second both
  have hblind : ∀ filter ∈ first ++ second, filter.readsRule = false := by decide
  have hfirst : Checker.bare.check (.str "3") (.sequence ["min"] first) World.bare =
      (.ok (.int 5), World.bare) := rfl
  have happend := @check_append Checker.bare ["min"] first second hblind (.str "3")
  have hboth := congrFun happend World.bare
  exact ⟨hblind, congrArg Prod.fst hfirst, hboth, congrArg Prod.fst (hboth.trans rfl)⟩

end Checker

end Assay
