import Assay.Proofs.Checker.Isolation

/-!
# Alternatives — the first outcome without a fault

Alternatives are tried in turn on the same value and at the same depth.  Where no hook is asked and
nothing is looked up, what one of them comes to does not depend on those before it: each has its
outcome, and the filter picks one of these.

* `Outcome.chosen` picks an outcome from a list;
* `Outcome.chosen_append`, `Outcome.chosen_accepted` and `Outcome.chosen_pair` are its laws;
* `Checker.firstAccepted_settled` states that the filter picks so, and `Checker.any_chooses` what
  this means for alternatives that are nested or added.
-/

namespace Assay

namespace Outcome

/-- The first outcome without a fault, else the last one; of no outcomes the one that is given. -/
def chosen (given : Outcome) (outcomes : List Outcome) : Outcome :=
  (outcomes.find? isOk).getD (outcomes.getLastD given)

variable {first : Outcome} {outcomes others : List Outcome}

/-- Without alternatives, what was given is chosen. -/
@[simp] theorem chosen_nil (given : Outcome) : chosen given [] = given := rfl

/-- One after the other: an outcome with a fault is given to the choice between those after it. -/
theorem chosen_cons (given first : Outcome) (others : List Outcome) :
    chosen given (first :: others) = if first.isOk then first else chosen first others := by
  unfold chosen
  cases hfirst : first.isOk with
  | true => simp [hfirst]
  | false => simp [hfirst, List.getLastD_eq_getLast?, List.getLast?_cons]

/-- Where there are outcomes, it does not matter which one is given. -/
theorem chosen_of_ne_nil (nonempty : outcomes ≠ []) (given other : Outcome) :
    chosen given outcomes = chosen other outcomes := by
  cases outcomes with
  | nil => exact absurd rfl nonempty
  | cons first rest => simp only [chosen_cons]

/-- A choice can be made in two parts: what the first part leaves is given to the second one, unless
it has no fault. -/
theorem chosen_append (nonempty : outcomes ≠ []) (given : Outcome) (others : List Outcome) :
    chosen given (outcomes ++ others) =
      if (chosen given outcomes).isOk then chosen given outcomes
      else chosen (chosen given outcomes) others := by
  induction outcomes generalizing given with
  | nil => exact absurd rfl nonempty
  | cons first rest ih =>
      rw [List.cons_append, chosen_cons, chosen_cons]
      cases hfirst : first.isOk with
      | true => simp [hfirst]
      | false =>
          cases rest with
          | nil => simp [hfirst]
          | cons next rest => simpa using ih (List.cons_ne_nil next rest) first

/-- What comes after an outcome without a fault does not matter. -/
theorem chosen_accepted (accepted : first.isOk = true) (given : Outcome)
    (before after others : List Outcome) :
    chosen given (before ++ first :: after) = chosen given (before ++ first :: others) := by
  induction before generalizing given with
  | nil => simp [chosen_cons, accepted]
  | cons other before ih => simp only [List.cons_append, chosen_cons, ih]

/-- The choice between what two lists come to is the choice from both lists. -/
theorem chosen_pair (nonempty : outcomes ≠ []) (nonempty' : others ≠ []) (given : Outcome) :
    chosen given [chosen given outcomes, chosen given others] =
      chosen given (outcomes ++ others) := by
  have hlast : chosen (chosen given outcomes) others = chosen given others :=
    chosen_of_ne_nil nonempty' _ _
  have hsingle : chosen (chosen given outcomes) [chosen given others] = chosen given others := by
    rw [chosen_cons, chosen_nil, ite_self]
  calc chosen given [chosen given outcomes, chosen given others]
      = if (chosen given outcomes).isOk then chosen given outcomes else chosen given others := by
        rw [chosen_cons, hsingle]
    _ = chosen given (outcomes ++ others) := by rw [chosen_append nonempty, hlast]

end Outcome

namespace Checker

variable {checker : Checker} {step : Option Step} {admits : World → Prop}

/-- Alternatives of which each settles at an outcome settle at the one that is chosen. -/
theorem firstAccepted_settled {outcome : Rule → Outcome} {alternatives : List Rule} {value : Value}
    (h : ∀ rule ∈ alternatives, Settled admits (checker.runWith step rule value) (outcome rule))
    (last : Outcome) :
    Settled admits (checker.firstAccepted step last alternatives value)
      (Outcome.chosen last (alternatives.map outcome)) := by
  induction alternatives generalizing last with
  | nil => exact .pure last
  | cons rule rest ih =>
      have hrest := ih fun other hother => h other (List.mem_cons_of_mem _ hother)
      rw [List.map_cons, Outcome.chosen_cons, firstAccepted_cons]
      apply (h rule List.mem_cons_self).bind
      -- A refusal is kept as the last outcome, but its value is not: the next rule gets `value`.
      cases (outcome rule).isOk with
      | true => exact .pure (outcome rule)
      | false => exact hrest (outcome rule)

variable (checker)

/-- What each of the alternatives comes to by itself. -/
def outcomesAt (depth : Nat) (alternatives : List Rule) (value : Value) (world : World) :
    List Outcome :=
  alternatives.map fun rule => (checker.runAt depth rule value world).1

variable {checker}

/-- A rule that offers alternatives and does nothing else. -/
theorem runAt_any (depth : Nat) (whole : Rule) (alternatives : List Rule) (value : Value) :
    checker.runAt depth (.any alternatives) value =
      checker.applyAt depth whole (.any alternatives) value := by
  rw [runAt_eq]
  exact runWith_ofFilter checker _ (.any alternatives) value

/-- Without hooks and store, the outcome of `any` is the chosen alternative. -/
theorem applyAt_any (hookless : checker.registry.isEmpty = true) {world : World}
    (storeless : world.store = none) (depth : Nat) (whole : Rule) (alternatives : List Rule)
    (value : Value) :
    checker.applyAt depth whole (.any alternatives) value world =
      (Outcome.chosen (.ok value) (checker.outcomesAt depth alternatives value world), world) := by
  have hsettled : ∀ rule ∈ alternatives, Settled (·.store = none)
      (checker.runWith (checker.stepAt depth) rule value)
      (checker.runAt depth rule value world).1 := by
    intro rule _
    rw [← runAt_eq]
    exact run_settled_of_isolated hookless _ rule value storeless
  exact firstAccepted_settled hsettled (.ok value) world storeless

/-- Without hooks and a store, the outcome of alternatives is that of the first one which has no
fault for the value, at whatever depth, and else that of the last one; without alternatives the
value passes.  So it makes no difference whether alternatives are offered in two groups or in a row,
nor what is offered after one that accepts the value. -/
theorem any_chooses {checker : Checker} {world : World} (hookless : checker.registry.isEmpty = true)
    (storeless : world.store = none) (depth : Nat) (whole : Rule) (value : Value) :
    (∀ alternatives : List Rule, checker.applyAt depth whole (.any alternatives) value world =
        (Outcome.chosen (.ok value) (checker.outcomesAt depth alternatives value world), world)) ∧
      (∀ first second : List Rule, first ≠ [] → second ≠ [] →
        checker.applyAt depth whole (.any [Rule.any first, Rule.any second]) value world =
          checker.applyAt depth whole (.any (first ++ second)) value world) ∧
      ∀ (before middle inserted after : List Rule) (accepting : Rule),
        (checker.runAt depth accepting value world).1.isOk = true →
          checker.applyAt depth whole
              (.any (before ++ accepting :: (middle ++ inserted ++ after))) value world =
            checker.applyAt depth whole
              (.any (before ++ accepting :: (middle ++ after))) value world := by
  have hany := fun alternatives =>
    applyAt_any hookless storeless depth whole alternatives value
  refine ⟨hany, ?_, ?_⟩
  · intro first second hfirst hsecond
    -- A group is a rule of its own, and its outcome is a choice from the same value.
    have hrun : ∀ alternatives : List Rule,
        (checker.runAt depth (.any alternatives) value world).1 =
          Outcome.chosen (.ok value) (checker.outcomesAt depth alternatives value world) := by
      intro alternatives
      rw [runAt_any depth whole, hany]
    rw [hany, hany]
    simp only [outcomesAt, List.map_cons, List.map_nil, List.map_append, hrun]
    rw [Outcome.chosen_pair (by simpa using hfirst) (by simpa using hsecond)]
  · intro before middle inserted after accepting haccepted
    rw [hany, hany]
    simp only [outcomesAt, List.map_append, List.map_cons]
    rw [Outcome.chosen_accepted haccepted]

/-- The text is no integer, and the attempt to read it as one leaves no trace: the next alternative
is given the text and not the number 7.  The second group is not looked at, nor what is added to it.
No level is left, which counts for containers only. -/
theorem any_chooses_text :
    let checker := Checker.bare.withDepth 0
    let input := Value.str "7up"
    let first := [Rule.int, Rule.scalar]
    let second := [Rule.ofFilter .email, Rule.string]
    let apply := fun alternatives =>
      checker.applyAt 0 .empty (.any alternatives) input World.bare
    checker.registry.isEmpty = true ∧ World.bare.store = none ∧ first ≠ [] ∧ second ≠ [] ∧
      (checker.runAt 0 Rule.int input World.bare).1.value = .int 7 ∧
      (checker.runAt 0 Rule.scalar input World.bare).1.isOk = true ∧
      apply (first ++ second) = (.ok input, World.bare) ∧
      apply [Rule.any first, Rule.any second] = apply (first ++ second) ∧
      apply ([Rule.int] ++ Rule.scalar :: ([] ++ [Rule.null] ++ second)) =
        apply (first ++ second) := by
  intro checker input first second apply
  have hfirst : first ≠ [] := List.cons_ne_nil _ _
  have hsecond : second ≠ [] := List.cons_ne_nil _ _
  have haccepted : (checker.runAt 0 Rule.scalar input World.bare).1.isOk = true := rfl
  rcases @any_chooses checker World.bare rfl rfl 0 .empty input with ⟨hchosen, hpair, hinserted⟩
  refine ⟨rfl, rfl, hfirst, hsecond, rfl, haccepted, ?_, ?_, ?_⟩
  · exact (hchosen (first ++ second)).trans rfl
  · exact hpair first second hfirst hsecond
  · exact hinserted [Rule.int] [] [Rule.null] second Rule.scalar haccepted

end Checker

end Assay
