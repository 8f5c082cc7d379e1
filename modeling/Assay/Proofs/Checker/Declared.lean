import Assay.Proofs.Check.Family
import Assay.Proofs.Checker.Suppression
import Assay.Proofs.Container.Members

/-!
# Declared families — what a rule leaves, whether it accepts or not

A rule whose first filter declares a family, and whose other filters refine it, leaves a value of
this family wherever it stops: at a fault of any filter, past faults that it ignores, or at its end.

* `applyAll_keeps` carries a property of values through the walk of a rule;
* `apply_declares` and `apply_refines` state what the filters do to the family of a value;
* `check_family` is the result.
-/

namespace Assay.Checker

variable {checker : Checker} {step : Option Step} {whole : Rule}

/-- What every filter keeps of a value, the walk through them keeps: it stops with the value that
some filter left. -/
theorem applyAll_keeps {p : Value → Prop} {filters : List (Filter Rule)}
    (h : ∀ filter ∈ filters, ∀ value, p value →
      Ensures (checker.apply step whole filter value) fun outcome => p outcome.value)
    {value : Value} (hvalue : p value) :
    Ensures (checker.applyAll step whole filters value) fun outcome => p outcome.value := by
  induction filters generalizing value with
  | nil => exact .pure hvalue
  | cons filter rest ih =>
      rw [applyAll_cons]
      refine .bind (h filter (by simp) value hvalue) fun outcome houtcome => ?_
      cases continues whole outcome with
      | true => exact ih (fun later hlater => h later (by simp [hlater])) houtcome
      | false => exact .pure houtcome

/-- A container stays one; what is no container is replaced by the empty map. -/
theorem checkContainer_family? (shape : Shape Rule) (value : Value) :
    Ensures (checkContainer step shape whole value) fun outcome =>
      outcome.value.family? = some .container := by
  unfold checkContainer
  cases hentries : entries? value with
  | none => exact .pure rfl
  | some container =>
      rcases container with ⟨entries, build⟩
      -- The entries that are kept are built into a container of the same kind.
      have hbuild : ∀ kept, (build kept).family? = some .container := by
        intro kept
        have hcontainer := (isContainer_of_entries? hentries).1
        rw [entries?_eq hcontainer] at hentries
        cases hentries
        unfold rebuilt
        split <;> rfl
      cases step with
      | none => exact .pure rfl
      | some next =>
          refine .bind (.of_forall (fun _ => trivial) _) fun members _ => .pure ?_
          rw [containerOutcome_eq]
          exact hbuild _

/-- A declaring filter leaves a value of its family, whatever it was given. -/
theorem apply_declares {filter : Filter Rule} {family : Family}
    (h : filter.declares? = some family) (value : Value) :
    Ensures (checker.apply step whole filter value) fun outcome =>
      outcome.value.family? = some family := by
  cases filter with
  | arrays shape =>
      cases h
      exact checkContainer_family? shape value
  | string => exact .pure (applyPlain_declares checker h (fun _ hshape => by cases hshape) value)
  | int => exact .pure (applyPlain_declares checker h (fun _ hshape => by cases hshape) value)
  | double => exact .pure (applyPlain_declares checker h (fun _ hshape => by cases hshape) value)
  | _ => cases h

/-- A refining filter stays within the family. -/
theorem apply_refines {filter : Filter Rule} {family : Family}
    (h : filter.refines family = true) {value : Value} (hvalue : value.family? = some family) :
    Ensures (checker.apply step whole filter value) fun outcome =>
      outcome.value.family? = some family := by
  cases filter with
  | arrays _ => cases h
  | any _ => cases h
  | entity _ => cases h
  | custom _ _ => cases h
  | _ => exact .pure (applyPlain_refines checker h hvalue)

/-- The first filter brings every value into the family, and the others keep it there. -/
theorem runWith_family {rule : Rule} {first : Filter Rule} {rest : List (Filter Rule)}
    {family : Family} (own : rule.filters = first :: rest) (undefaulted : rule.default = none)
    (declared : first.declares? = some family)
    (refining : ∀ filter ∈ rest, filter.refines family = true) (value : Value) :
    Ensures (checker.runWith step rule value) fun outcome =>
      outcome.value.family? = some family := by
  rw [runWith_eq, own, undefaulted, applyAll_cons]
  simp only [withDefault_none, bind_pure]
  refine .bind (apply_declares declared value) fun outcome houtcome => ?_
  cases continues rule outcome with
  | true =>
      have hkept : ∀ filter ∈ rest, ∀ value : Value, value.family? = some family →
          Ensures (checker.apply step rule filter value) fun outcome =>
            outcome.value.family? = some family :=
        fun filter hfilter _ hvalue => apply_refines (refining filter hfilter) hvalue
      exact applyAll_keeps (p := (·.family? = some family)) hkept houtcome
  | false => exact .pure houtcome

/-- A rule without a default that begins with a filter for texts, numbers or containers, and goes on
with filters that refine these, leaves a value of this family: whether it accepts the value, fails
at any filter, or goes on past faults that it ignores. -/
theorem check_family {checker : Checker} {rule : Rule} {first : Filter Rule}
    {rest : List (Filter Rule)} {family : Family} (own : rule.filters = first :: rest)
    (undefaulted : rule.default = none) (declared : first.declares? = some family)
    (refining : ∀ filter ∈ rest, filter.refines family = true) (value : Value) (world : World) :
    (checker.check value rule world).1.value.family? = some family := by
  unfold check
  cases checker.settings.maxDepth with
  | zero => exact runWith_family own undefaulted declared refining value world
  | succ levels => exact runWith_family own undefaulted declared refining value world

/-- The text goes on past two faults that are ignored, and is refused as an address. -/
theorem check_family_refused :
    let refining : List (Filter Rule) := [.trim, .max (.int 3), .email]
    let rule : Rule := ⟨.string :: refining, false, false, none, ["trim", "max"]⟩
    let outcome := (Checker.bare.check (.str " abcdef ") rule World.bare).1
    rule.default = none ∧ (∀ filter ∈ refining, filter.refines .text = true) ∧
      outcome.value.family? = some .text ∧ outcome.value.str? = some "abc" ∧
      outcome.code? = some "email" := by
  intro refining rule outcome
  have hrefining : ∀ filter ∈ refining, filter.refines .text = true := by decide
  have hfamily : outcome.value.family? = some .text :=
    check_family rfl rfl rfl hrefining (.str " abcdef ") World.bare
  exact ⟨rfl, hrefining, hfamily, by decide +kernel, by decide +kernel⟩

end Assay.Checker
