import Assay.Proofs.Check.Validation
import Assay.Proofs.Checker.Contract
import Assay.Proofs.Checker.Isolation
import Assay.Proofs.Checker.Suppression
import Assay.Rule.Typed

/-!
# Validating rules — checks that hand back what they accept

A validating rule has validating filters only, also in the alternatives that it offers, and no means
to get past a fault.  If it accepts a value, every filter on the way has let it pass as it is.

* `Rule.Validates` says that a rule is validating;
* `Rule.Validates.every` states that it does not ask the world;
* `Checker.run_passes` states that a run hands back the value or has a fault, and
  `Checker.check_unchanged` that a second check comes to the same outcome.
-/

namespace Assay

/-- The filters of the rule validate, and so do the rules that it offers as alternatives.  No fault
is ignored or replaced by a default. -/
inductive Rule.Validates : Rule → Prop where
  | intro {rule : Rule} (own : ∀ filter ∈ rule.filters, filter.validates = true)
      (default : rule.default = none) (ignored : rule.ignored = [])
      (held : ∀ filter ∈ rule.filters, ∀ below ∈ filter.rules, Validates below) : Validates rule

/-- A rule of one validating filter validates. -/
theorem Rule.Validates.ofFilter {filter : Filter Rule} (validates : filter.validates = true)
    (held : ∀ below ∈ filter.rules, below.Validates) : (Rule.ofFilter filter).Validates :=
  .intro (List.forall_mem_singleton.2 validates) rfl rfl (List.forall_mem_singleton.2 held)

/-- No validating filter asks for an entity or a hook. -/
theorem Rule.Validates.every {rule : Rule} (validating : rule.Validates) (admits : World → Prop)
    (checker : Checker) : rule.Every (Checker.SettlesFilter admits checker) := by
  induction validating with
  | @intro rule own _ _ _ ih =>
      refine .intro (fun filter hfilter => ?_) ih
      have hvalidates := own filter hfilter
      cases filter with
      | entity _ => cases hvalidates
      | custom _ _ => cases hvalidates
      | _ => trivial

namespace Checker

variable {checker : Checker} {step : Option Step} {whole : Rule}

/-- If filters hand back what they accept, so does the walk through them: up to the first fault they
are all given the same value. -/
theorem applyAll_passes (ignored : whole.ignored = []) {filters : List (Filter Rule)}
    (h : ∀ filter ∈ filters, ∀ value,
      Ensures (checker.apply step whole filter value) (·.Passes value)) (value : Value) :
    Ensures (checker.applyAll step whole filters value) (·.Passes value) := by
  induction filters with
  | nil => exact .pure Outcome.passes_ok
  | cons filter rest ih =>
      have hrest := ih fun later hlater => h later (List.mem_cons_of_mem _ hlater)
      rw [applyAll_cons]
      refine .bind (h filter List.mem_cons_self value) ?_
      intro outcome hpasses
      rw [continues_of_ignored_eq_nil ignored]
      -- Nothing is ignored, so the walk goes on only after a filter that has no fault.
      cases hok : outcome.isOk with
      | true =>
          have hsame : outcome.value = value := hpasses hok
          rw [hsame]
          exact hrest
      | false => exact .pure hpasses

/-- A filter that is neither a choice nor a container acts by itself. -/
theorem apply_passes {filter : Filter Rule} (validates : filter.validates = true)
    (hheld : ∀ rule ∈ filter.rules, ∀ value,
      Ensures (checker.runWith step rule value) (·.Passes value)) (value : Value) :
    Ensures (checker.apply step whole filter value) (·.Passes value) := by
  cases filter with
  | any alternatives =>
      -- Each alternative is given the value itself, also after another one has refused it.
      exact firstAccepted_ensures Outcome.passes_ok fun rule hrule => hheld rule hrule value
  | arrays _ => cases validates
  | entity _ => cases validates
  | custom _ _ => cases validates
  | _ => exact .pure (applyPlain_validates checker validates value)

/-- A validating rule leaves the values that it accepts as they are. -/
theorem runWith_passes {rule : Rule} (validating : rule.Validates) (value : Value) :
    Ensures (checker.runWith step rule value) (·.Passes value) := by
  induction validating generalizing value with
  | @intro rule own default ignored _ ih =>
      have hfilters : ∀ filter ∈ rule.filters, ∀ value,
          Ensures (checker.apply step rule filter value) (·.Passes value) := by
        intro filter hfilter value
        exact apply_passes (own filter hfilter) (ih filter hfilter) value
      rw [runWith_eq, default]
      simp only [withDefault_none, bind_pure]
      exact applyAll_passes ignored hfilters value

/-- With however many levels left, what a validating rule accepts is handed back. -/
theorem run_passes (levels : Nat) {rule : Rule} (validating : rule.Validates) (value : Value) :
    Ensures (checker.run levels rule value) (·.Passes value) := by
  cases levels with
  | zero => exact runWith_passes validating value
  | succ levels => exact runWith_passes validating value

/-- A validating rule that accepts a value hands back the value itself: nothing is rewritten on the
way, and containers keep their identity.  So the rule accepts once more what it has handed back, in
whatever world, and leaves this world as it is. -/
theorem check_unchanged {checker : Checker} {rule : Rule} {value : Value} {world : World}
    (validating : rule.Validates) (accepted : (checker.check value rule world).1.isOk = true) :
    (checker.check value rule world).1.value = value ∧
      ∀ again : World, checker.check (checker.check value rule world).1.value rule again =
        ((checker.check value rule world).1, again) := by
  have hsame : (checker.check value rule world).1.value = value :=
    run_passes _ validating value world accepted
  have hsettles : Settles (fun _ => True) (checker.check value rule) :=
    run_settles _ (validating.every _ checker) value
  refine ⟨hsame, fun again => ?_⟩
  rw [hsame]
  exact hsettles.settled trivial again trivial

/-- A container with an identity is no scalar, but it is what the second alternative asks for.  It
has no size that a bound could cut, and comes back as the container that it was. -/
theorem check_unchanged_container :
    let rule := (Rule.any [Rule.scalar, Rule.values]).max (.int 0)
    let input := Value.values (some 7) (.list [.int 1])
    let outcome := (Checker.bare.check input rule World.bare).1
    rule.Validates ∧ outcome.isOk = true ∧ outcome.value = input ∧
      ∀ again : World, Checker.bare.check outcome.value rule again = (outcome, again) := by
  intro rule input outcome
  have hscalar : Rule.scalar.Validates := .ofFilter rfl (List.forall_mem_nil _)
  have hvalues : Rule.values.Validates := .ofFilter rfl (List.forall_mem_nil _)
  have hrule : rule.Validates := by
    refine .intro (List.forall_mem_cons.2 ⟨rfl, List.forall_mem_singleton.2 rfl⟩) rfl rfl ?_
    -- Only the first of the two filters holds rules.
    refine List.forall_mem_cons.2 ⟨?_, List.forall_mem_singleton.2 (List.forall_mem_nil _)⟩
    exact List.forall_mem_cons.2 ⟨hscalar, List.forall_mem_singleton.2 hvalues⟩
  have haccepted : outcome.isOk = true := rfl
  exact ⟨hrule, haccepted, check_unchanged hrule haccepted⟩

end Checker

end Assay
