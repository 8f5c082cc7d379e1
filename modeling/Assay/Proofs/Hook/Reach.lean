import Assay.Checker
import Assay.Proofs.Rule.Reliance

/-!
# Reach — what hooks come to on their own

A hook may go back through the checker that asks it, and what it does there is up to the host.  It
keeps off the store if it neither looks at it nor changes it, and off the normalizer if it answers
alike whatever the normalizer is.  Hooks that are asked in turn keep off what each of them keeps
off.

* `Hook.KeepsOffStore` and `Hook.KeepsOffNormalizer` say it of one hook;
* `Rule.AsksOnly` says that the hooks which a rule may ask are of a kind;
* `HookRegistry.consult_store` and `HookRegistry.consult_normalizer` state it of the hooks of a name.
-/

namespace Assay

namespace Hook

/-- The hook answers alike in all stores and leaves every store as it is. -/
def KeepsOffStore (hook : Hook) : Prop :=
  ∀ value arguments rule normalizer store other,
    (hook.answer value arguments rule normalizer store).1 =
        (hook.answer value arguments rule normalizer other).1 ∧
      (hook.answer value arguments rule normalizer store).2 = store

/-- The hook answers alike, and leaves the same store, whatever the normalizer is. -/
def KeepsOffNormalizer (hook : Hook) : Prop :=
  ∀ value arguments rule normalizer other,
    hook.answer value arguments rule normalizer = hook.answer value arguments rule other

/-- An answer by nothing but its input keeps off the store. -/
theorem keepsOffStore_of_answer (label : Option String) (onlyCalls : Bool) (answer : Answer) :
    KeepsOffStore ⟨label, onlyCalls, answer⟩ := fun _ _ _ _ _ _ => ⟨rfl, rfl⟩

/-- An answer by nothing but its input keeps off the normalizer. -/
theorem keepsOffNormalizer_of_answer (label : Option String) (onlyCalls : Bool)
    (answer : Answer) : KeepsOffNormalizer ⟨label, onlyCalls, answer⟩ := fun _ _ _ _ _ => rfl

/-- The answer of a hook that goes back through the checker: it has the value checked by a rule. -/
def checking (settings : Settings) (registry : HookRegistry) (rule : Rule) : Action :=
  fun value _ _ normalizer store =>
    let checker : Checker := ⟨settings, registry, normalizer⟩
    let (outcome, world) := checker.check value rule ⟨store, []⟩
    (some outcome, world.store)

end Hook

/-- Every hook that the rule may ask is of the kind. -/
def Rule.AsksOnly (rule : Rule) (registry : HookRegistry) (kind : Hook → Prop) : Prop :=
  ∀ name arguments, rule.Contains (.custom name arguments) →
    ∀ registration ∈ registry.hooksOf name, kind registration.hook

/-- A rule that does not rely on hooks asks none. -/
theorem Rule.asksOnly_of_not_reliesOn {rule : Rule} (h : ¬rule.ReliesOn .hooks)
    (registry : HookRegistry) (kind : Hook → Prop) : rule.AsksOnly registry kind := by
  intro name arguments hcontains
  exact absurd ⟨_, hcontains, rfl⟩ h

namespace HookRegistry

variable {registry : HookRegistry} {name : String} {normalizer : Option Normalizer}
  {hooks : List Registration}

/-- By induction on the hooks: each finds the store as the first one did. -/
theorem ask_store (h : ∀ registration ∈ hooks, registration.hook.KeepsOffStore) (value : Value)
    (arguments : List Value) (rule : Rule) (store other : Option EntityStore) :
    (ask value arguments rule normalizer hooks store).1 =
        (ask value arguments rule normalizer hooks other).1 ∧
      (ask value arguments rule normalizer hooks store).2 = store := by
  induction hooks with
  | nil => exact ⟨rfl, rfl⟩
  | cons registration rest ih =>
      obtain ⟨hfirst, hrest⟩ := List.forall_mem_cons.1 h
      obtain ⟨hanswer, hleft⟩ := hfirst value arguments rule normalizer store other
      have hother := (hfirst value arguments rule normalizer other store).2
      rw [ask_cons, ask_cons]
      generalize registration.hook.answer value arguments rule normalizer store = first
        at hanswer hleft
      generalize registration.hook.answer value arguments rule normalizer other = second
        at hanswer hother
      obtain ⟨answer, left⟩ := first
      obtain ⟨answer', left'⟩ := second
      cases hanswer
      cases hleft
      cases hother
      cases answer with
      | some outcome => exact ⟨rfl, rfl⟩
      | none =>
          obtain ⟨hlater, hkept⟩ := ih hrest
          exact ⟨by dsimp only; rw [hlater], hkept⟩

/-- Hooks that keep off the normalizer answer alike with any other. -/
theorem ask_normalizer (h : ∀ registration ∈ hooks, registration.hook.KeepsOffNormalizer)
    (value : Value) (arguments : List Value) (rule : Rule) (other : Option Normalizer) :
    ask value arguments rule normalizer hooks = ask value arguments rule other hooks := by
  induction hooks with
  | nil => rfl
  | cons registration rest ih =>
      obtain ⟨hfirst, hrest⟩ := List.forall_mem_cons.1 h
      funext store
      rw [ask_cons, ask_cons, hfirst value arguments rule normalizer other, ih hrest]

/-- Hooks that keep off the store answer alike in all stores and leave the store as it is. -/
theorem consult_store
    (h : ∀ registration ∈ registry.hooksOf name, registration.hook.KeepsOffStore) (value : Value)
    (arguments : List Value) (rule : Rule) (store other : Option EntityStore) :
    (registry.consult name value arguments rule normalizer store).1 =
        (registry.consult name value arguments rule normalizer other).1 ∧
      (registry.consult name value arguments rule normalizer store).2 = store :=
  ask_store h value arguments rule store other

/-- Hooks that keep off the normalizer do the same whatever it is. -/
theorem consult_normalizer
    (h : ∀ registration ∈ registry.hooksOf name, registration.hook.KeepsOffNormalizer)
    (value : Value) (arguments : List Value) (rule : Rule) (other : Option Normalizer) :
    registry.consult name value arguments rule normalizer =
      registry.consult name value arguments rule other :=
  ask_normalizer h value arguments rule other

end HookRegistry

end Assay
