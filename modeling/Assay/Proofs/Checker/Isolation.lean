import Assay.Proofs.Checker.Agreement
import Assay.Proofs.Container.Visit

/-!
# Isolation — runs that the world has no part in

A rule reaches the world only through the filters for entities and hooks.  Where these settle, every
run of the rule settles: its outcome is a function of the value, and the world stays as it is.

* `Checker.SettlesFilter admits` says that a filter, if it asks the world, settles;
* `Checker.run_settles` lifts it from the filters in a rule to its runs;
* `Checker.run_settled_of_isolated` is the case of no hooks and no store.
-/

namespace Assay.Checker

variable {admits : World → Prop} {checker : Checker}

/-- A filter that asks for an entity or a hook settles. -/
def SettlesFilter (admits : World → Prop) (checker : Checker) : Filter Rule → Prop
  | .entity condition => ∀ value, Settles admits (checkEntity condition value)
  | .custom name arguments =>
      ∀ whole value, Settles admits (checkCustom checker name arguments whole value)
  | _ => True

/-- Two runs in admitted worlds do not come apart at a filter that settles. -/
theorem SettlesFilter.agrees {filter : Filter Rule} (h : SettlesFilter admits checker filter)
    {world other : World} (hworld : admits world) (hother : admits other) :
    FilterAgrees (fun now now' => now = world ∧ now' = other) checker checker filter := by
  cases filter with
  | arrays _ => trivial
  | any _ => trivial
  | entity condition => exact fun _ value => (h value).agree hworld hother
  | custom name arguments => exact fun whole value => (h whole value).agree hworld hother
  | _ => exact fun _ _ => .pure _

/-- Where the filters in a rule settle, its runs settle. -/
theorem run_settles (levels : Nat) {rule : Rule}
    (hrule : rule.Every (SettlesFilter admits checker)) (value : Value) :
    Settles admits (checker.run levels rule value) := by
  refine .of_agree fun world other hworld hother => ?_
  exact run_agree levels (hrule.mono fun _ hfilter => hfilter.agrees hworld hother) value

/-! ## No hooks and no store -/

/-- Nobody is asked where there are no hooks. -/
theorem consult_of_isEmpty {registry : HookRegistry} (h : registry.isEmpty = true) (name : String)
    (value : Value) (arguments : List Value) (rule : Rule) (normalizer : Option Normalizer) :
    registry.consult name value arguments rule normalizer = pure (none, []) := by
  have hnone : registry.registrations = [] := by
    simpa [HookRegistry.isEmpty, HookRegistry.size] using h
  have hhooks : registry.hooksOf name = [] := by
    unfold HookRegistry.hooksOf
    cases hslot : registry.slots.lookup name with
    | none => rfl
    | some hooks =>
        rcases List.lookup_eq_some_iff.1 hslot with ⟨before, after, hsplit, _⟩
        have hall := List.flatMap_eq_nil_iff.1 hnone
        exact hall (name, hooks) (by simp [hsplit])
  simp [HookRegistry.consult, hhooks, HookRegistry.ask]

/-- Where there are no hooks, the value passes. -/
theorem checkCustom_of_isEmpty (h : checker.registry.isEmpty = true) (name : String)
    (arguments : List Value) (whole : Rule) (value : Value) :
    checkCustom checker name arguments whole value = pure (.ok value) := by
  funext world
  rw [checkCustom, consult_of_isEmpty h]
  -- Nothing is added to the journal.
  change (Outcome.ok value, World.mk world.store (world.journal ++ [])) = (.ok value, world)
  rw [List.append_nil]

/-- Where there is no store, none comes to be. -/
theorem entity_storeless (condition : Option Value) (value : Value) :
    (Check.entity condition none value).2 = none := by
  have hresolved : (Check.resolved none value).2 = none := by
    unfold Check.resolved
    split
    · rfl
    · split
      · rename_i hstore
        cases hstore
      · rfl
  unfold Check.entity
  rcases hfound : Check.resolved none value with ⟨found, store⟩
  rw [hfound] at hresolved
  cases found with
  | none => exact hresolved
  | some entity =>
      dsimp only
      split <;> exact hresolved

/-- Without hooks and store, every filter is a function of the value. -/
theorem settlesFilter_of_isolated (h : checker.registry.isEmpty = true) (filter : Filter Rule) :
    SettlesFilter (·.store = none) checker filter := by
  cases filter with
  | entity condition =>
      intro value
      refine ⟨(Check.entity condition none value).1, fun world hworld => ?_⟩
      rcases world with ⟨store, journal⟩
      cases hworld
      change ((Check.entity condition none value).1,
        (⟨(Check.entity condition none value).2, journal⟩ : World)) = _
      rw [entity_storeless]
  | custom name arguments =>
      intro whole value
      refine ⟨.ok value, fun world _ => ?_⟩
      rw [checkCustom_of_isEmpty h]
      rfl
  | _ => trivial

/-- Without hooks and a store, runs are functions and leave the world as it is. -/
theorem run_settled_of_isolated (h : checker.registry.isEmpty = true) (levels : Nat) (rule : Rule)
    (value : Value) {world : World} (hworld : world.store = none) :
    Settled (·.store = none) (checker.run levels rule value)
      (checker.run levels rule value world).1 := by
  have hrule := Rule.Every.of_forall (settlesFilter_of_isolated h) rule
  exact (run_settles levels hrule value).settled hworld

end Assay.Checker
