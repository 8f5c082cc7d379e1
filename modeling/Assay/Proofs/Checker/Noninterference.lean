import Assay.Hook.Stock
import Assay.Proofs.Checker.Agreement
import Assay.Proofs.Hook.Reach
import Assay.Rule.Typed

/-!
# Noninterference — collaborators that a rule does not rely on

Two checkers with the same settings may have different hooks, stores and normalizers.  A rule that
relies on none of those in which they differ cannot tell them apart: hooks under the names of other
filters are never asked, and a store that is not needed is never touched.

Hooks that the rule asks may go back through the checker, where they come to what the rule itself
does not rely on.  So of these hooks it is asked that they keep off it.

* `Checker.Undisturbed` says what a run leaves alone of the world that it began in;
* `filterAgrees_of_contains` goes through the filters, and `check_noninterference` is the result.
-/

namespace Assay.Checker

/-- Nothing has happened to the collaborators that the rule does not rely on. -/
structure Undisturbed (rule : Rule) (start now : World) : Prop where
  journal : ¬rule.ReliesOn .hooks → now.journal = start.journal
  store : ¬rule.ReliesOn .store → now.store = start.store

/-- Two runs of the rule have gone on alike: the first one has left alone what it does not rely on,
and the stores are the same if the rule relies on them. -/
structure Alike (rule : Rule) (start now other : World) : Prop where
  undisturbed : Undisturbed rule start now
  store : rule.ReliesOn .store → now.store = other.store

variable {checker other : Checker} {rule : Rule} {start : World}

/-- The store answers alike and becomes the same, and nothing else is touched. -/
theorem checkEntity_agree (relies : rule.ReliesOn .store) (condition : Option Value)
    (value : Value) :
    Agree (Alike rule start) (checkEntity condition value) (checkEntity condition value) := by
  intro now other halike
  -- Of its world, the check reads and changes nothing but the store.
  have hstore : now.store = other.store := halike.store relies
  have houtcome : (checkEntity condition value now).1 = (checkEntity condition value other).1 := by
    unfold checkEntity
    rw [hstore]
  have hleft : (checkEntity condition value now).2.store =
      (checkEntity condition value other).2.store := by
    unfold checkEntity
    rw [hstore]
  refine ⟨houtcome, ⟨?_, fun hfree => absurd relies hfree⟩, fun _ => hleft⟩
  exact halike.undisturbed.journal

/-- Hooks of the same registry answer alike.  They either find the same store, and leave the same
one, or keep off it. -/
theorem checkCustom_agree (same : checker.registry = other.registry)
    (normalizers : rule.ReliesOn .normalizer → checker.normalizer = other.normalizer)
    (offStore : ¬rule.ReliesOn .store → rule.AsksOnly checker.registry Hook.KeepsOffStore)
    (offNormalizer : ¬rule.ReliesOn .normalizer →
      rule.AsksOnly checker.registry Hook.KeepsOffNormalizer)
    {name : String} {arguments : List Value} (contains : rule.Contains (.custom name arguments))
    (whole : Rule) (value : Value) :
    Agree (Alike rule start) (checkCustom checker name arguments whole value)
      (checkCustom other name arguments whole value) := by
  have hrelies : rule.ReliesOn .hooks := ⟨_, contains, rfl⟩
  have hcheckers : checkCustom other name arguments whole value =
      checkCustom checker name arguments whole value := by
    have hconsult : other.registry.consult name value arguments whole other.normalizer =
        checker.registry.consult name value arguments whole checker.normalizer := by
      rw [← same]
      by_cases hnormalizer : rule.ReliesOn .normalizer
      · rw [← normalizers hnormalizer]
      · have hoff := offNormalizer hnormalizer name arguments contains
        exact HookRegistry.consult_normalizer hoff value arguments whole checker.normalizer
    unfold checkCustom
    rw [hconsult]
  rw [hcheckers]
  let asked := checker.registry.consult name value arguments whole checker.normalizer
  have hrun : ∀ world, checkCustom checker name arguments whole value world =
      ((asked world.store).1.1.getD (.ok value),
        ⟨(asked world.store).2, world.journal ++ (asked world.store).1.2⟩) := fun _ => rfl
  intro now other' halike
  rw [hrun, hrun]
  by_cases hstore : rule.ReliesOn .store
  · -- Of its world, the check reads and changes nothing but the store, besides the journal.
    have hsame : now.store = other'.store := halike.store hstore
    rw [hsame]
    exact ⟨rfl, ⟨fun hfree => absurd hrelies hfree, fun hfree => absurd hstore hfree⟩,
      fun _ => rfl⟩
  · have hoff := offStore hstore name arguments contains
    obtain ⟨hanswer, hleft⟩ := @HookRegistry.consult_store _ _ checker.normalizer hoff value
      arguments whole now.store other'.store
    refine ⟨?_, ⟨fun hfree => absurd hrelies hfree, fun hfree => ?_⟩, fun h => absurd h hstore⟩
    · exact congrArg (fun answered => answered.1.getD (.ok value)) hanswer
    · exact hleft.trans (halike.undisturbed.store hfree)

/-- No filter in the rule comes to a collaborator in which the checkers differ. -/
theorem filterAgrees_of_contains (configured : checker.settings = other.settings)
    (hooks : rule.ReliesOn .hooks → checker.registry = other.registry)
    (normalizers : rule.ReliesOn .normalizer → checker.normalizer = other.normalizer)
    (offStore : ¬rule.ReliesOn .store → rule.AsksOnly checker.registry Hook.KeepsOffStore)
    (offNormalizer : ¬rule.ReliesOn .normalizer →
      rule.AsksOnly checker.registry Hook.KeepsOffNormalizer)
    {filter : Filter Rule} (contains : rule.Contains filter) :
    FilterAgrees (Alike rule start) checker other filter := by
  have hrelies : ∀ collaborator, filter.collaborator? = some collaborator →
      rule.ReliesOn collaborator := fun _ hneeds => ⟨filter, contains, hneeds⟩
  -- Besides the three collaborators, only the filter for integers reads the checker.
  cases filter with
  | arrays _ => trivial
  | any _ => trivial
  | entity condition =>
      intro whole value
      exact checkEntity_agree (hrelies .store rfl) condition value
  | custom name arguments =>
      intro whole value
      have hsame := hooks (hrelies .hooks rfl)
      exact checkCustom_agree hsame normalizers offStore offNormalizer contains whole value
  | condition =>
      intro whole value
      have hsame : checker.applyPlain .condition value = other.applyPlain .condition value :=
        congrArg (Check.condition · value) (normalizers (hrelies .normalizer rfl))
      change Agree _ (pure (checker.applyPlain .condition value))
        (pure (other.applyPlain .condition value))
      rw [hsame]
      exact .pure _
  | int =>
      intro whole value
      have hsame : checker.applyPlain .int value = other.applyPlain .int value :=
        congrArg (fun settings : Settings => Check.int settings.intBound value) configured
      change Agree _ (pure (checker.applyPlain .int value)) (pure (other.applyPlain .int value))
      rw [hsame]
      exact .pure _
  | _ => exact fun whole value => .pure _

/-- A hook that goes back through the checker is asked, and makes a record although the rule has no
filter for entities. -/
example :
    let maker : Hook := ⟨some "maker", false, Hook.checking .standard .empty Rule.entity⟩
    let registry := (HookRegistry.empty.register "book" maker).1
    let world : World := ⟨some (EntityStore.empty.insert "proto" "owner" true).2, []⟩
    let input := Value.map [("proto", .str "proto")]
    let check := (Checker.mk .standard registry none).check input (Rule.empty.custom "book" []) world
    check.2.store.map (·.derived) = some 1 := by
  rfl

end Assay.Checker
