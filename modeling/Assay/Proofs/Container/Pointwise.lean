import Assay.Proofs.Checker.Isolation
import Assay.Rule.Typed

/-!
# Pointwise — a container is checked member by member

Without hooks and a store, what becomes of a member depends on that member alone.

* `arrays_pointwise` gives the outcome of a container: its kind, the entries that are kept and
  their order, the value of each, and the fault with all its children.
-/

namespace Assay.Checker

/-- A container keeps its kind.  It keeps the members that stay, in their order, and then the
missing ones that have to be there, in the order of their rules.  Each has the value that its
governing rule gives one level deeper, to the original member or to null.  The fault has a child for
every forbidden key, every refused member and every missing member for which null is refused; it is
there exactly if it has a child. -/
theorem arrays_pointwise {checker : Checker} {depth : Nat} {world : World} {value : Value}
    (whole : Rule) (shape : Shape Rule) (hookless : checker.registry.isEmpty = true)
    (storeless : world.store = none) (shallow : depth < checker.settings.maxDepth)
    (container : value.contents.isContainer = true) :
    let visit : Visit := fun rule member => (checker.runAt (depth + 1) rule member world).1
    let entries := memberEntries value.contents
    let kept := keptOf visit shape whole entries
    checker.applyAt depth whole (.arrays shape) value world =
        (⟨rebuilt value.contents kept, aggregate? (faultsOf visit shape whole entries)⟩, world) ∧
      Entries.keys kept =
        (entries.filter fun entry => stays shape entry.1 entry.2).map (·.1) ++
          (missing shape (Entries.keys entries)).map (·.1) := by
  intro visit entries kept
  refine ⟨?_, keys_keptOf visit shape whole entries⟩
  have hstep : StepSettled (·.store = none) (checker.runAt (depth + 1)) visit shape whole :=
    fun rule _ member => run_settled_of_isolated hookless _ rule member storeless
  rw [applyAt_arrays checker shallow]
  exact checkContainer_settled hstep container world storeless

/-- A tree with a key of each sort: forbidden, without a rule of its own, refused at first because
it is a container, and missing. -/
theorem arrays_pointwise_tree :
    let page := Rule.int.requiring.defaulting (.int 1)
    let shape : Shape Rule := ⟨[("id", Rule.int.forbidding), ("page", page)], some .string, true⟩
    let whole := Rule.ofFilter (.arrays shape)
    let input := Value.map
      [("id", .int 5), ("name", .str "x"), ("child", .values none (.map [])),
        ("rest", .map [("id", .int 7)])]
    Checker.bare.registry.isEmpty = true ∧ World.bare.store = none ∧
      0 < Checker.bare.settings.maxDepth ∧ input.contents.isContainer = true ∧
      Checker.bare.applyAt 0 whole (.arrays shape) input World.bare =
        (⟨.map [("name", .str "x"), ("child", .map [("page", .int 1)]),
            ("rest", .map [("page", .int 1)]), ("page", .int 1)],
          some (containerFault [("id", forbiddenFault "id"),
            ("rest", containerFault [("id", forbiddenFault "id")])])⟩, World.bare) := by
  intro page shape whole input
  have hshallow : 0 < Checker.bare.settings.maxDepth := by decide
  refine ⟨rfl, rfl, hshallow, rfl, ?_⟩
  exact (arrays_pointwise whole shape rfl rfl hshallow rfl).1.trans rfl

end Assay.Checker
