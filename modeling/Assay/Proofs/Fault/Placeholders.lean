import Assay.Proofs.Fault.Leaves
import Assay.Proofs.Joining

/-!
# Placeholders — nodes of which nothing is said

A place in a tree can be held for a fault that may never come.  Whoever looks at the tree looks past
such places: it is seen as if it had been pruned.

* `Fault.pruned` leaves out all nodes that are not present, but for the root;
* `Fault.isPresent_pruned`, `Fault.leaves_pruned`, `Fault.toJson_pruned` and `Fault.display_pruned`
  state that nothing else is left out;
* `Fault.pruned_reach` states that the places held along a path are left out, and
  `Fault.reach_invisible` what this means for the tree.
-/

namespace Assay.Fault

mutual

/-- The tree without the nodes below its root that are not present. -/
def pruned : Fault → Fault
  | ⟨code, message, children⟩ => ⟨code, message, prunedChildren children⟩
  termination_by structural fault => fault

def prunedChildren : List (String × Fault) → List (String × Fault)
  | [] => []
  | (key, child) :: rest =>
    if child.isPresent then (key, child.pruned) :: prunedChildren rest else prunedChildren rest
  termination_by structural children => children

end

variable {children : List (String × Fault)}

/-! ## What is seen of a tree -/

@[simp] theorem code_pruned (fault : Fault) : fault.pruned.code = fault.code := by
  cases fault
  rfl

@[simp] theorem messageText?_pruned (fault : Fault) :
    fault.pruned.messageText? = fault.messageText? := by
  cases fault
  rfl

theorem children_pruned (fault : Fault) :
    fault.pruned.children = prunedChildren fault.children := by
  cases fault
  rfl

theorem anyPresent_prunedChildren
    (h : ∀ entry ∈ children, entry.2.pruned.isPresent = entry.2.isPresent) :
    anyPresent (prunedChildren children) = anyPresent children := by
  induction children with
  | nil => rfl
  | cons entry rest ih =>
      have hrest := ih fun other hother => h other (List.mem_cons_of_mem _ hother)
      have hfirst := h entry List.mem_cons_self
      cases hpresent : entry.2.isPresent <;>
        simp [prunedChildren, anyPresent, hpresent, hfirst, hrest]

/-- By induction on the tree: only children that are not present are left out. -/
@[simp] theorem isPresent_pruned (fault : Fault) : fault.pruned.isPresent = fault.isPresent := by
  induction fault using children_induction with
  | step fault ih =>
      rcases fault with ⟨code, message, children⟩
      simp [pruned, isPresent, anyPresent_prunedChildren ih]

/-- The leaf under its path, pruned. -/
def prunedLeaf (leaf : String × Fault) : String × Fault := (leaf.1, leaf.2.pruned)

theorem childLeaves_prunedChildren (path : String)
    (h : ∀ entry ∈ children, ∀ path : String,
      entry.2.pruned.leavesFrom path = (entry.2.leavesFrom path).map prunedLeaf) :
    childLeaves path (prunedChildren children) = (childLeaves path children).map prunedLeaf := by
  induction children with
  | nil => rfl
  | cons entry rest ih =>
      have hrest := ih fun other hother => h other (List.mem_cons_of_mem _ hother)
      have hfirst := h entry List.mem_cons_self
      cases hpresent : entry.2.isPresent <;>
        simp [prunedChildren, childLeaves, hpresent, hfirst, hrest]

/-- Pruning takes no leaf away. -/
theorem leavesFrom_pruned (path : String) (fault : Fault) :
    fault.pruned.leavesFrom path = (fault.leavesFrom path).map prunedLeaf := by
  induction fault using children_induction generalizing path with
  | step fault ih =>
      have hany : anyPresent fault.pruned.children = anyPresent fault.children := by
        rw [children_pruned, anyPresent_prunedChildren fun entry _ => isPresent_pruned entry.2]
      rw [leavesFrom_eq, leavesFrom_eq, hany, isPresent_pruned]
      cases anyPresent fault.children with
      | true => simpa [children_pruned] using childLeaves_prunedChildren path ih
      | false => cases fault.isPresent <;> rfl

/-- The same leaves are listed, in the same order and under the same paths. -/
theorem leaves_pruned (fault : Fault) : fault.pruned.leaves = fault.leaves.map prunedLeaf :=
  leavesFrom_pruned "" fault

/-- The leaves by their paths, codes and messages. -/
def listing (fault : Fault) : List (String × Option String × Option String) :=
  fault.leaves.map fun leaf => (leaf.1, leaf.2.code, leaf.2.messageText?)

/-- Pruning does not show in the listing. -/
theorem listing_pruned (fault : Fault) : fault.pruned.listing = fault.listing := by
  simp [listing, leaves_pruned, prunedLeaf]

theorem childrenToJson_prunedChildren
    (h : ∀ entry ∈ children, entry.2.pruned.toJson = entry.2.toJson) :
    childrenToJson (prunedChildren children) = childrenToJson children := by
  induction children with
  | nil => rfl
  | cons entry rest ih =>
      have hrest := ih fun other hother => h other (List.mem_cons_of_mem _ hother)
      have hfirst := h entry List.mem_cons_self
      cases hpresent : entry.2.isPresent <;>
        simp [prunedChildren, childrenToJson, hpresent, hfirst, hrest]

/-- Pruning does not show in the document. -/
theorem toJson_pruned (fault : Fault) : fault.pruned.toJson = fault.toJson := by
  induction fault using children_induction with
  | step fault ih =>
      rcases fault with ⟨code, message, children⟩
      simp [pruned, toJson, childrenToJson_prunedChildren ih]

/-- Pruning does not show in the headline. -/
theorem headline_pruned (fault : Fault) : fault.pruned.headline = fault.headline := by
  simp [headline]

/-- The text has nothing of a tree but its headline and what is listed of its leaves. -/
theorem display_pruned (fault : Fault) : fault.pruned.display = fault.display := by
  have hnested : (fault.pruned.leaves.filter fun leaf => leaf.1 != "") =
      (fault.leaves.filter fun leaf => leaf.1 != "").map prunedLeaf := by
    rw [leaves_pruned, List.filter_map]
    rfl
  unfold display
  dsimp only
  rw [hnested, headline_pruned, List.isEmpty_map, List.map_map]
  simp [prunedLeaf, Function.comp_def]

/-! ## Places that are held -/

/-- A change of one child that is not seen after pruning is not seen among all children either. -/
theorem prunedChildren_alter {change : Fault → Fault}
    (h : ∀ child, (change child).pruned = child.pruned) (key : String)
    (children : List (String × Fault)) :
    prunedChildren (Entries.alter key empty change children) = prunedChildren children := by
  have hpresent : ∀ child, (change child).isPresent = child.isPresent := by
    intro child
    calc (change child).isPresent
        = (change child).pruned.isPresent := (isPresent_pruned _).symm
      _ = child.pruned.isPresent := by rw [h]
      _ = child.isPresent := isPresent_pruned child
  induction children with
  | nil =>
      -- The key is new, and a placeholder stands under it.
      have hempty : (change empty).isPresent = false := hpresent empty
      simp [Entries.alter, prunedChildren, hempty]
  | cons entry rest ih =>
      rcases entry with ⟨name, child⟩
      by_cases hname : name = key <;> simp [Entries.alter, prunedChildren, hname, hpresent, h, ih]

/-- The places that are held along a path are left out again. -/
theorem pruned_reach (path : List String) (fault : Fault) :
    (fault.reach path).pruned = fault.pruned := by
  induction path generalizing fault with
  | nil => rfl
  | cons key path ih =>
      rcases fault with ⟨code, message, children⟩
      have hchildren : prunedChildren (Entries.alter key empty (alterAt id path) children) =
          prunedChildren children := prunedChildren_alter ih key children
      simp [reach, alterAt, pruned, hchildren]

/-- What is not seen of a tree without its placeholders is not seen after more are put into it. -/
theorem reach_of_pruned {α : Type} {view : Fault → α}
    (unseen : ∀ fault, view fault.pruned = view fault) (path : List String) (fault : Fault) :
    view (fault.reach path) = view fault := by
  calc view (fault.reach path)
      = view (fault.reach path).pruned := (unseen _).symm
    _ = view fault.pruned := by rw [pruned_reach]
    _ = view fault := unseen fault

/-- A path that does not lead to a node leads to a placeholder once places are held along it. -/
theorem follow?_reach (path : List String) (fault : Fault) :
    (fault.reach path).follow? path = some ((fault.follow? path).getD empty) := by
  induction path generalizing fault with
  | nil => rfl
  | cons key path ih =>
      have hchild : (fault.reach (key :: path)).child? key =
          some (((fault.child? key).getD empty).reach path) := by
        simp [reach, alterAt, child?, Entries.lookup_alter]
      have hempty : (empty.follow? path).getD empty = empty := by
        cases path <;> rfl
      rw [follow?, follow?, hchild, Option.bind_some, ih]
      cases fault.child? key with
      | none => simp [hempty]
      | some child => rfl

/-- To hold places along a path changes nothing that is seen of a tree: neither whether it is
present, its code and its message, nor what is listed of its leaves, nor either of its texts.  All
that it does is that the path now leads to a node. -/
theorem reach_invisible (fault : Fault) (path : List String) :
    (fault.reach path).isPresent = fault.isPresent ∧
      (fault.reach path).code = fault.code ∧
      (fault.reach path).messageText? = fault.messageText? ∧
      (fault.reach path).listing = fault.listing ∧
      (fault.reach path).display = fault.display ∧
      (fault.reach path).toJson = fault.toJson ∧
      (fault.reach path).follow? path = some ((fault.follow? path).getD empty) :=
  ⟨reach_of_pruned isPresent_pruned path fault, reach_of_pruned code_pruned path fault,
    reach_of_pruned messageText?_pruned path fault, reach_of_pruned listing_pruned path fault,
    reach_of_pruned display_pruned path fault, reach_of_pruned toJson_pruned path fault,
    follow?_reach path fault⟩

end Assay.Fault
