import Assay.Fault

/-!
# Leaves — where the faults of a tree lie

A leaf is a node that is present and has no present child.  In a text its keys are joined by dots,
and an empty key leaves no trace; here a leaf lies at the list of its keys.

* `Fault.LeafAt fault keys leaf` says that the keys lead from the root to the leaf;
* `Fault.mem_leaves_iff` relates it to the leaves that are listed under their texts.
-/

namespace Assay.Fault

/-- Induction on a tree: a hypothesis for every child. -/
theorem children_induction {motive : Fault → Prop}
    (step : ∀ fault : Fault, (∀ entry ∈ fault.children, motive entry.2) → motive fault)
    (fault : Fault) : motive fault := by
  refine step fault fun entry hentry => ?_
  have hlt : sizeOf entry.2 < sizeOf fault := by
    rcases fault with ⟨code, message, children⟩
    rcases entry with ⟨key, child⟩
    have := List.sizeOf_lt_of_mem hentry
    simp at this ⊢
    omega
  exact children_induction step entry.2
termination_by sizeOf fault

/-! ## Presence -/

theorem anyPresent_iff {children : List (String × Fault)} :
    anyPresent children = true ↔ ∃ entry ∈ children, entry.2.isPresent = true := by
  induction children with
  | nil => simp [anyPresent]
  | cons entry rest ih => simp [anyPresent, ih]

/-- A fault is present if one below it is. -/
theorem isPresent_of_child {fault : Fault} {entry : String × Fault}
    (hentry : entry ∈ fault.children) (h : entry.2.isPresent = true) : fault.isPresent = true := by
  rcases fault with ⟨code, message, children⟩
  have hany : anyPresent children = true := anyPresent_iff.2 ⟨entry, hentry, h⟩
  simp [isPresent, hany]

/-! ## Leaves -/

/-- The keys lead from the root of a tree to a node that is present and has no present child. -/
inductive LeafAt : Fault → List String → Fault → Prop where
  | root {fault : Fault} (present : fault.isPresent = true)
      (last : anyPresent fault.children = false) : LeafAt fault [] fault
  | child {fault node leaf : Fault} {key : String} {keys : List String}
      (mem : (key, node) ∈ fault.children) (leafAt : LeafAt node keys leaf) :
      LeafAt fault (key :: keys) leaf

/-- A fault with a leaf is present. -/
theorem LeafAt.isPresent {fault leaf : Fault} {keys : List String} (h : fault.LeafAt keys leaf) :
    fault.isPresent = true := by
  induction h with
  | root present _ => exact present
  | child mem _ ih => exact isPresent_of_child mem ih

/-- A node with a present child is no leaf itself. -/
theorem leafAt_of_anyPresent {fault leaf : Fault} {keys : List String}
    (h : anyPresent fault.children = true) :
    fault.LeafAt keys leaf ↔
      ∃ entry ∈ fault.children, ∃ rest, entry.2.LeafAt rest leaf ∧ keys = entry.1 :: rest := by
  constructor
  · intro hleaf
    cases hleaf with
    | root _ last =>
        rw [h] at last
        cases last
    | child hentry hleaf => exact ⟨_, hentry, _, hleaf, rfl⟩
  · rintro ⟨entry, hentry, rest, hleaf, rfl⟩
    exact .child hentry hleaf

/-- Without present children only the node itself can be a leaf. -/
theorem leafAt_of_anyPresent_eq_false {fault leaf : Fault} {keys : List String}
    (h : anyPresent fault.children = false) :
    fault.LeafAt keys leaf ↔ fault.isPresent = true ∧ keys = [] ∧ leaf = fault := by
  constructor
  · intro hleaf
    cases hleaf with
    | root present _ => exact ⟨present, rfl, rfl⟩
    | child hentry hleaf =>
        have hany := anyPresent_iff.2 ⟨_, hentry, hleaf.isPresent⟩
        rw [h] at hany
        cases hany
  · rintro ⟨hpresent, rfl, rfl⟩
    exact .root hpresent h

/-! ## Texts of leaves -/

theorem childLeaves_eq (path : String) (children : List (String × Fault)) :
    childLeaves path children = children.flatMap fun entry =>
      if entry.2.isPresent then entry.2.leavesFrom (childPath path entry.1) else [] := by
  induction children with
  | nil => rfl
  | cons entry rest ih => rw [childLeaves, ih, List.flatMap_cons]

/-- The leaves are those of the children, or the fault itself if it is present without them. -/
theorem leavesFrom_eq (path : String) (fault : Fault) :
    fault.leavesFrom path =
      if anyPresent fault.children then childLeaves path fault.children
      else if fault.isPresent then [(path, fault)] else [] := by
  rcases fault with ⟨code, message, children⟩
  cases hany : anyPresent children <;> simp [leavesFrom, isPresent, hany]

/-- The leaves below a text are listed under what their keys add to it. -/
theorem mem_leavesFrom_iff {fault leaf : Fault} {path text : String} :
    (text, leaf) ∈ fault.leavesFrom path ↔
      ∃ keys, fault.LeafAt keys leaf ∧ text = keys.foldl childPath path := by
  induction fault using children_induction generalizing path with
  | step fault ih =>
      rw [leavesFrom_eq]
      cases hany : anyPresent fault.children with
      | true =>
          simp only [leafAt_of_anyPresent hany, if_true, childLeaves_eq, List.mem_flatMap]
          constructor
          · rintro ⟨entry, hentry, hmem⟩
            cases hpresent : entry.2.isPresent with
            | false => simp [hpresent] at hmem
            | true =>
                rw [hpresent, if_pos rfl, ih entry hentry] at hmem
                rcases hmem with ⟨rest, hleaf, htext⟩
                exact ⟨entry.1 :: rest, ⟨entry, hentry, rest, hleaf, rfl⟩, htext⟩
          · rintro ⟨_, ⟨entry, hentry, rest, hleaf, rfl⟩, htext⟩
            refine ⟨entry, hentry, ?_⟩
            rw [hleaf.isPresent, if_pos rfl, ih entry hentry]
            exact ⟨rest, hleaf, htext⟩
      | false =>
          simp only [leafAt_of_anyPresent_eq_false hany]
          cases hpresent : fault.isPresent with
          | false => simp
          | true => simp [and_comm]

/-- The listed leaves are those of the tree, each under its keys joined by dots. -/
theorem mem_leaves_iff {fault leaf : Fault} {text : String} :
    (text, leaf) ∈ fault.leaves ↔
      ∃ keys, fault.LeafAt keys leaf ∧ text = keys.foldl childPath "" :=
  mem_leavesFrom_iff

end Assay.Fault
