import Assay.Value

/-!
# Nesting — values as trees of containers

A list or map is an inner node, and everything else is a leaf.

* `Value.fold` goes through a value from its leaves upwards;
* `Value.nesting`, `Value.leaves` and `Value.mapLeaves` are such folds;
* `Value.cut` maps leaves down to a level, at which containers are replaced by empty maps;
* `Value.cut_of_nesting_le` states that nothing is cut off below the lowest container.
-/

namespace Assay.Value

variable {γ : Type}

/-! ## Members -/

def members : Value → List Value
  | list items => items
  | map entries => entries.map (·.2)
  | _ => []

/-- A container of the same kind and with the same keys, but other members. -/
def withMembers : Value → List Value → Value
  | map entries, members => map ((Entries.keys entries).zip members)
  | _, members => list members

/-! ## Folds -/

section Fold

variable (leaf : Value → γ) (node : Value → List γ → γ)

mutual

/-- Combines what is made of the leaves, at each container with what was made of its members. -/
def fold : Value → γ
  | list items => node (list items) (foldItems items)
  | map entries => node (map entries) (foldEntries entries)
  | other => leaf other
  termination_by structural value => value

def foldItems : List Value → List γ
  | [] => []
  | item :: rest => item.fold :: foldItems rest
  termination_by structural items => items

def foldEntries : List (String × Value) → List γ
  | [] => []
  | (_, member) :: rest => member.fold :: foldEntries rest
  termination_by structural entries => entries

end

theorem foldItems_eq (items : List Value) :
    foldItems leaf node items = items.map (fold leaf node) := by
  induction items with
  | nil => rfl
  | cons item rest ih => exact congrArg (item.fold leaf node :: ·) ih

theorem foldEntries_eq (entries : List (String × Value)) :
    foldEntries leaf node entries = (entries.map (·.2)).map (fold leaf node) := by
  induction entries with
  | nil => rfl
  | cons entry rest ih => exact congrArg (entry.2.fold leaf node :: ·) ih

/-- A container folds over its folded members. -/
theorem fold_of_container {value : Value} (h : value.isContainer = true) :
    value.fold leaf node = node value (value.members.map (fold leaf node)) := by
  cases value with
  | list items => exact congrArg (node (list items)) (foldItems_eq leaf node items)
  | map entries => exact congrArg (node (map entries)) (foldEntries_eq leaf node entries)
  | _ => cases h

theorem fold_of_leaf {value : Value} (h : value.isContainer = false) :
    value.fold leaf node = leaf value := by
  cases value with
  | list _ => cases h
  | map _ => cases h
  | _ => rfl

end Fold

/-- How deep containers lie in each other: not at all in a leaf. -/
def nesting : Value → Nat :=
  fold (fun _ => 0) fun _ below => below.foldr max 0 + 1

def leaves : Value → List Value :=
  fold (fun leaf => [leaf]) fun _ below => below.flatten

/-- Replaces the leaves, and keeps the containers and their keys. -/
def mapLeaves (f : Value → Value) : Value → Value := fold f withMembers

/-- Replaces the leaves above a level, and at the level containers by empty maps. -/
def cut (f : Value → Value) : Nat → Value → Value
  | 0, value => if value.isContainer then map [] else f value
  | level + 1, value =>
    if value.isContainer then value.withMembers (value.members.map (cut f level)) else f value

/-! ## Leaves and containers -/

section

variable {value : Value}

theorem nesting_of_leaf (h : value.isContainer = false) : value.nesting = 0 := fold_of_leaf _ _ h

theorem leaves_of_leaf (h : value.isContainer = false) : value.leaves = [value] :=
  fold_of_leaf _ _ h

theorem cut_of_leaf (f : Value → Value) (level : Nat) (h : value.isContainer = false) :
    value.cut f level = f value := by
  cases level <;> simp [cut, h]

/-- A container nests one level deeper than its deepest member. -/
theorem nesting_of_container (h : value.isContainer = true) :
    value.nesting = (value.members.map nesting).foldr max 0 + 1 :=
  fold_of_container _ _ h

/-- The leaves of a container are those of its members. -/
theorem leaves_of_container (h : value.isContainer = true) :
    value.leaves = value.members.flatMap leaves :=
  fold_of_container _ _ h

theorem mapLeaves_of_container (f : Value → Value) (h : value.isContainer = true) :
    value.mapLeaves f = value.withMembers (value.members.map (mapLeaves f)) :=
  fold_of_container _ _ h

/-- A container is within a level if its members are within the one below. -/
theorem nesting_le_succ_iff (h : value.isContainer = true) (level : Nat) :
    value.nesting ≤ level + 1 ↔ ∀ member ∈ value.members, member.nesting ≤ level := by
  rw [nesting_of_container h, Nat.add_le_add_iff_right]
  induction value.members with
  | nil => simp
  | cons member rest ih =>
      rw [List.map_cons, List.foldr_cons, Nat.max_le, ih, List.forall_mem_cons]

theorem mem_leaves_iff (h : value.isContainer = true) {leaf : Value} :
    leaf ∈ value.leaves ↔ ∃ member ∈ value.members, leaf ∈ member.leaves := by
  rw [leaves_of_container h]
  exact List.mem_flatMap

end

/-- If no container lies at the level, nothing is cut off. -/
theorem cut_of_nesting_le {f : Value → Value} {level : Nat} {value : Value}
    (h : value.nesting ≤ level) : value.cut f level = value.mapLeaves f := by
  induction level generalizing value with
  | zero =>
      cases hcontainer : value.isContainer with
      | true =>
          rw [nesting_of_container hcontainer] at h
          cases h
      | false => exact (cut_of_leaf f 0 hcontainer).trans (fold_of_leaf _ _ hcontainer).symm
  | succ level ih =>
      cases hcontainer : value.isContainer with
      | true =>
          -- Each member is nested one less deep than the container.
          have hmembers : value.members.map (cut f level) = value.members.map (mapLeaves f) := by
            refine List.map_congr_left fun member hmember => ih ?_
            exact (nesting_le_succ_iff hcontainer level).1 h member hmember
          rw [mapLeaves_of_container f hcontainer, ← hmembers]
          simp [cut, hcontainer]
      | false => exact (cut_of_leaf f _ hcontainer).trans (fold_of_leaf _ _ hcontainer).symm

end Assay.Value
