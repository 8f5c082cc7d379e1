import Assay.Fault

/-!
# Recording — faults under the keys of a fault

The fault of a member is recorded under its key: it is merged into the child there, which is a
placeholder as long as the key is new.  Then the merge is a copy.

* `Fault.Keyed` says that the children of every node have distinct keys;
* `Fault.record` merges a fault into the child at a key;
* `Fault.empty_add` and `Fault.record_fresh` state that nothing is lost or changed.
-/

namespace Assay.Fault

/-- The children of every node have distinct keys. -/
inductive Keyed : Fault → Prop where
  | intro {fault : Fault} (distinct : (Entries.keys fault.children).Nodup)
      (below : ∀ child ∈ fault.children, Keyed child.2) : Keyed fault

theorem Keyed.distinct {fault : Fault} (h : fault.Keyed) :
    (Entries.keys fault.children).Nodup := by
  cases h with
  | intro distinct _ => exact distinct

/-- The children of a keyed fault are keyed. -/
theorem Keyed.of_lookup {fault child : Fault} {key : String} (h : fault.Keyed)
    (hchild : fault.children.lookup key = some child) : child.Keyed := by
  cases h with
  | intro distinct below =>
      exact below (key, child) ((Entries.lookup_eq_some_iff_mem distinct).1 hchild)

/-- Merges a fault into the child at a key. -/
def record (fault : Fault) (key : String) (other : Fault) : Fault :=
  fault.alterAt (·.add other) [key]

/-- Children under new keys are copied behind those that are there, if a placeholder takes each of
them as it is. -/
theorem addChildren_of_fresh {mine children : List (String × Fault)}
    (copied : ∀ child ∈ children, empty.add child.2 = child.2)
    (distinct : (Entries.keys (mine ++ children)).Nodup) :
    addChildren mine children = mine ++ children := by
  induction children generalizing mine with
  | nil => rw [addChildren, List.append_nil]
  | cons child rest ih =>
      rcases child with ⟨key, child⟩
      have hsplit : mine ++ (key, child) :: rest = (mine ++ [(key, child)]) ++ rest := by simp
      have hnew : key ∉ Entries.keys mine := by
        intro hmem
        rw [Entries.keys, List.map_append] at distinct
        exact (List.nodup_append.1 distinct).2.2 key hmem key List.mem_cons_self rfl
      -- The first child comes to stand behind those that are there, and the rest is new after it.
      rw [hsplit] at distinct ⊢
      rw [addChildren, Entries.alter_of_not_mem hnew, copied (key, child) List.mem_cons_self]
      exact ih (fun other hother => copied other (List.mem_cons_of_mem _ hother)) distinct

/-- A placeholder becomes what is merged into it. -/
theorem empty_add {fault : Fault} (keyed : fault.Keyed) : empty.add fault = fault := by
  induction keyed with
  | @intro fault distinct below ih =>
      rcases fault with ⟨code, message, children⟩
      have hchildren : addChildren [] children = children := addChildren_of_fresh ih distinct
      change Fault.mk code message (addChildren [] children) = _
      rw [hchildren]

/-- Under a new key, a fault is recorded as it is, behind those that are there. -/
theorem record_fresh {fault other : Fault} {key : String}
    (fresh : key ∉ Entries.keys fault.children) (keyed : other.Keyed) :
    fault.record key other = { fault with children := fault.children ++ [(key, other)] } := by
  have hcopied : empty.add other = other := empty_add keyed
  unfold record alterAt
  rw [Entries.alter_of_not_mem fresh]
  change { fault with children := fault.children ++ [(key, empty.add other)] } = _
  rw [hcopied]

end Assay.Fault
