import Assay.Proofs.Joining
import Mathlib.Data.List.Induction
import Mathlib.Data.String.Basic

/-!
# Ascending — entries in the order of their keys

A document has its members in ascending order, so that entries in whatever order become the same
members.

* `Entries.Ascending` says that each key is smaller than those after it;
* `Entries.ascending_sortedOfPairs` and `Entries.sortedOfPairs_perm` state that pairs are put in
  this order, and that nothing gets lost where their keys are distinct;
* `Entries.Ascending.eq_of_perm` states that there is one such order, so that sorting by any other
  means comes to the same (`Entries.sortedOfPairs_eq_mergeSort`).
-/

namespace Assay.Entries

variable {α β : Type}

/-- Each key is smaller than those after it. -/
def Ascending (entries : List (String × α)) : Prop := entries.Pairwise fun a b => a.1 < b.1

variable {entries xs ys : List (String × α)} {key : String} {value : α}

theorem Ascending.nodup_keys (h : Ascending entries) : (keys entries).Nodup :=
  List.pairwise_map.2 (h.imp fun hlt => ne_of_lt hlt)

theorem keys_map (f : α → β) (entries : List (String × α)) :
    keys (entries.map fun entry => (entry.1, f entry.2)) = keys entries :=
  List.map_map

/-! ## One more entry -/

/-- A sorted put adds no key but its own. -/
theorem mem_keys_putSorted {name : String} (h : name ∈ keys (putSorted key value entries)) :
    name = key ∨ name ∈ keys entries := by
  induction entries with
  | nil => exact .inl (List.mem_singleton.1 h)
  | cons entry rest ih =>
      rcases entry with ⟨k, v⟩
      unfold putSorted at h
      split at h
      · exact .inr h
      · split at h
        · exact List.mem_cons.1 h
        · rcases List.mem_cons.1 h with rfl | hrest
          · exact .inr List.mem_cons_self
          · exact (ih hrest).imp_right (List.mem_cons_of_mem _)

/-- A sorted put keeps the keys ascending. -/
theorem ascending_putSorted (h : Ascending entries) (key : String) (value : α) :
    Ascending (putSorted key value entries) := by
  induction entries with
  | nil => exact List.pairwise_singleton _ _
  | cons entry rest ih =>
      rcases entry with ⟨k, v⟩
      rcases List.pairwise_cons.1 h with ⟨hfirst, hrest⟩
      unfold putSorted
      split
      · exact List.pairwise_cons.2 ⟨hfirst, hrest⟩
      · split
        · rename_i hlt
          refine List.pairwise_cons.2 ⟨fun other hother => ?_, h⟩
          rcases List.mem_cons.1 hother with rfl | hother
          · exact hlt
          · exact lt_trans hlt (hfirst other hother)
        · rename_i hne hnlt
          have hlt : k < key := lt_of_le_of_ne (not_lt.1 hnlt) hne
          refine List.pairwise_cons.2 ⟨fun other hother => ?_, ih hrest⟩
          rcases mem_keys_putSorted (List.mem_map_of_mem hother) with hkey | hkey
          · exact hkey ▸ hlt
          · rcases List.mem_map.1 hkey with ⟨found, hfound, hsame⟩
            exact hsame ▸ hfirst found hfound

/-- An entry under a new key comes to those that are there. -/
theorem putSorted_perm (hnew : key ∉ keys entries) (value : α) :
    (putSorted key value entries).Perm ((key, value) :: entries) := by
  induction entries with
  | nil => exact .refl _
  | cons entry rest ih =>
      rcases entry with ⟨k, v⟩
      have hkey : k ≠ key := fun hsame => hnew (hsame ▸ List.mem_cons_self)
      have hrest : key ∉ keys rest := fun hmem => hnew (List.mem_cons_of_mem _ hmem)
      rw [putSorted, if_neg hkey]
      split
      · exact .refl _
      · exact ((ih hrest).cons _).trans (.swap _ _ _)

/-- Values can be changed before or after an entry is put in its sorted place. -/
theorem putSorted_map (f : α → β) (key : String) (value : α) (entries : List (String × α)) :
    putSorted key (f value) (entries.map fun entry => (entry.1, f entry.2)) =
      (putSorted key value entries).map fun entry => (entry.1, f entry.2) := by
  induction entries with
  | nil => rfl
  | cons entry rest ih =>
      rcases entry with ⟨k, v⟩
      rw [List.map_cons, putSorted, putSorted, ih]
      split
      · rfl
      · split <;> rfl

/-! ## All entries -/

/-- The last pair is put among the others. -/
theorem sortedOfPairs_concat (pairs : List (String × α)) (last : String × α) :
    sortedOfPairs (pairs ++ [last]) = putSorted last.1 last.2 (sortedOfPairs pairs) :=
  List.foldl_concat _ _ _ _

/-- Sorted entries have ascending keys. -/
theorem ascending_sortedOfPairs (pairs : List (String × α)) : Ascending (sortedOfPairs pairs) := by
  induction pairs using List.reverseRecOn with
  | nil => exact .nil
  | append_singleton pairs last ih =>
      rw [sortedOfPairs_concat]
      exact ascending_putSorted ih last.1 last.2

/-- Where keys are distinct, the entries are the same in another order. -/
theorem sortedOfPairs_perm {pairs : List (String × α)} (distinct : (keys pairs).Nodup) :
    (sortedOfPairs pairs).Perm pairs := by
  induction pairs using List.reverseRecOn with
  | nil => exact .refl _
  | append_singleton pairs last ih =>
      have hmoved : (pairs ++ [last]).Perm (last :: pairs) := List.perm_append_singleton last pairs
      have hkeys := List.nodup_cons.1 ((hmoved.map Prod.fst).nodup_iff.1 distinct)
      have hsorted := ih hkeys.2
      have hnew : last.1 ∉ keys (sortedOfPairs pairs) := fun hmem =>
        hkeys.1 ((hsorted.map Prod.fst).mem_iff.1 hmem)
      rw [sortedOfPairs_concat]
      exact (putSorted_perm hnew last.2).trans ((hsorted.cons last).trans hmoved.symm)

theorem sortedOfPairs_map (f : α → β) (pairs : List (String × α)) :
    sortedOfPairs (pairs.map fun entry => (entry.1, f entry.2)) =
      (sortedOfPairs pairs).map fun entry => (entry.1, f entry.2) := by
  induction pairs using List.reverseRecOn with
  | nil => rfl
  | append_singleton pairs last ih =>
      rw [List.map_append, List.map_singleton, sortedOfPairs_concat, sortedOfPairs_concat, ih]
      exact putSorted_map f last.1 last.2 (sortedOfPairs pairs)

/-- There is one order in which keys ascend. -/
theorem Ascending.eq_of_perm (hxs : Ascending xs) (hys : Ascending ys) (perm : xs.Perm ys) :
    xs = ys :=
  perm.eq_of_pairwise (fun _ _ _ _ hlt hgt => absurd hgt (lt_asymm hlt)) hxs hys

/-- What ascends stays as it is. -/
theorem Ascending.sortedOfPairs_eq (h : Ascending entries) : sortedOfPairs entries = entries :=
  (ascending_sortedOfPairs entries).eq_of_perm h (sortedOfPairs_perm h.nodup_keys)

/-- Entries with distinct keys are put in the order in which any sorting by their keys puts them. -/
theorem sortedOfPairs_eq_mergeSort {pairs : List (String × α)} (distinct : (keys pairs).Nodup) :
    sortedOfPairs pairs = pairs.mergeSort fun a b => a.1 ≤ b.1 := by
  have hperm := List.mergeSort_perm pairs fun a b => decide (a.1 ≤ b.1)
  have hle : (pairs.mergeSort fun a b => a.1 ≤ b.1).Pairwise fun a b => a.1 ≤ b.1 := by
    have htrans : ∀ a b c : String × α, decide (a.1 ≤ b.1) → decide (b.1 ≤ c.1) →
        decide (a.1 ≤ c.1) := fun a b c hab hbc =>
      decide_eq_true ((of_decide_eq_true hab).trans (of_decide_eq_true hbc))
    have htotal : ∀ a b : String × α, decide (a.1 ≤ b.1) || decide (b.1 ≤ a.1) := by
      intro a b
      simpa using le_total a.1 b.1
    exact (List.pairwise_mergeSort htrans htotal pairs).imp fun h => of_decide_eq_true h
  have hne : (pairs.mergeSort fun a b => a.1 ≤ b.1).Pairwise fun a b => a.1 ≠ b.1 :=
    List.pairwise_map.1 ((hperm.map Prod.fst).nodup_iff.2 distinct)
  have hascending : Ascending (pairs.mergeSort fun a b => a.1 ≤ b.1) :=
    (hle.and hne).imp fun h => lt_of_le_of_ne h.1 h.2
  exact (ascending_sortedOfPairs pairs).eq_of_perm hascending
    ((sortedOfPairs_perm distinct).trans hperm.symm)

end Assay.Entries
