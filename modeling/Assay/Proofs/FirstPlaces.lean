import Assay.Entries
import Mathlib.Data.List.Induction

/-!
# First places — things in the order in which they first came

`List.eraseDups` leaves each member of a list in its first place.  The lists that grow by what is
new to them, such as the names of filters, are of this form.

* `eraseDups_concat` states what one more member does;
* `nodup_eraseDups` and `filter_eraseDups` are what is needed of such lists;
* `eraseDups_append_left`, `eraseDups_append_right` and `eraseDups_append_self` are what is needed
  of two of them.
-/

namespace Assay.FirstPlaces

variable {α : Type} [DecidableEq α]

/-- A member that is new comes last, and one that is there changes nothing. -/
theorem eraseDups_concat (xs : List α) (x : α) :
    (xs ++ [x]).eraseDups = if x ∈ xs then xs.eraseDups else xs.eraseDups ++ [x] := by
  rw [List.eraseDups_append]
  by_cases hmem : x ∈ xs
  · simp [List.removeAll, hmem]
  · simp [List.removeAll, hmem, List.eraseDups_cons]

/-- Nothing is left twice once duplicates are erased. -/
theorem nodup_eraseDups (xs : List α) : xs.eraseDups.Nodup := by
  induction xs using List.reverseRecOn with
  | nil => exact List.nodup_nil
  | append_singleton xs x ih =>
      have hconcat := Entries.nodup_concat ih x
      rw [eraseDups_concat]
      simpa using hconcat

/-- What is left out before is left out afterwards. -/
theorem filter_eraseDups (p : α → Bool) (xs : List α) :
    (xs.filter p).eraseDups = xs.eraseDups.filter p := by
  induction xs using List.reverseRecOn with
  | nil => rfl
  | append_singleton xs x ih =>
      rw [List.filter_append, eraseDups_concat]
      by_cases hmem : x ∈ xs
      · cases hp : p x <;> simp [hp, hmem, ih, eraseDups_concat]
      · cases hp : p x <;> simp [hp, hmem, ih, eraseDups_concat]

/-- What is distinct stands in its first places. -/
theorem eraseDups_of_nodup {xs : List α} (h : xs.Nodup) : xs.eraseDups = xs := by
  induction xs using List.reverseRecOn with
  | nil => rfl
  | append_singleton xs x ih =>
      rcases List.nodup_append.1 h with ⟨hxs, _, hdisjoint⟩
      have hnew : x ∉ xs := fun hmem => hdisjoint x hmem x (List.mem_singleton_self x) rfl
      rw [eraseDups_concat, if_neg hnew, ih hxs]

/-- Only the first members of the first part count. -/
theorem eraseDups_append_left (xs ys : List α) :
    (xs.eraseDups ++ ys).eraseDups = (xs ++ ys).eraseDups := by
  induction ys using List.reverseRecOn with
  | nil => simpa using eraseDups_of_nodup (nodup_eraseDups xs)
  | append_singleton ys y ih =>
      have hmem : y ∈ xs.eraseDups ++ ys ↔ y ∈ xs ++ ys := by simp
      simp only [← List.append_assoc, eraseDups_concat, ih, hmem]

/-- Only the first members of the second part count. -/
theorem eraseDups_append_right (xs ys : List α) :
    (xs ++ ys.eraseDups).eraseDups = (xs ++ ys).eraseDups := by
  induction ys using List.reverseRecOn with
  | nil => rfl
  | append_singleton ys y ih =>
      by_cases hmem : y ∈ ys
      · -- The member is there already, and changes neither side.
        have hlater : y ∈ xs ++ ys := List.mem_append_right xs hmem
        rw [eraseDups_concat, if_pos hmem, ih, ← List.append_assoc, eraseDups_concat,
          if_pos hlater]
      · have hsame : y ∈ xs ++ ys.eraseDups ↔ y ∈ xs ++ ys := by simp
        rw [eraseDups_concat, if_neg hmem]
        simp only [← List.append_assoc, eraseDups_concat, ih, hsame]

/-- Members that come again change nothing. -/
theorem eraseDups_append_self {xs : List α} (h : xs.Nodup) : (xs ++ xs).eraseDups = xs := by
  have hnone : xs.removeAll xs = [] := by simp [List.removeAll]
  rw [List.eraseDups_append, hnone, eraseDups_of_nodup h]
  simp

end Assay.FirstPlaces
