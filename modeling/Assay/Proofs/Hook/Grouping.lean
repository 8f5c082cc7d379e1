import Assay.Hook
import Assay.Proofs.FirstPlaces
import Mathlib.Data.List.Basic

/-!
# Grouping — hooks by their names

A registry keeps a list of hooks for each name.  It is made of one list of all hooks with their
names, in the order of their registration.

* `grouped` puts hooks under their names, each name where it first comes;
* `alter_grouped` and `remove_grouped` state what it is to add a hook and to take out a name;
* `lookup_grouped` finds the hooks of a name, and `perm_grouped` says that none is lost.
-/

namespace Assay

/-- A registered hook with the name that it was registered for. -/
abbrev NamedHook := String × Registration

def hooksNamed (hooks : List NamedHook) (name : String) : List Registration :=
  (hooks.filter (·.1 == name)).map (·.2)

/-- Hooks by their names, each name where it first comes. -/
def grouped (hooks : List NamedHook) : List (String × List Registration) :=
  (Entries.keys hooks).eraseDups.map fun name => (name, hooksNamed hooks name)

/-! ## The hooks of a name -/

/-- A hook comes after the others of its name. -/
theorem hooksNamed_concat (hooks : List NamedHook) (hook : NamedHook) (name : String) :
    hooksNamed (hooks ++ [hook]) name =
      if name = hook.1 then hooksNamed hooks name ++ [hook.2] else hooksNamed hooks name := by
  by_cases hname : hook.1 = name
  · simp [hooksNamed, hname]
  · simp [hooksNamed, hname, Ne.symm hname]

theorem hooksNamed_of_not_mem {hooks : List NamedHook} {name : String}
    (h : name ∉ Entries.keys hooks) : hooksNamed hooks name = [] := by
  have hnone : ∀ hook ∈ hooks, (hook.1 == name) = false := by
    intro hook hhook
    refine beq_false_of_ne fun hname => h ?_
    exact hname ▸ List.mem_map_of_mem hhook
  simpa [hooksNamed] using hnone

/-! ## Changes -/

/-- The value of one of the keys is changed in its place. -/
theorem alter_graph {names : List String} (h : names.Nodup) {name : String} (hmem : name ∈ names)
    {α : Type} (value : String → α) (empty : α) (change : α → α) :
    Entries.alter name empty change (names.map fun other => (other, value other)) =
      names.map fun other =>
        (other, if other = name then change (value other) else value other) := by
  induction names with
  | nil => cases hmem
  | cons first rest ih =>
      rcases List.nodup_cons.1 h with ⟨hnew, hrest⟩
      by_cases hfirst : first = name
      · -- The name does not come again, so that the rest stays as it is.
        have hsame : ∀ other ∈ rest, other = name → value other = change (value other) := by
          intro other hother hname
          exact absurd (hname ▸ hother) (hfirst ▸ hnew)
        simpa [Entries.alter, hfirst] using hsame
      · have hlater : name ∈ rest := by simpa [Ne.symm hfirst] using hmem
        simp [Entries.alter, hfirst, ih hrest hlater]

/-- A hook that is added comes last under its name. -/
theorem alter_grouped (hooks : List NamedHook) (name : String) (registration : Registration) :
    Entries.alter name [] (· ++ [registration]) (grouped hooks) =
      grouped (hooks ++ [(name, registration)]) := by
  have hkeys : Entries.keys (hooks ++ [(name, registration)]) = Entries.keys hooks ++ [name] := by
    simp [Entries.keys]
  unfold grouped
  rw [hkeys, FirstPlaces.eraseDups_concat]
  by_cases hmem : name ∈ Entries.keys hooks
  · have halter := alter_graph (FirstPlaces.nodup_eraseDups (Entries.keys hooks))
      (List.mem_eraseDups.2 hmem) (hooksNamed hooks) [] (· ++ [registration])
    rw [halter, if_pos hmem]
    simp only [hooksNamed_concat]
  · have hnew : name ∉ Entries.keys (grouped hooks) := by
      simpa [grouped, Entries.keys] using hmem
    have hsame : ∀ other ∈ (Entries.keys hooks).eraseDups,
        hooksNamed (hooks ++ [(name, registration)]) other = hooksNamed hooks other := by
      intro other hother
      have hne : other ≠ name := fun hname => hmem (hname ▸ List.mem_eraseDups.1 hother)
      simp [hooksNamed_concat, hne]
    have hlast : hooksNamed (hooks ++ [(name, registration)]) name = [registration] := by
      simp [hooksNamed_concat, hooksNamed_of_not_mem hmem]
    have halter := Entries.alter_of_not_mem hnew [] (· ++ [registration])
    have hmap := List.map_congr_left fun other hother =>
      congrArg (Prod.mk other) (hsame other hother)
    rw [if_neg hmem, List.map_append, hmap]
    simpa [grouped, hlast] using halter

/-- A name that is removed takes its hooks with it. -/
theorem remove_grouped (hooks : List NamedHook) (name : String) :
    Entries.remove name (grouped hooks) = grouped (hooks.filter fun hook => !(name == hook.1)) := by
  have hkeys : Entries.keys (hooks.filter fun hook => !(name == hook.1)) =
      (Entries.keys hooks).filter fun other => !(name == other) := by
    simp [Entries.keys, List.filter_map, Function.comp_def]
  have hsame : ∀ other ∈ (Entries.keys hooks).eraseDups.filter fun other => !(name == other),
      hooksNamed (hooks.filter fun hook => !(name == hook.1)) other = hooksNamed hooks other := by
    intro other hother
    have hne : name ≠ other := by simpa using (List.mem_filter.1 hother).2
    have hfilter : ∀ hook ∈ hooks, (hook.1 == other && !(name == hook.1)) = (hook.1 == other) := by
      intro hook _
      by_cases hhook : hook.1 = other
      · simp [hhook, hne]
      · simp [hhook]
    simp [hooksNamed, List.filter_filter, List.filter_congr hfilter]
  have hmap := List.map_congr_left fun other hother =>
    congrArg (Prod.mk other) (hsame other hother)
  unfold grouped
  rw [hkeys, FirstPlaces.filter_eraseDups, hmap]
  simp [Entries.remove, List.filter_map, Function.comp_def, bne, BEq.comm]

/-- A registration that is added under a name is one more in the whole. -/
theorem perm_alter (entries : List (String × List Registration)) (name : String)
    (registration : Registration) :
    ((Entries.alter name [] (· ++ [registration]) entries).flatMap (·.2)).Perm
      (entries.flatMap (·.2) ++ [registration]) := by
  induction entries with
  | nil => simp [Entries.alter]
  | cons entry rest ih =>
      rcases entry with ⟨other, registrations⟩
      by_cases hname : other = name
      · have hswap : (registration :: rest.flatMap (·.2)).Perm
            (rest.flatMap (·.2) ++ [registration]) :=
          (List.perm_append_singleton registration _).symm
        simpa [Entries.alter, hname] using hswap.append_left registrations
      · simpa [Entries.alter, hname] using ih.append_left registrations

/-- To put hooks under their names changes their order only. -/
theorem perm_grouped (hooks : List NamedHook) :
    ((grouped hooks).flatMap (·.2)).Perm (hooks.map (·.2)) := by
  induction hooks using List.reverseRecOn with
  | nil => exact .refl []
  | append_singleton hooks hook ih =>
      have hadded := perm_alter (grouped hooks) hook.1 hook.2
      rw [alter_grouped] at hadded
      simpa using hadded.trans (ih.append_right [hook.2])

/-- The group of a name holds the hooks of that name, in their order. -/
theorem lookup_grouped (hooks : List NamedHook) (name : String) :
    (grouped hooks).lookup name =
      if name ∈ Entries.keys hooks then some (hooksNamed hooks name) else none := by
  by_cases hmem : name ∈ Entries.keys hooks
  · rw [if_pos hmem]
    exact List.lookup_graph (hooksNamed hooks) (List.mem_eraseDups.2 hmem)
  · have hother : ∀ other ∈ Entries.keys hooks, name ≠ other := by
      intro other hother hname
      exact hmem (hname ▸ hother)
    have hnone : (grouped hooks).lookup name = none := by
      simpa [grouped, List.lookup_eq_none_iff] using hother
    rw [if_neg hmem, hnone]

end Assay
