import Assay.Text.Character
import Mathlib.Data.List.DropRight

/-!
# Stripping — a text without the characters of a class at its ends

A text and its core are related by what stands around the core, and by what its own ends are not.
There is one core only, whatever the class.

* `Text.Stripped` is the relation;
* `Text.stripped_iff` states that stripping finds the core;
* `Text.stripOf_stripOf` states that a core is its own core.
-/

namespace Assay.Text

variable {p : Char → Bool} {text core : List Char}

/-- The text is the core between characters of the class, and the core neither begins nor ends with
one. -/
structure Stripped (p : Char → Bool) (text core : List Char) : Prop where
  around : ∃ before after,
    text = before ++ (core ++ after) ∧ before.all p = true ∧ after.all p = true
  first : ∀ c ∈ core.head?, p c = false
  last : ∀ c ∈ core.getLast?, p c = false

/-- Nothing is dropped in front of a character that stays. -/
theorem dropWhile_of_head (h : ∀ c ∈ core.head?, p c = false) : core.dropWhile p = core := by
  cases core with
  | nil => rfl
  | cons c rest =>
      have hc : p c = false := h c rfl
      simp [hc]

theorem rdropWhile_of_last (h : ∀ c ∈ core.getLast?, p c = false) : core.rdropWhile p = core := by
  have hreverse : core.reverse.dropWhile p = core.reverse :=
    dropWhile_of_head (by simpa using h)
  rw [List.rdropWhile, hreverse, List.reverse_reverse]

/-- Stripping leaves a core. -/
theorem stripped_stripOf (p : Char → Bool) (text : List Char) :
    Stripped p text (stripOf p text) := by
  have hstrip : stripOf p text = (text.dropWhile p).rdropWhile p := rfl
  have hfront : text.takeWhile p ++ text.dropWhile p = text := List.takeWhile_append_dropWhile
  generalize hrest : text.dropWhile p = rest at hstrip hfront
  have hback : rest.rdropWhile p ++ rest.rtakeWhile p = rest := List.rdropWhile_append_rtakeWhile
  rw [hstrip]
  constructor
  · refine ⟨text.takeWhile p, rest.rtakeWhile p, ?_, List.all_takeWhile, ?_⟩
    · rw [hback, hfront]
    · exact List.all_eq_true.2 fun c hc => List.mem_rtakeWhile_imp hc
  · -- The core begins like the text without its front.
    intro c hc
    have hhead : rest.head? = some c := by
      rw [← hback, List.head?_append, hc]
      rfl
    have hnot := List.head?_dropWhile_not p text
    rw [hrest, hhead] at hnot
    exact hnot
  · intro c hc
    rcases List.getLast?_eq_some_iff.1 hc with ⟨init, hinit⟩
    have hne : rest.rdropWhile p ≠ [] := by simp [hinit]
    have hnot := List.rdropWhile_last_not p rest hne
    simpa [hinit] using hnot

/-- There is one core only, and stripping finds it. -/
theorem stripped_iff : Stripped p text core ↔ core = stripOf p text := by
  constructor
  · rintro ⟨⟨before, after, rfl, hbefore, hafter⟩, hfirst, hlast⟩
    have hstrip : stripOf p (before ++ (core ++ after)) =
        ((core ++ after).dropWhile p).rdropWhile p := by
      unfold stripOf
      rw [List.dropWhile_append_of_pos (List.all_eq_true.1 hbefore)]
      rfl
    have hcore : (core ++ after).rdropWhile p = core := by
      rw [List.rdropWhile, List.reverse_append,
        List.dropWhile_append_of_pos fun c hc =>
          List.all_eq_true.1 hafter c (List.mem_reverse.1 hc)]
      exact rdropWhile_of_last hlast
    rw [hstrip]
    -- Without a core, stripping the front takes what stands after it as well.
    cases core with
    | nil =>
        have hnothing : after.dropWhile p = [] :=
          List.dropWhile_eq_nil_iff.2 (List.all_eq_true.1 hafter)
        rw [List.nil_append, hnothing, List.rdropWhile_nil]
    | cons c rest =>
        have hc : p c = false := hfirst c rfl
        rw [List.cons_append, List.dropWhile_cons_of_neg (by simp [hc]), ← List.cons_append, hcore]
  · rintro rfl
    exact stripped_stripOf p text

/-- A text with other characters at its ends is its own core. -/
theorem stripped_self (first : ∀ c ∈ core.head?, p c = false)
    (last : ∀ c ∈ core.getLast?, p c = false) : Stripped p core core :=
  ⟨⟨[], [], (List.append_nil core).symm, rfl, rfl⟩, first, last⟩

/-- Nothing is dropped of a text whose characters all stay. -/
theorem stripOf_of_forall (h : ∀ c ∈ text, p c = false) : stripOf p text = text :=
  (stripped_iff.1 (stripped_self (fun c hc => h c (List.mem_of_mem_head? hc))
    fun c hc => h c (List.mem_of_getLast? hc))).symm

/-- A character to be dropped is dropped from the front. -/
theorem stripOf_cons {c : Char} (h : p c = true) (text : List Char) :
    stripOf p (c :: text) = stripOf p text := by
  unfold stripOf
  rw [List.dropWhile_cons_of_pos h]

/-- Once stripped, nothing is left to strip. -/
theorem stripOf_stripOf (p : Char → Bool) (text : List Char) :
    stripOf p (stripOf p text) = stripOf p text := by
  have hcore := stripped_stripOf p text
  exact (stripped_iff.1 (stripped_self hcore.first hcore.last)).symm

theorem strip_strip (s : String) : strip (strip s) = strip s := by
  unfold strip
  rw [String.toList_ofList, stripOf_stripOf]

end Assay.Text
