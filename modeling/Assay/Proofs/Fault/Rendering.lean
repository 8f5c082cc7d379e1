import Assay.Fault
import Mathlib.Data.Nat.Find
import Mathlib.Logic.ExistsUnique

/-!
# Rendering — messages with their placeholders filled

A template splits at its leftmost placeholder, what comes after that one at the leftmost one there,
and so on.  A rendered message is the segments of its template with arguments between them.  What an
argument contains is not part of the template, and so cannot be taken for a placeholder.

* `Message.Splits` is the splitting, and there is one for every template;
* `Message.fill_of_first` states what filling the leftmost placeholder does;
* `Message.render_interleaves` states what a message looks like.
-/

namespace Assay.Message

/-! ## Placeholders -/

/-- A placeholder begins at a position of a template. -/
def BeginsAt (template : List Char) (n : Nat) : Prop := ['%', 's'] <+: template.drop n

instance (template : List Char) (n : Nat) : Decidable (BeginsAt template n) :=
  inferInstanceAs (Decidable (['%', 's'] <+: template.drop n))

/-- The leftmost placeholder begins at a position of a template. -/
def FirstAt (template : List Char) (n : Nat) : Prop :=
  BeginsAt template n ∧ ∀ earlier < n, ¬ BeginsAt template earlier

instance (template : List Char) (n : Nat) : Decidable (FirstAt template n) :=
  inferInstanceAs (Decidable (_ ∧ _))

/-- The segments of a template between its successive leftmost placeholders. -/
inductive Splits : List Char → List (List Char) → Prop where
  | last {template : List Char} :
      (∀ n, ¬ BeginsAt template n) → Splits template [template]
  | first {template : List Char} {n : Nat} {segments : List (List Char)} :
      FirstAt template n → Splits (template.drop (n + 2)) segments →
        Splits template (template.take n :: segments)

variable {template : List Char} {n : Nat}

/-- A placeholder is two characters long. -/
theorem BeginsAt.le_length (h : BeginsAt template n) : n + 2 ≤ template.length := by
  have hlength := h.length_le
  rw [List.length_drop] at hlength
  simp only [List.length_cons, List.length_nil] at hlength
  omega

/-- There is only one first placeholder. -/
theorem FirstAt.unique {m : Nat} (hm : FirstAt template m) (hn : FirstAt template n) : m = n := by
  rcases Nat.lt_trichotomy m n with hlt | heq | hgt
  · exact absurd hm.1 (hn.2 m hlt)
  · exact heq
  · exact absurd hn.1 (hm.2 n hgt)

/-- Every template splits in one way. -/
theorem existsUnique_splits (template : List Char) : ∃! segments, Splits template segments := by
  induction hlength : template.length using Nat.strong_induction_on generalizing template with
  | _ length ih =>
      by_cases h : ∃ n, BeginsAt template n
      -- The template is cut at its leftmost placeholder, and the rest is shorter.
      · have hfirst : FirstAt template (Nat.find h) :=
          ⟨Nat.find_spec h, fun earlier hearlier => Nat.find_min h hearlier⟩
        have hshorter : (template.drop (Nat.find h + 2)).length < length := by
          have hle := hfirst.1.le_length
          rw [List.length_drop]
          omega
        obtain ⟨segments, hsplits, hunique⟩ := ih _ hshorter _ rfl
        refine ⟨_, .first hfirst hsplits, ?_⟩
        intro other hother
        cases hother with
        | last hnone => exact absurd hfirst.1 (hnone _)
        | first hat hrest =>
            cases hat.unique hfirst
            rw [hunique _ hrest]
      · have hnone : ∀ n, ¬ BeginsAt template n := fun n hn => h ⟨n, hn⟩
        refine ⟨[template], .last hnone, ?_⟩
        intro other hother
        cases hother with
        | last => rfl
        | first hat => exact absurd hat.1 (hnone _)

/-! ## Filling -/

/-- A character that begins no placeholder stays. -/
theorem fill_cons {c : Char} {arguments : List String} (h : ¬ BeginsAt (c :: template) 0) :
    fill (c :: template) arguments = c :: fill template arguments := by
  rw [fill]
  · rintro rest - rfl rfl
    exact h ⟨rest, rfl⟩
  · rintro rest argument later - rfl rfl
    exact h ⟨rest, rfl⟩

/-- Without a placeholder, a template stays as it is. -/
theorem fill_of_none {arguments : List String} (h : ∀ n, ¬ BeginsAt template n) :
    fill template arguments = template := by
  induction template with
  | nil => rfl
  | cons c template ih => rw [fill_cons (h 0), ih fun n => h (n + 1)]

/-- The leftmost placeholder takes the first argument, or nothing if there is none.  What comes
after it is filled with the other arguments. -/
theorem fill_of_first {arguments : List String} (h : FirstAt template n) :
    fill template arguments = template.take n ++ (arguments.getD 0 "").toList ++
      fill (template.drop (n + 2)) arguments.tail := by
  -- The induction is on where the placeholder begins: the characters before it stay one by one.
  induction n generalizing template with
  | zero =>
      obtain ⟨rest, rfl⟩ := h.1
      cases arguments with
      | nil => rfl
      | cons argument arguments => rfl
  | succ n ih =>
      cases template with
      | nil => simp [FirstAt, BeginsAt] at h
      | cons c template =>
          have hrest : FirstAt template n :=
            ⟨h.1, fun earlier hearlier => h.2 (earlier + 1) (Nat.succ_lt_succ hearlier)⟩
          rw [fill_cons (h.2 0 n.succ_pos), ih hrest]
          rfl

/-- Segments with arguments before them.  Missing arguments are empty. -/
def preceded (arguments : List String) (segments : List (List Char)) : List Char :=
  segments.zipIdx.flatMap fun part => (arguments.getD part.2 "").toList ++ part.1

theorem preceded_cons (arguments : List String) (segment : List Char)
    (segments : List (List Char)) :
    preceded arguments (segment :: segments) =
      (arguments.getD 0 "").toList ++ segment ++ preceded arguments.tail segments := by
  have htail : ∀ i, arguments.tail.getD i "" = arguments.getD (i + 1) "" := by
    intro i
    cases arguments <;> simp
  simp only [preceded, List.zipIdx_cons', List.flatMap_cons, List.flatMap_map, htail]
  rfl

/-- A filled template begins with its first segment, and each other one follows an argument. -/
theorem fill_of_splits {segment : List Char} {segments : List (List Char)}
    {arguments : List String} (h : Splits template (segment :: segments)) :
    fill template arguments = segment ++ preceded arguments segments := by
  induction segments generalizing template segment arguments with
  | nil =>
      cases h with
      | last hnone => rw [fill_of_none hnone]; simp [preceded]
      | first _ hrest => cases hrest
  | cons second segments ih =>
      cases h with
      | first hfirst hrest =>
          rw [fill_of_first hfirst, ih hrest, preceded_cons]
          simp only [List.append_assoc]

/-- A rendered message is the segments of its template, with the arguments between them in turn.
The argument for a placeholder stands there as it is, and what comes after the placeholder is
rendered with the later arguments only. -/
theorem render_interleaves (message : Message) :
    (∃! segments, Splits message.template.toList segments) ∧
      (∀ segment segments, Splits message.template.toList (segment :: segments) →
        message.render.toList = segment ++ segments.zipIdx.flatMap fun part =>
          (message.arguments.getD part.2 "").toList ++ part.1) ∧
      ∀ n argument later, FirstAt message.template.toList n →
        message.arguments = argument :: later →
          message.render = String.ofList (message.template.toList.take n) ++ argument ++
            render ⟨String.ofList (message.template.toList.drop (n + 2)), later⟩ := by
  refine ⟨existsUnique_splits _, ?_, ?_⟩
  · intro segment segments hsplits
    rw [render, String.toList_ofList, fill_of_splits hsplits, preceded]
  · intro n argument later hfirst harguments
    rw [← String.toList_inj]
    simp [render, fill_of_first hfirst, harguments]

/-- The first placeholder stands after a percent sign of the text, and its argument contains a
placeholder, which no argument fills.  The second has no argument. -/
theorem render_interleaves_percent :
    let message : Message := ⟨"%%s-%s%", ["a%sb"]⟩
    Splits message.template.toList [['%'], ['-'], ['%']] ∧ FirstAt message.template.toList 1 ∧
      message.render.toList = "%a%sb-%".toList ∧
      message.render =
        String.ofList ['%'] ++ "a%sb" ++ render ⟨String.ofList ['-', '%', 's', '%'], []⟩ := by
  intro message
  have htemplate : message.template.toList = ['%', '%', 's', '-', '%', 's', '%'] := by decide
  have hfirst : FirstAt message.template.toList 1 := by decide
  have hsplits : Splits message.template.toList [['%'], ['-'], ['%']] := by
    have hsecond : FirstAt ['-', '%', 's', '%'] 1 := by decide
    rw [htemplate] at hfirst ⊢
    refine .first hfirst (.first hsecond (.last ?_))
    intro n hn
    have hlength := hn.le_length
    simp only [List.drop_succ_cons, List.drop_zero, List.length_singleton] at hlength
    omega
  have hrender := render_interleaves message
  refine ⟨hsplits, hfirst, ?_, ?_⟩
  · exact (hrender.2.1 _ _ hsplits).trans (by decide)
  · have hlater := hrender.2.2 1 "a%sb" [] hfirst rfl
    rw [htemplate] at hlater
    exact hlater

end Assay.Message
