import Assay.Check.Markup
import Mathlib.Data.List.TakeWhile

/-!
# Markup — what is read as markup, and how far

Markup is opened by a letter, a slash and a letter, or the mark of a declaration, and it needs a
greater-than sign.  Tags and declarations end at the first one, comments perhaps at a later one.
Whether a piece of markup is forbidden is seen before the first one in any case.

* `readTag?_closed` and `readMarkup?_of_opensDeclaration` read what is closed;
* `readMarkup?_eq_some` and `readMarkup?_isSome_iff` state what is read;
* `Forbids` says that forbidden markup begins here, and `forbids_closed` that what follows the first
  greater-than sign does not matter.
-/

namespace Assay.Check

variable {allowed : List String} {text rest body : List Char} {piece : MarkupPiece}

/-! ## Ends -/

/-- The closing sign that counts is the first one. -/
theorem afterClosing?_of_closed (h : '>' ∉ body) (rest : List Char) :
    afterClosing? (body ++ '>' :: rest) = some rest := by
  have hbody : ∀ c ∈ body, (c != '>') = true := by
    intro c hc
    exact bne_iff_ne.2 (ne_of_mem_of_not_mem hc h)
  have hdrop : (body ++ '>' :: rest).dropWhile (· != '>') = '>' :: rest := by
    rw [List.dropWhile_append_of_pos hbody]
    rfl
  unfold afterClosing?
  rw [hdrop]
  rfl

/-- What is behind the closing sign has no other one before it. -/
theorem afterClosing?_eq_some (h : afterClosing? text = some rest) :
    ∃ body, text = body ++ '>' :: rest ∧ '>' ∉ body := by
  by_cases hclosed : '>' ∈ text
  · rcases List.eq_append_cons_of_mem hclosed with ⟨body, others, rfl, hbody⟩
    rw [afterClosing?_of_closed hbody] at h
    cases h
    exact ⟨body, rfl, hbody⟩
  · have hdrop : text.dropWhile (· != '>') = [] := by
      refine List.dropWhile_eq_nil_iff.2 fun c hc => ?_
      exact bne_iff_ne.2 (ne_of_mem_of_not_mem hc hclosed)
    unfold afterClosing? at h
    rw [hdrop] at h
    cases h

theorem afterComment?_eq_some (h : afterComment? text = some rest) :
    ∃ body, text = body ++ '>' :: rest := by
  fun_induction afterComment? text with
  | case1 others =>
      cases h
      exact ⟨['-', '-'], rfl⟩
  | case2 c others _ ih =>
      rcases ih h with ⟨body, rfl⟩
      exact ⟨c :: body, rfl⟩
  | case3 => cases h

/-! ## Tags -/

/-- The text behind a slash, if it begins with one. -/
def unslashed : List Char → List Char
  | '/' :: rest => rest
  | text => text

def readNamed? : List Char → Option MarkupPiece
  | [] => none
  | first :: others =>
    if first.isAlpha then
      (afterClosing? others).map fun rest => ⟨some (first :: others.takeWhile isTagNameChar), rest⟩
    else none

theorem unslashed_of_ne {c : Char} (h : c ≠ '/') (text : List Char) :
    unslashed (c :: text) = c :: text := by
  unfold unslashed
  split
  · rename_i heq
    exact absurd (List.cons.inj heq).1 h
  · rfl

/-- A closing tag is read as the opening one. -/
theorem readTag?_eq (text : List Char) : readTag? text = readNamed? (unslashed text) := by
  cases text with
  | nil => rfl
  | cons c rest =>
      by_cases hslash : c = '/'
      · subst hslash
        rfl
      · rw [unslashed_of_ne hslash]
        simp [readTag?, readNamed?, hslash]

def leadingName? : List Char → Option (List Char)
  | [] => none
  | first :: others =>
    if first.isAlpha then some (first :: others.takeWhile isTagNameChar) else none

def opensTag (text : List Char) : Bool := (unslashed text).head?.any Char.isAlpha

theorem unslashed_append (body rest : List Char) :
    unslashed (body ++ '>' :: rest) = unslashed body ++ '>' :: rest := by
  cases body with
  | nil => rfl
  | cons c body =>
      by_cases hslash : c = '/'
      · subst hslash
        rfl
      · rw [unslashed_of_ne hslash, List.cons_append, unslashed_of_ne hslash]

theorem mem_of_mem_unslashed {c : Char} (h : c ∈ unslashed text) : c ∈ text := by
  unfold unslashed at h
  split at h
  · exact List.mem_cons_of_mem _ h
  · exact h

/-- No name goes on beyond a greater-than sign. -/
theorem takeWhile_name (others rest : List Char) :
    (others ++ '>' :: rest).takeWhile isTagNameChar = others.takeWhile isTagNameChar := by
  induction others with
  | nil => rfl
  | cons c others ih => simp only [List.cons_append, List.takeWhile_cons, ih]

/-- A tag ends at the first greater-than sign. -/
theorem readTag?_closed (h : '>' ∉ body) (rest : List Char) :
    readTag? (body ++ '>' :: rest) =
      (leadingName? (unslashed body)).map fun name => ⟨some name, rest⟩ := by
  have hclosed : '>' ∉ unslashed body := fun hmem => h (mem_of_mem_unslashed hmem)
  rw [readTag?_eq, unslashed_append]
  cases hbody : unslashed body with
  | nil => rfl
  | cons first others =>
      rw [hbody] at hclosed
      have hothers : '>' ∉ others := List.not_mem_of_not_mem_cons hclosed
      simp only [List.cons_append, readNamed?, afterClosing?_of_closed hothers, takeWhile_name,
        leadingName?]
      cases first.isAlpha <;> rfl

theorem mem_of_readTag? (h : readTag? text = some piece) : '>' ∈ text := by
  rw [readTag?_eq] at h
  refine mem_of_mem_unslashed ?_
  cases htext : unslashed text with
  | nil =>
      rw [htext] at h
      cases h
  | cons first others =>
      rw [htext, readNamed?] at h
      split at h
      · rcases Option.map_eq_some_iff.1 h with ⟨rest, hrest, _⟩
        rcases afterClosing?_eq_some hrest with ⟨body, rfl, _⟩
        simp
      · cases h

/-- What is read as a tag ends at its only greater-than sign. -/
theorem readTag?_eq_some (h : readTag? text = some piece) :
    ∃ body, text = body ++ '>' :: piece.rest ∧ '>' ∉ body := by
  rcases List.eq_append_cons_of_mem (mem_of_readTag? h) with ⟨body, others, rfl, hbody⟩
  rw [readTag?_closed hbody] at h
  rcases Option.map_eq_some_iff.1 h with ⟨name, _, rfl⟩
  exact ⟨body, rfl, hbody⟩

theorem opensTag_append (body rest : List Char) :
    opensTag (body ++ '>' :: rest) = opensTag body := by
  unfold opensTag
  rw [unslashed_append]
  cases unslashed body <;> rfl

theorem isSome_leadingName? (text : List Char) :
    (leadingName? text).isSome = text.head?.any Char.isAlpha := by
  cases text with
  | nil => rfl
  | cons first others =>
      unfold leadingName?
      cases hfirst : first.isAlpha <;> simp [hfirst]

/-! ## Declarations and comments -/

def opensDeclaration (text : List Char) : Bool := text.head?.any fun c => c == '!' || c == '?'

theorem opensDeclaration_append (body rest : List Char) :
    opensDeclaration (body ++ '>' :: rest) = opensDeclaration body := by
  cases body <;> rfl

/-- Declarations begin with an exclamation or a question mark. -/
theorem opensDeclaration_iff :
    opensDeclaration text = true ↔ ∃ others, text = '!' :: others ∨ text = '?' :: others := by
  cases text with
  | nil => simp [opensDeclaration]
  | cons c others => simp [opensDeclaration, exists_or]

/-- What is read as a comment or a declaration has no name. -/
theorem readDeclaration_eq_some (h : readComment? text = some piece ∨
    readDeclaration? text = some piece) :
    piece.name = none ∧ opensDeclaration text = true ∧
      ∃ body, text = body ++ '>' :: piece.rest := by
  rcases h with h | h
  · unfold readComment? at h
    split at h
    · rename_i others
      rcases Option.map_eq_some_iff.1 h with ⟨rest, hrest, rfl⟩
      rcases afterComment?_eq_some hrest with ⟨body, rfl⟩
      exact ⟨rfl, rfl, '!' :: '-' :: '-' :: body, rfl⟩
    · cases h
  · unfold readDeclaration? at h
    split at h
    · rename_i others
      rcases Option.map_eq_some_iff.1 h with ⟨rest, hrest, rfl⟩
      rcases afterClosing?_eq_some hrest with ⟨body, rfl, _⟩
      exact ⟨rfl, rfl, '!' :: body, rfl⟩
    · rename_i others
      rcases Option.map_eq_some_iff.1 h with ⟨rest, hrest, rfl⟩
      rcases afterClosing?_eq_some hrest with ⟨body, rfl, _⟩
      exact ⟨rfl, rfl, '?' :: body, rfl⟩
    · cases h

/-! ## Markup -/

/-- Markup ends at a greater-than sign, and a tag at the first one. -/
theorem readMarkup?_eq_some (h : readMarkup? text = some piece) :
    ∃ body, text = body ++ '>' :: piece.rest ∧ ('>' ∈ body → piece.name = none) := by
  unfold readMarkup? at h
  rcases Option.or_eq_some_iff.1 h with hcomment | ⟨_, h⟩
  · rcases readDeclaration_eq_some (.inl hcomment) with ⟨hname, _, body, htext⟩
    exact ⟨body, htext, fun _ => hname⟩
  · rcases Option.or_eq_some_iff.1 h with htag | ⟨_, hdeclaration⟩
    · rcases readTag?_eq_some htag with ⟨body, htext, hbody⟩
      exact ⟨body, htext, fun hmem => absurd hmem hbody⟩
    · rcases readDeclaration_eq_some (.inr hdeclaration) with ⟨hname, _, body, htext⟩
      exact ⟨body, htext, fun _ => hname⟩

/-- A declaration that is closed is read, and has no name. -/
theorem readMarkup?_of_opensDeclaration (hclosed : '>' ∉ body)
    (hopens : opensDeclaration body = true) (rest : List Char) :
    ∃ piece, readMarkup? (body ++ '>' :: rest) = some piece ∧ piece.name = none := by
  have hread : readTag? (body ++ '>' :: rest) = none ∧
      ∃ piece, readDeclaration? (body ++ '>' :: rest) = some piece := by
    rw [readTag?_closed hclosed]
    rcases opensDeclaration_iff.1 hopens with ⟨others, rfl | rfl⟩
    · have hothers : '>' ∉ others := List.not_mem_of_not_mem_cons hclosed
      exact ⟨rfl, ⟨none, rest⟩, by simp [readDeclaration?, afterClosing?_of_closed hothers]⟩
    · have hothers : '>' ∉ others := List.not_mem_of_not_mem_cons hclosed
      exact ⟨rfl, ⟨none, rest⟩, by simp [readDeclaration?, afterClosing?_of_closed hothers]⟩
  rcases hread with ⟨htag, piece, hpiece⟩
  unfold readMarkup?
  rw [htag, hpiece, Option.none_or]
  -- A comment is read first, which may go on beyond the declaration.
  cases hcomment : readComment? (body ++ '>' :: rest) with
  | some comment => exact ⟨comment, rfl, (readDeclaration_eq_some (.inl hcomment)).1⟩
  | none => exact ⟨piece, rfl, (readDeclaration_eq_some (.inr hpiece)).1⟩

/-- Markup that is no declaration is a tag. -/
theorem readMarkup?_of_not_opensDeclaration (h : opensDeclaration text = false) :
    readMarkup? text = readTag? text := by
  have hnone : ∀ read : List Char → Option MarkupPiece, (∀ piece, read text = some piece →
      opensDeclaration text = true) → read text = none := by
    intro read hread
    refine Option.eq_none_iff_forall_ne_some.2 fun piece hpiece => ?_
    rw [hread piece hpiece] at h
    cases h
  have hcomment := hnone readComment? fun piece hpiece =>
    (readDeclaration_eq_some (.inl hpiece)).2.1
  have hdeclaration := hnone readDeclaration? fun piece hpiece =>
    (readDeclaration_eq_some (.inr hpiece)).2.1
  unfold readMarkup?
  rw [hcomment, hdeclaration, Option.none_or, Option.or_none]

/-- There is markup where something opens it and a greater-than sign follows. -/
theorem readMarkup?_isSome_iff :
    (readMarkup? text).isSome = true ↔
      (opensDeclaration text = true ∨ opensTag text = true) ∧ '>' ∈ text := by
  by_cases hmem : '>' ∈ text
  · rcases List.eq_append_cons_of_mem hmem with ⟨body, rest, rfl, hclosed⟩
    cases hopens : opensDeclaration body with
    | true =>
        rcases readMarkup?_of_opensDeclaration hclosed hopens rest with ⟨piece, hpiece, _⟩
        simp [hpiece, opensDeclaration_append, hopens]
    | false =>
        -- Only a tag can be read, and it is one if it has a name.
        rw [readMarkup?_of_not_opensDeclaration (by rw [opensDeclaration_append, hopens]),
          readTag?_closed hclosed, opensDeclaration_append, hopens, opensTag_append]
        simp [isSome_leadingName?, opensTag]
  · -- Whatever is read ends at a greater-than sign.
    refine iff_of_false (fun hsome => ?_) fun h => hmem h.2
    rcases Option.isSome_iff_exists.1 hsome with ⟨piece, hpiece⟩
    rcases readMarkup?_eq_some hpiece with ⟨body, rfl, _⟩
    simp at hmem

/-! ## Forbidden markup -/

/-- Markup that may not stay begins here, once its less-than sign is taken. -/
def Forbids (allowed : List String) (text : List Char) : Prop :=
  ∃ piece, readMarkup? text = some piece ∧ isAllowed allowed piece = false

/-- Only what is read as markup is forbidden. -/
theorem Forbids.isSome (h : Forbids allowed text) : (readMarkup? text).isSome = true := by
  rcases h with ⟨piece, hpiece, _⟩
  exact Option.isSome_of_mem hpiece

/-- Whether markup is forbidden is seen before the first greater-than sign. -/
theorem forbids_closed_iff (hclosed : '>' ∉ body) (rest : List Char) :
    Forbids allowed (body ++ '>' :: rest) ↔
      opensDeclaration body = true ∨ ∃ name ∈ leadingName? (unslashed body),
        allowed.contains (Text.lower (String.ofList name)) = false := by
  cases hopens : opensDeclaration body with
  | true =>
      rcases readMarkup?_of_opensDeclaration hclosed hopens rest with ⟨piece, hpiece, hname⟩
      refine iff_of_true ⟨piece, hpiece, ?_⟩ (.inl rfl)
      simp [isAllowed, hname]
  | false =>
      have hread : readMarkup? (body ++ '>' :: rest) =
          (leadingName? (unslashed body)).map fun name => ⟨some name, rest⟩ := by
        rw [readMarkup?_of_not_opensDeclaration (by rw [opensDeclaration_append, hopens]),
          readTag?_closed hclosed]
      unfold Forbids
      rw [hread]
      cases leadingName? (unslashed body) with
      | none => simp
      | some name => simp [isAllowed]

/-- What follows the closing sign has no part in whether markup is forbidden. -/
theorem forbids_closed (hclosed : '>' ∉ body) (rest other : List Char) :
    Forbids allowed (body ++ '>' :: rest) ↔ Forbids allowed (body ++ '>' :: other) :=
  (forbids_closed_iff hclosed rest).trans (forbids_closed_iff hclosed other).symm

end Assay.Check
