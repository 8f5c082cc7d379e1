import Assay.Proofs.Check.Markup
import Assay.Proofs.Check.Normal

/-!
# Seams — markup that comes about where markup is dropped

Forbidden markup is dropped in one pass.  What lay before a dropped piece then meets what lay behind
it, and a less-than sign before the seam may begin new markup.  A kept tag is not looked into
either.  There is forbidden markup in what is left at these two places and nowhere else.

* `HoldsForbidden` says that there is forbidden markup somewhere in a text;
* `Scanned` takes a text in chunks that stay and chunks that are dropped, `exists_scanned` states
  that the pass does so, and `Chunk.Leaks` says of a chunk that forbidden markup is left there;
* `stripped_forbidden_iff` states that it is left nowhere else, and `not_holdsForbidden_stripTags`
  that none is left where every less-than sign is closed before the next one.
-/

namespace Assay.Check

variable {allowed : List String} {text body : List Char} {piece : MarkupPiece}

/-! ## Somewhere in a list -/

/-- Somewhere in the list there is a member of which, with what follows it, the property holds. -/
def Somewhere {α : Type} (p : α → List α → Prop) (xs : List α) : Prop :=
  ∃ before x after, xs = before ++ x :: after ∧ p x after

theorem not_somewhere_nil {α : Type} {p : α → List α → Prop} : ¬Somewhere p [] := by
  rintro ⟨before, x, after, hxs, _⟩
  cases before <;> cases hxs

theorem somewhere_cons {α : Type} {p : α → List α → Prop} {x : α} {xs : List α} :
    Somewhere p (x :: xs) ↔ p x xs ∨ Somewhere p xs := by
  constructor
  · rintro ⟨before, y, after, hxs, hp⟩
    cases before with
    | nil =>
        cases hxs
        exact .inl hp
    | cons _ before =>
        cases hxs
        exact .inr ⟨before, y, after, rfl, hp⟩
  · rintro (hp | ⟨before, y, after, rfl, hp⟩)
    · exact ⟨[], x, xs, rfl, hp⟩
    · exact ⟨x :: before, y, after, rfl, hp⟩

/-! ## Forbidden markup in a text -/

/-- Markup that may not stay begins somewhere in the text. -/
def HoldsForbidden (allowed : List String) (text : List Char) : Prop :=
  Somewhere (fun c after => c = '<' ∧ Forbids allowed after) text

/-- Forbidden markup begins with the first character or behind it. -/
theorem holdsForbidden_cons {c : Char} :
    HoldsForbidden allowed (c :: text) ↔
      c = '<' ∧ Forbids allowed text ∨ HoldsForbidden allowed text := somewhere_cons

/-- Nothing that begins before a greater-than sign depends on what follows it. -/
theorem holdsForbidden_closed (hclosed : '>' ∉ body) (rest : List Char) :
    HoldsForbidden allowed (body ++ '>' :: rest) ↔
      HoldsForbidden allowed (body ++ ['>']) ∨ HoldsForbidden allowed rest := by
  induction body with
  | nil =>
      have hsign : '>' ≠ '<' := by decide
      have hnil : ¬HoldsForbidden allowed [] := not_somewhere_nil
      simp [holdsForbidden_cons, hsign, hnil]
  | cons c body ih =>
      have hbody : '>' ∉ body := List.not_mem_of_not_mem_cons hclosed
      rw [List.cons_append, List.cons_append, holdsForbidden_cons, holdsForbidden_cons, ih hbody,
        forbids_closed hbody rest [], or_assoc]

/-! ## Chunks of a text -/

/-- What the pass takes at once: a character that stays, a tag that stays, or markup that is
dropped. -/
inductive Chunk where
  | plain (c : Char)
  | kept (tag : List Char)
  | dropped

def Chunk.left : Chunk → List Char
  | plain c => [c]
  | kept tag => tag
  | dropped => []

def leftOf (chunks : List Chunk) : List Char := chunks.flatMap Chunk.left

theorem leftOf_plain (c : Char) (chunks : List Chunk) :
    leftOf (.plain c :: chunks) = c :: leftOf chunks := rfl

/-- Kept markup is left with its signs. -/
theorem leftOf_kept (body : List Char) (chunks : List Chunk) :
    leftOf (.kept ('<' :: (body ++ ['>'])) :: chunks) = '<' :: (body ++ '>' :: leftOf chunks) := by
  simp [leftOf, Chunk.left]

theorem leftOf_dropped (chunks : List Chunk) : leftOf (.dropped :: chunks) = leftOf chunks := rfl

/-- The pass takes a text in these chunks. -/
inductive Scanned (allowed : List String) : List Char → List Chunk → Prop where
  | nil : Scanned allowed [] []
  | plain {c : Char} {rest : List Char} {chunks : List Chunk}
      (unread : c = '<' → readMarkup? rest = none) :
      Scanned allowed rest chunks → Scanned allowed (c :: rest) (.plain c :: chunks)
  | kept {body : List Char} {piece : MarkupPiece} {chunks : List Chunk}
      (read : readMarkup? (body ++ '>' :: piece.rest) = some piece)
      (stays : isAllowed allowed piece = true) (closed : '>' ∉ body) :
      Scanned allowed piece.rest chunks →
      Scanned allowed ('<' :: (body ++ '>' :: piece.rest))
        (.kept ('<' :: (body ++ ['>'])) :: chunks)
  | dropped {body : List Char} {piece : MarkupPiece} {chunks : List Chunk}
      (read : readMarkup? (body ++ '>' :: piece.rest) = some piece)
      (goes : isAllowed allowed piece = false) :
      Scanned allowed piece.rest chunks →
      Scanned allowed ('<' :: (body ++ '>' :: piece.rest)) (.dropped :: chunks)

/-- What is allowed has a name. -/
theorem not_mem_of_isAllowed (h : isAllowed allowed piece = true)
    (hname : '>' ∈ body → piece.name = none) : '>' ∉ body := by
  intro hmem
  rw [isAllowed, hname hmem] at h
  cases h

/-- What is read of a text ends with the closing sign. -/
theorem take_read (body rest : List Char) :
    (body ++ '>' :: rest).take ((body ++ '>' :: rest).length - rest.length) = body ++ ['>'] := by
  have hlength : (body ++ '>' :: rest).length - rest.length = (body ++ ['>']).length := by
    simp
    omega
  rw [hlength, List.append_cons body '>' rest, List.take_left]

/-- With a step for each character, a text is taken to its end, and what is left is left of its
chunks. -/
theorem exists_scanned (allowed : List String) {steps : Nat} (h : text.length ≤ steps) :
    ∃ chunks, Scanned allowed text chunks ∧ dropMarkup allowed steps text = leftOf chunks := by
  induction steps generalizing text with
  | zero =>
      have hempty : text = [] := List.eq_nil_of_length_eq_zero (Nat.le_zero.1 h)
      subst hempty
      exact ⟨[], .nil, rfl⟩
  | succ steps ih =>
      cases text with
      | nil => exact ⟨[], .nil, rfl⟩
      | cons c rest =>
          have hrest : rest.length ≤ steps := Nat.le_of_succ_le_succ h
          -- Everything but markup stays, character by character.
          have hplain (unread : c = '<' → readMarkup? rest = none) : ∃ chunks,
              Scanned allowed (c :: rest) chunks ∧
                c :: dropMarkup allowed steps rest = leftOf chunks := by
            rcases ih hrest with ⟨chunks, hchunks, hleft⟩
            exact ⟨.plain c :: chunks, .plain unread hchunks, by rw [hleft]; rfl⟩
          unfold dropMarkup
          by_cases hc : c = '<'
          · cases hread : readMarkup? rest with
            | none =>
                simp only [if_pos hc]
                exact hplain fun _ => hread
            | some piece =>
                rcases readMarkup?_eq_some hread with ⟨body, hbody, hname⟩
                subst hc hbody
                have hshort : piece.rest.length ≤ steps := by
                  rw [List.length_append, List.length_cons] at hrest
                  omega
                rcases ih hshort with ⟨chunks, hchunks, hleft⟩
                simp only [if_true, take_read]
                cases hallowed : isAllowed allowed piece with
                | true =>
                    have hclosed := not_mem_of_isAllowed hallowed hname
                    refine ⟨_, .kept hread hallowed hclosed hchunks, ?_⟩
                    rw [hleft]
                    rfl
                | false =>
                    refine ⟨_, .dropped hread hallowed hchunks, ?_⟩
                    rw [hleft]
                    rfl
          · simp only [if_neg hc]
            exact hplain fun hsign => absurd hsign hc

/-! ## Where forbidden markup is left -/

variable {chunks : List Chunk}

/-- Markup was dropped next, or next after a slash. -/
def DropsNext (chunks : List Chunk) : Prop :=
  ∃ after, chunks = .dropped :: after ∨ chunks = .plain '/' :: .dropped :: after

/-- Forbidden markup is left at a seam behind a less-than sign, or inside a kept tag. -/
def Chunk.Leaks (allowed : List String) : Chunk → List Chunk → Prop
  | .plain c, after => c = '<' ∧ DropsNext after ∧ Forbids allowed (leftOf after)
  | .kept tag, _ => HoldsForbidden allowed tag.tail
  | .dropped, _ => False

namespace Scanned

/-- No character is added. -/
theorem mem_of_mem_left (h : Scanned allowed text chunks) {c : Char} (hc : c ∈ leftOf chunks) :
    c ∈ text := by
  induction h with
  | nil => cases hc
  | plain _ _ ih =>
      rcases List.mem_cons.1 hc with rfl | hc
      · exact .head _
      · exact .tail _ (ih hc)
  | kept _ _ _ _ ih =>
      rw [leftOf_kept] at hc
      simp only [List.mem_cons, List.mem_append] at hc ⊢
      exact hc.imp_right (Or.imp_right (Or.imp_right ih))
  | dropped _ _ _ ih =>
      have hrest := ih hc
      simp [hrest]

/-- Unless markup is dropped at the front, what is left begins like the text. -/
theorem head?_left (h : Scanned allowed text chunks)
    (hfirst : ∀ after, chunks ≠ .dropped :: after) :
    (leftOf chunks).head? = text.head? := by
  cases h with
  | nil => rfl
  | plain _ _ => rfl
  | kept _ _ _ _ => rfl
  | dropped _ _ _ => exact absurd rfl (hfirst _)

/-- Unless markup is dropped next, what is left opens markup if the text does. -/
theorem opens_left (h : Scanned allowed text chunks) (hnext : ¬DropsNext chunks) :
    opensDeclaration (leftOf chunks) = opensDeclaration text ∧
      opensTag (leftOf chunks) = opensTag text := by
  have hfirst : ∀ after, chunks ≠ .dropped :: after :=
    fun after hchunks => hnext ⟨after, .inl hchunks⟩
  refine ⟨congrArg (Option.any _) (h.head?_left hfirst), ?_⟩
  cases h with
  | nil => rfl
  | @plain c rest chunks _ hrest =>
      change opensTag (c :: leftOf chunks) = _
      unfold opensTag
      by_cases hslash : c = '/'
      · -- Behind a slash the next character decides, so nothing may be dropped there either.
        subst hslash
        refine congrArg (Option.any _) (hrest.head?_left fun after hchunks => ?_)
        exact hnext ⟨after, .inr (by rw [hchunks])⟩
      · rw [unslashed_of_ne hslash, unslashed_of_ne hslash]
        rfl
  | kept _ _ _ _ => rfl
  | dropped _ _ _ => exact absurd rfl (hfirst _)

/-- Where no markup was read, forbidden markup comes about only if markup is dropped next. -/
theorem dropsNext_of_forbids (h : Scanned allowed text chunks) (hread : readMarkup? text = none)
    (hforbids : Forbids allowed (leftOf chunks)) : DropsNext chunks := by
  rcases readMarkup?_isSome_iff.1 hforbids.isSome with ⟨hopens, hclosed⟩
  by_contra hnext
  -- What opens it opened markup in the text, and what closes it was there as well.
  have hsome : (readMarkup? text).isSome = true := by
    rw [(h.opens_left hnext).1, (h.opens_left hnext).2] at hopens
    exact readMarkup?_isSome_iff.2 ⟨hopens, h.mem_of_mem_left hclosed⟩
  rw [hread] at hsome
  cases hsome

/-- By induction on the pass: forbidden markup is left at seams and inside kept tags. -/
theorem holdsForbidden_iff (h : Scanned allowed text chunks) :
    HoldsForbidden allowed (leftOf chunks) ↔ Somewhere (Chunk.Leaks allowed) chunks := by
  induction h with
  | nil => exact iff_of_false not_somewhere_nil not_somewhere_nil
  | @plain c rest chunks unread hrest ih =>
      rw [leftOf_plain, holdsForbidden_cons, somewhere_cons, ih]
      -- A less-than sign that stays was not read, so what it begins now came about at a seam.
      refine or_congr_left (and_congr_right fun hc => ?_)
      exact (and_iff_right_of_imp (hrest.dropsNext_of_forbids (unread hc))).symm
  | @kept body piece chunks read stays closed _ ih =>
      -- The tag itself is read in what is left as it was read in the text.
      have hbegin : ¬Forbids allowed (body ++ '>' :: leftOf chunks) := by
        rw [forbids_closed closed _ piece.rest]
        rintro ⟨other, hother, hforbidden⟩
        rw [read] at hother
        cases hother
        rw [stays] at hforbidden
        cases hforbidden
      rw [leftOf_kept, holdsForbidden_cons, holdsForbidden_closed closed, somewhere_cons, ih]
      exact or_iff_right fun hfirst => hbegin hfirst.2
  | dropped _ _ _ ih =>
      rw [leftOf_dropped, somewhere_cons, ih]
      exact (or_iff_right id).symm

end Scanned

theorem stripped_value (allowed : List String) (text : String) :
    (stripped allowed (.str text)).value = .str (stripTags allowed text) := cleaned_value rfl

/-- Dropping tags leaves what a scan of the text keeps. -/
theorem exists_scanned_stripTags (allowed : List String) (text : String) :
    ∃ chunks, Scanned allowed text.toList chunks ∧
      stripTags allowed text = String.ofList (leftOf chunks) := by
  rcases exists_scanned allowed (Nat.le_of_eq String.length_toList) with ⟨chunks, hchunks, hleft⟩
  exact ⟨chunks, hchunks, by rw [stripTags, hleft]⟩

/-- What is left of a text holds forbidden markup exactly where a less-than sign came to stand
before it, when what lay between was dropped, and inside the tags that were kept. -/
theorem stripped_forbidden_iff (allowed : List String) (text : String) :
    ∃ chunks, Scanned allowed text.toList chunks ∧
      (stripped allowed (.str text)).value = .str (String.ofList (leftOf chunks)) ∧
      (HoldsForbidden allowed (leftOf chunks) ↔ Somewhere (Chunk.Leaks allowed) chunks) := by
  rcases exists_scanned_stripTags allowed text with ⟨chunks, hchunks, hleft⟩
  refine ⟨chunks, hchunks, ?_, hchunks.holdsForbidden_iff⟩
  rw [stripped_value, hleft]

/-- The second less-than sign is dropped with the markup that it begins, and the first one then
begins markup, which a second pass would drop. -/
theorem stripped_joins :
    let left := "<script>"
    (stripped [] (.str "<<b>script>")).value = .str left ∧ HoldsForbidden [] left.toList ∧
      (stripped [] (.str left)).value = .str "" := by
  intro left
  have hleft : left.toList = '<' :: "script>".toList := by decide
  have hforbids : Forbids [] "script>".toList := ⟨⟨some "script".toList, []⟩, rfl, rfl⟩
  have hholds : HoldsForbidden [] left.toList := by
    rw [hleft, holdsForbidden_cons]
    exact .inl ⟨rfl, hforbids⟩
  have hagain : stripTags [] left = "" := by decide
  exact ⟨(stripped_value _ _).trans rfl, hholds, by rw [stripped_value, hagain]⟩

/-! ## Texts that are left clean -/

/-- Between two less-than signs there is always a greater-than sign. -/
def Separated (text : List Char) : Prop :=
  ∀ before between after, text = before ++ '<' :: (between ++ '<' :: after) → '>' ∈ between

theorem Separated.of_append (front : List Char) (h : Separated (front ++ text)) :
    Separated text := by
  intro before between after htext
  refine h (front ++ before) between after ?_
  rw [htext, List.append_assoc]

/-- Forbidden markup begins with a less-than sign. -/
theorem HoldsForbidden.mem (h : HoldsForbidden allowed text) : '<' ∈ text := by
  rcases h with ⟨before, _, after, rfl, rfl, _⟩
  simp

/-- In a separated text no markup follows a less-than sign at once, and no tag holds another
less-than sign. -/
theorem Scanned.not_leaks (h : Scanned allowed text chunks) (hseparated : Separated text) :
    ¬Somewhere (Chunk.Leaks allowed) chunks := by
  induction h with
  | nil => exact not_somewhere_nil
  | @plain c rest chunks _ hrest ih =>
      rw [somewhere_cons]
      rintro (⟨rfl, ⟨after, rfl | rfl⟩, _⟩ | hlater)
      -- What is dropped next begins with a less-than sign itself.
      · cases hrest with
        | dropped _ _ _ => cases hseparated [] [] _ rfl
      · cases hrest with
        | plain _ hdropped =>
            cases hdropped with
            | dropped _ _ _ =>
                have hslash : '>' ∈ ['/'] := hseparated [] ['/'] _ rfl
                simp at hslash
      · exact ih (.of_append [c] hseparated) hlater
  | @kept body piece chunks _ _ closed _ ih =>
      rw [somewhere_cons]
      rintro (hinside | hlater)
      · have hsign : '<' ∈ body := by simpa using HoldsForbidden.mem hinside
        rcases List.append_of_mem hsign with ⟨before, after, rfl⟩
        refine closed (List.mem_append_left _ (hseparated [] before (after ++ '>' :: piece.rest) ?_))
        simp
      · refine ih (.of_append ('<' :: (body ++ ['>'])) ?_) hlater
        simpa using hseparated
  | @dropped body piece chunks _ _ _ ih =>
      rw [somewhere_cons]
      rintro (hnever | hlater)
      · exact hnever
      · refine ih (.of_append ('<' :: (body ++ ['>'])) ?_) hlater
        simpa using hseparated

/-- No forbidden markup is left of a text in which every less-than sign is closed before the next
one. -/
theorem not_holdsForbidden_stripTags {text : String} (hseparated : Separated text.toList) :
    ¬HoldsForbidden allowed (stripTags allowed text).toList := by
  rcases exists_scanned_stripTags allowed text with ⟨chunks, hchunks, hleft⟩
  rw [hleft, String.toList_ofList, hchunks.holdsForbidden_iff]
  exact hchunks.not_leaks hseparated

end Assay.Check
