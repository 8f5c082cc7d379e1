import Assay.Proofs.Check.Settling

/-!
# Tags — which tags a list of names allows

Tags have names of ASCII letters, digits, colons and hyphens, and they are looked up in lower case.
So two lists allow the same tags if they have the same names of this kind; whatever else they hold
does not matter.

* `isTagName` tells which names a tag can have, and `isTagName_of_readMarkup?` states that no others
  are read;
* `bareTag` is the tag of a name, and `stripped_bareTag_iff` states when it stays;
* `SameTags` says that two lists have the same names of tags, and `stripped_eq_iff` states that
  exactly then they allow the same.
-/

namespace Assay.Check

variable {name text : List Char}

/-! ## Names -/

def isTagName : List Char → Bool
  | [] => false
  | first :: others => first.isAlpha && others.all isTagNameChar

theorem isTagNameChar_of_isAlpha {c : Char} (h : c.isAlpha = true) : isTagNameChar c = true := by
  simp [isTagNameChar, Char.isAlphanum, h]

/-- Names are written in ASCII. -/
theorem ascii_of_isTagNameChar {c : Char} (h : isTagNameChar c = true) : c.toNat < 0x80 := by
  have hbelow : ∀ {last : Char}, last.toNat < 0x80 → c.val ≤ last.val → c.toNat < 0x80 :=
    fun hlast hle => Nat.lt_of_le_of_lt (UInt32.le_iff_toNat_le.1 hle) hlast
  rcases Bool.or_eq_true_iff.1 h with h | hhyphen
  · rcases Bool.or_eq_true_iff.1 h with halphanum | hcolon
    · rcases Bool.or_eq_true_iff.1 halphanum with halpha | hdigit
      · rcases Bool.or_eq_true_iff.1 halpha with hupper | hlower
        · have hbounds : c.val ≥ 'A'.val ∧ c.val ≤ 'Z'.val := of_decide_eq_true hupper
          exact hbelow (by decide) hbounds.2
        · have hbound : c.val ≤ 'z'.val := of_decide_eq_true (Bool.and_eq_true_iff.1 hlower).2
          exact hbelow (by decide) hbound
      · have hbounds : 48 ≤ c.toNat ∧ c.toNat ≤ 57 := Char.isDigit_iff_toNat.1 hdigit
        omega
    · rw [eq_of_beq hcolon]
      decide
  · rw [eq_of_beq hhyphen]
    decide

/-- A tag name is a letter and then characters of names. -/
theorem isTagName_cons {first : Char} {others : List Char} :
    isTagName (first :: others) = true ↔
      first.isAlpha = true ∧ ∀ c ∈ others, isTagNameChar c = true := by
  rw [isTagName, Bool.and_eq_true, List.all_eq_true]

theorem isTagNameChar_of_mem (h : isTagName name = true) {c : Char} (hc : c ∈ name) :
    isTagNameChar c = true := by
  cases name with
  | nil => cases hc
  | cons first others =>
      rcases isTagName_cons.1 h with ⟨hfirst, hothers⟩
      rcases List.mem_cons.1 hc with rfl | hc
      · exact isTagNameChar_of_isAlpha hfirst
      · exact hothers c hc

def lowerName (name : List Char) : String := Text.lower (String.ofList name)

theorem toList_lowerName (h : isTagName name = true) :
    (lowerName name).toList = name.map Char.toLower := by
  rw [lowerName, Text.lower, String.toList_ofList, String.toList_ofList]
  exact Text.lowerAfter_ascii fun c hc => ascii_of_isTagNameChar (isTagNameChar_of_mem h hc)

theorem isTagNameChar_toLower {c : Char} (h : isTagNameChar c = true) :
    isTagNameChar c.toLower = true := by
  have hkeeps := Text.ascii_forall (p := fun c => isTagNameChar c → isTagNameChar c.toLower)
    (by decide +kernel) (ascii_of_isTagNameChar h)
  exact hkeeps h

theorem isAlpha_toLower {c : Char} (h : c.isAlpha = true) : c.toLower.isAlpha = true := by
  have hkeeps := Text.ascii_forall (p := fun c => c.isAlpha → c.toLower.isAlpha)
    (by decide +kernel) (ascii_of_isTagNameChar (isTagNameChar_of_isAlpha h))
  exact hkeeps h

/-- A tag can have a name also in lower case. -/
theorem isTagName_lowerName (h : isTagName name = true) :
    isTagName (lowerName name).toList = true := by
  rw [toList_lowerName h]
  cases name with
  | nil => cases h
  | cons first others =>
      rcases isTagName_cons.1 h with ⟨hfirst, hothers⟩
      refine isTagName_cons.2 ⟨isAlpha_toLower hfirst, fun c hc => ?_⟩
      rcases List.mem_map.1 hc with ⟨d, hd, rfl⟩
      exact isTagNameChar_toLower (hothers d hd)

/-! ## Names that are read -/

theorem isTagName_of_leadingName? (h : leadingName? text = some name) : isTagName name = true := by
  cases text with
  | nil => cases h
  | cons first others =>
      rw [leadingName?, Option.ite_none_right_eq_some] at h
      rcases h with ⟨hfirst, hname⟩
      cases hname
      exact isTagName_cons.2 ⟨hfirst, fun c hc => List.mem_takeWhile_imp hc⟩

/-- A name is all that is read of it. -/
theorem leadingName?_of_isTagName (h : isTagName name = true) : leadingName? name = some name := by
  cases name with
  | nil => cases h
  | cons first others =>
      rcases isTagName_cons.1 h with ⟨hfirst, hothers⟩
      rw [leadingName?, if_pos hfirst, List.takeWhile_eq_self_iff.2 hothers]

/-- Whatever has a name is read as a tag. -/
theorem isTagName_of_readMarkup? {piece : MarkupPiece} (h : readMarkup? text = some piece)
    (hname : piece.name = some name) : isTagName name = true := by
  have htag : readTag? text = some piece := by
    have hno : ¬(readComment? text = some piece ∨ readDeclaration? text = some piece) := by
      intro hdeclaration
      rw [(readDeclaration_eq_some hdeclaration).1] at hname
      cases hname
    rw [not_or] at hno
    unfold readMarkup? at h
    rcases Option.or_eq_some_iff.1 h with hcomment | ⟨_, h⟩
    · exact absurd hcomment hno.1
    · rcases Option.or_eq_some_iff.1 h with htag | ⟨_, hdeclaration⟩
      · exact htag
      · exact absurd hdeclaration hno.2
  rcases readTag?_eq_some htag with ⟨body, rfl, hclosed⟩
  rw [readTag?_closed hclosed] at htag
  rcases Option.map_eq_some_iff.1 htag with ⟨found, hfound, hpiece⟩
  rw [← hpiece] at hname
  cases hname
  exact isTagName_of_leadingName? hfound

/-! ## A tag of its own -/

/-- The tag of a name, with nothing else. -/
def bareTag (name : List Char) : String := String.ofList ('<' :: (name ++ ['>']))

/-- A name between the signs is read as a tag of that name. -/
theorem readMarkup?_bareTag (h : isTagName name = true) :
    readMarkup? (name ++ ['>']) = some ⟨some name, []⟩ := by
  -- None of the marks that open or close something stands in the name.
  have hapart : ∀ mark, isTagNameChar mark = false → mark ∉ name := by
    intro mark hmark hmem
    rw [isTagNameChar_of_mem h hmem] at hmark
    cases hmark
  have hopens : opensDeclaration (name ++ ['>']) = false := by
    cases name with
    | nil => cases h
    | cons first others =>
        refine Bool.eq_false_iff.2 fun hopens => ?_
        rcases opensDeclaration_iff.1 hopens with ⟨_, heq | heq⟩
        · exact hapart '!' (by decide) ((List.cons.inj heq).1 ▸ List.mem_cons_self)
        · exact hapart '?' (by decide) ((List.cons.inj heq).1 ▸ List.mem_cons_self)
  have hnamed : unslashed name = name := by
    cases name with
    | nil => rfl
    | cons first others =>
        refine unslashed_of_ne (fun heq => ?_) others
        exact hapart '/' (by decide) (heq ▸ List.mem_cons_self)
  rw [readMarkup?_of_not_opensDeclaration hopens, readTag?_closed (hapart '>' (by decide)), hnamed,
    leadingName?_of_isTagName h]
  rfl

/-- It stays without a fault exactly if its name is in the list. -/
theorem stripped_bareTag_iff (allowed : List String) (h : isTagName name = true) :
    (stripped allowed (.str (bareTag name))).isOk = true ↔ lowerName name ∈ allowed := by
  have hread := readMarkup?_bareTag h
  have hstays : isAllowed allowed ⟨some name, []⟩ = true ↔ lowerName name ∈ allowed :=
    List.contains_iff_mem
  rw [stripped_isOk_iff, bareTag, String.toList_ofList, ← hstays]
  by_cases hallowed : isAllowed allowed ⟨some name, []⟩ = true
  · rw [MeetsForbidden.kept_iff hread hallowed]
    exact iff_of_true nofun hallowed
  · refine iff_of_false (not_not_intro ?_) hallowed
    exact .here hread (Bool.eq_false_iff.2 hallowed)

/-! ## Lists of names -/

variable {allowed other : List String}

/-- The lists have the same names of tags. -/
def SameTags (allowed other : List String) : Prop :=
  ∀ name, isTagName name = true → (lowerName name ∈ allowed ↔ lowerName name ∈ other)

/-- Lists of the same tags allow the same markup. -/
theorem SameTags.isAllowed_eq (h : SameTags allowed other) {piece : MarkupPiece}
    (hread : readMarkup? text = some piece) : isAllowed allowed piece = isAllowed other piece := by
  unfold isAllowed
  cases hname : piece.name with
  | none => rfl
  | some name =>
      have hcontains : allowed.contains (lowerName name) = other.contains (lowerName name) := by
        rw [Bool.eq_iff_iff, List.contains_iff_mem, List.contains_iff_mem]
        exact h name (isTagName_of_readMarkup? hread hname)
      exact hcontains

/-- By induction on the steps: each piece of markup stays with both lists or with neither. -/
theorem SameTags.dropMarkup_eq (h : SameTags allowed other) (steps : Nat) (text : List Char) :
    dropMarkup allowed steps text = dropMarkup other steps text := by
  induction steps generalizing text with
  | zero => rfl
  | succ steps ih =>
      cases text with
      | nil => rfl
      | cons c rest =>
          unfold dropMarkup
          cases hread : readMarkup? rest with
          | none => simp only [ih]
          | some piece => simp only [ih, h.isAllowed_eq hread]

/-- Lists of the same tags drop the same markup. -/
theorem SameTags.stripped_eq (h : SameTags allowed other) : stripped allowed = stripped other := by
  have hstrip : stripTags allowed = stripTags other :=
    funext fun text => congrArg String.ofList (h.dropMarkup_eq _ _)
  unfold stripped
  rw [hstrip]

/-- The tag of a name tells two lists apart of which only one has the name. -/
theorem stripped_eq_iff :
    (∀ value, stripped allowed value = stripped other value) ↔ SameTags allowed other := by
  constructor
  · intro hsame name hname
    rw [← stripped_bareTag_iff allowed hname, ← stripped_bareTag_iff other hname, hsame]
  · intro h value
    rw [h.stripped_eq]

end Assay.Check
