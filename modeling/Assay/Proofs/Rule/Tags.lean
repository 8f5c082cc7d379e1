import Assay.Proofs.Check.Tags
import Assay.Proofs.Checker.Plain
import Assay.Proofs.Number.Leading
import Assay.Proofs.Rule.Calling

/-!
# Tags — the tags of a rule by name and by function

By name, a text may list several tags, with brackets, slashes, commas or blanks between them.  The
function of its own takes each text for a single tag, and only drops the brackets and slashes around
it.  So the two ways disagree exactly if a list has a tag that is not given alone somewhere.

* `Named.tagName_mem_tagNames` states that a tag given alone is found in its text;
* `Rule.GivesAlone` says that all tags of a list are given alone as well, and `Rule.sameTags_iff`
  states that exactly then both ways allow the same tags;
* `Rule.stripTags_agrees_iff` states that this decides whether the two rules have the same outcomes.
-/

namespace Assay

namespace Text

variable {p : Char → Bool} {before text core after : List Char}

/-- A part of the text behind separators is a part of the whole. -/
theorem mem_splitOnP_append (h : ∀ c ∈ before, p c = true) (hcore : core ∈ text.splitOnP p) :
    core ∈ (before ++ text).splitOnP p := by
  induction before with
  | nil => exact hcore
  | cons c before ih =>
      rw [List.cons_append, List.splitOnP_cons_eq_if_modifyHead, if_pos (h c List.mem_cons_self)]
      exact List.mem_cons_of_mem _ (ih fun d hd => h d (List.mem_cons_of_mem _ hd))

/-- A text without separators is a part of the whole if it stands between separators. -/
theorem mem_splitOnP (hbefore : ∀ c ∈ before, p c = true) (hcore : ∀ c ∈ core, p c = false)
    (hafter : ∀ c ∈ after, p c = true) : core ∈ (before ++ (core ++ after)).splitOnP p := by
  refine mem_splitOnP_append hbefore ?_
  cases after with
  | nil =>
      rw [List.append_nil, List.splitOnP_eq_singleton hcore]
      exact List.mem_singleton_self core
  | cons c after =>
      rw [List.splitOnP_append_cons_of_forall_mem hcore c (hafter c List.mem_cons_self)]
      exact List.mem_cons_self

end Text

open Check

namespace Named

/-- Separators have no case. -/
theorem lowerChar_of_isTagSeparator {c : Char} (h : isTagSeparator c = true) :
    Text.lowerChar c = [c] := by
  have hnone : ∀ code ∈ 0x3C :: 0x3E :: 0x2F :: 0x2C :: blankCodes,
      Text.lowerTable.images? code = none := by decide +kernel
  have hcode : c.toNat ∈ 0x3C :: 0x3E :: 0x2F :: 0x2C :: blankCodes := by
    simp only [isTagSeparator, Bool.or_eq_true, beq_iff_eq] at h
    rcases h with (((rfl | rfl) | rfl) | rfl) | hblank
    · decide
    · decide
    · decide
    · decide
    · have hmem := toNat_mem_blankCodes hblank
      simp [hmem]
  exact Text.CodeTable.formOf_of_none (hnone _ hcode)

/-- No character of a name separates names. -/
theorem isTagSeparator_of_isTagNameChar {c : Char} (h : isTagNameChar c = true) :
    isTagSeparator c = false := by
  have hapart := Text.ascii_forall (p := fun c => isTagNameChar c = true → isTagSeparator c = false)
    (by decide +kernel) (ascii_of_isTagNameChar h)
  exact hapart h

/-- What becomes the name of a tag in lower case has no separators. -/
theorem isTagSeparator_of_lowerName {core : List Char}
    (h : isTagName (lowerName core).toList = true) {c : Char} (hc : c ∈ core) :
    isTagSeparator c = false := by
  refine Bool.eq_false_iff.2 fun hseparator => ?_
  -- A separator would stay, and the name has none.
  have hleft : c ∈ (lowerName core).toList := by
    rw [lowerName, Text.lower, String.toList_ofList, String.toList_ofList]
    exact Text.mem_lowerAfter (lowerChar_of_isTagSeparator hseparator) hc
  rw [isTagSeparator_of_isTagNameChar (isTagNameChar_of_mem h hleft)] at hseparator
  cases hseparator

def isTagMark (c : Char) : Bool := c == '<' || c == '>' || c == '/'

theorem isTagSeparator_of_isTagMark {c : Char} (h : isTagMark c = true) :
    isTagSeparator c = true := by
  simp only [isTagMark, isTagSeparator, Bool.or_eq_true] at h ⊢
  exact .inl (.inl h)

/-- A tag that is given alone is found in its text. -/
theorem tagName_mem_tagNames {tag : String} (h : isTagName (Rule.tagName tag).toList = true) :
    Rule.tagName tag ∈ tagNames tag := by
  rcases (Text.stripped_stripOf isTagMark tag.toList).around with
    ⟨before, after, htext, hbefore, hafter⟩
  have hname : Rule.tagName tag = lowerName (Text.stripOf isTagMark tag.toList) := rfl
  generalize Text.stripOf isTagMark tag.toList = core at htext hname
  rw [hname] at h ⊢
  have hfilled : core.isEmpty = false := by
    cases core with
    | nil => cases h
    | cons _ _ => rfl
  have hpart : core ∈ tag.toList.splitOnP isTagSeparator := by
    rw [htext]
    refine Text.mem_splitOnP ?_ (fun c hc => isTagSeparator_of_lowerName h hc) ?_
    · exact fun c hc => isTagSeparator_of_isTagMark (List.all_eq_true.1 hbefore c hc)
    · exact fun c hc => isTagSeparator_of_isTagMark (List.all_eq_true.1 hafter c hc)
  refine List.mem_map.2 ⟨core, List.mem_filter.2 ⟨hpart, ?_⟩, rfl⟩
  rw [hfilled]
  rfl

/-- The tags of a text are in lower case. -/
theorem lowerName_of_mem_tagNames {text name : String} (h : name ∈ tagNames text) :
    lowerName name.toList = name := by
  rcases List.mem_map.1 h with ⟨part, _, rfl⟩
  rw [lowerName, String.ofList_toList, Text.lower_lower]

/-- Texts are read as the tags that they list. -/
theorem allowedTags_texts (name : String) (tags : List String) :
    allowedTags name (tags.map .str) = .ok (tags.flatMap tagNames) := by
  refine (bind_ok (mapM_spread_texts (k := tagNames) (fun _ => rfl) tags) _).trans ?_
  rw [List.flatMap_def]
  rfl

end Named

namespace Rule

open Named

variable {tags : List String}

/-- Every tag that a text lists is given alone as well, by this text or another one. -/
def GivesAlone (tags : List String) : Prop :=
  ∀ tag ∈ tags, ∀ name ∈ tagNames tag, isTagName name.toList = true → name ∈ tags.map tagName

/-- Both ways of reading the texts allow the same tags exactly if all tags are given alone. -/
theorem sameTags_iff : SameTags (tags.map tagName) (tags.flatMap tagNames) ↔ GivesAlone tags := by
  constructor
  · intro h tag htag name hname hreadable
    have hlower := lowerName_of_mem_tagNames hname
    have hlisted : name ∈ tags.flatMap tagNames := List.mem_flatMap.2 ⟨tag, htag, hname⟩
    rw [← hlower] at hlisted ⊢
    exact (h name.toList hreadable).2 hlisted
  · intro h name hreadable
    have hlower := isTagName_lowerName hreadable
    -- What is given alone is listed in any case; only the converse needs the condition.
    constructor
    · intro halone
      rcases List.mem_map.1 halone with ⟨tag, htag, hname⟩
      rw [← hname] at hlower ⊢
      exact List.mem_flatMap.2 ⟨tag, htag, tagName_mem_tagNames hlower⟩
    · intro hlisted
      rcases List.mem_flatMap.1 hlisted with ⟨tag, htag, hname⟩
      exact h tag htag _ hname hlower

/-- A call by name allows the tags that the texts list. -/
theorem addFilter_strip_tags (rule : Rule) (tags : List String) :
    rule.addFilter "strip_tags" (texts tags) =
      .ok (rule.withFilter (.stripTags (tags.flatMap tagNames))) := by
  refine addFilter_of_made rule .stripTags ?_
  refine (bind_ok (plainValues_map _ _) _).trans ?_
  exact bind_ok (allowedTags_texts _ tags) _

/-- A rule of allowed tags checks a value as the list does, whoever checks it. -/
theorem check_stripTags (checker : Checker) (allowed : List String) (value : Value) :
    checker.check value (empty.withFilter (.stripTags allowed)) = pure (stripped allowed value) :=
  Checker.check_ofFilter rfl value

/-- The rule by function and the one by name have the same outcome for every value exactly if all
tags are given alone. -/
theorem stripTags_agrees_iff (checker : Checker) (tags : List String) :
    ∃ named, empty.addFilter "strip_tags" (texts tags) = .ok named ∧
      ((∀ value, checker.check value (empty.stripTags tags) = checker.check value named) ↔
        GivesAlone tags) := by
  refine ⟨_, addFilter_strip_tags empty tags, ?_⟩
  rw [← sameTags_iff, ← stripped_eq_iff]
  refine forall_congr' fun value => ?_
  rw [stripTags, check_stripTags, check_stripTags]
  -- Neither check looks at the world or changes it, so any world tells their outcomes apart.
  constructor
  · intro hsame
    exact congrArg Prod.fst (congrFun hsame World.bare)
  · exact congrArg pure

/-- Between the brackets of two tags stand brackets, so by function neither is given. -/
theorem stripTags_joins_tags :
    let tags := ["<b><i>"]
    let value := Value.str "<b>x</b>"
    ∃ named, empty.addFilter "strip_tags" (texts tags) = .ok named ∧
      Checker.bare.check value named = pure (.ok value) ∧
      Checker.bare.check value (empty.stripTags tags) =
        pure (.fail (.str "x") (faultOf .stripTags "Contains forbidden HTML tags")) := by
  intro tags value
  have hlisted : tags.flatMap tagNames = ["b", "i"] := by decide +kernel
  have hgiven : tags.map tagName = ["b><i"] := by decide +kernel
  have hkept : Check.stripTags ["b", "i"] "<b>x</b>" = "<b>x</b>" := by decide +kernel
  have hdropped : Check.stripTags ["b><i"] "<b>x</b>" = "x" := by decide +kernel
  have hchanged : Value.looseEq (.str "x") value ≠ true := by
    rw [Ne, looseEq_texts_iff (.inl rfl)]
    decide
  refine ⟨_, addFilter_strip_tags empty tags, ?_, ?_⟩
  · rw [check_stripTags, hlisted]
    change pure (cleanedTo (Check.stripTags ["b", "i"] "<b>x</b>") _ value) = _
    rw [hkept, cleanedTo, if_pos (looseEq_str_self _)]
  · rw [stripTags, check_stripTags, hgiven]
    change pure (cleanedTo (Check.stripTags ["b><i"] "<b>x</b>") _ value) = _
    rw [hdropped, cleanedTo, if_neg hchanged]

end Rule

end Assay
