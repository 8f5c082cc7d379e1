import Assay.Proofs.Check.Settling
import Assay.Proofs.Value.Numeric

/-!
# Rewriting — what is reported when a text is written anew

A check that cleans texts compares what it leaves with what it was given, and it compares loosely:
numerals are equal if their values are, and a truth value equals every text that is as true as it
is.  Still no change of a text is missed, but for blanks around a numeral; and truth values and
integers only become texts.

* `ReportsIf` says what text a check leaves, and of which texts it has a fault;
* `trim_isOk_iff` states which texts are trimmed without a fault;
* `cleaned_of_clean` states when a value becomes its text without a fault;
* `rewrites_reported` states what trimming, escaping and the dropping of markup report.
-/

namespace Assay

/-- Blanks around a text do not change what it is read as. -/
theorem Number.parse?_strip (s : String) : Number.parse? (Text.strip s) = Number.parse? s := by
  have hsame : (Text.strip s).toList = Text.stripOf Text.isBlank s.toList := String.toList_ofList
  refine Option.ext fun number => ?_
  rw [Number.parse?_eq_some_iff, Number.parse?_eq_some_iff, hsame, Text.stripOf_stripOf]

namespace Check

variable {full : Bool} {allowed : List String} {s : String}

/-! ## Texts -/

/-- Of a text the check leaves the other text, and it has a fault exactly if the condition holds of
what it leaves. -/
def ReportsIf (condition : String → Prop) (check : Value → Outcome) (s left : String) : Prop :=
  (check (.str s)).value = .str left ∧ ((check (.str s)).isOk = false ↔ condition left)

/-- A cleaning filter reports what it rewrites under the condition by which it fails. -/
theorem cleaned_reportsIf {condition : String → Prop} {clean : String → String} {fault : Fault}
    (h : (cleaned clean fault (.str s)).isOk = true ↔ ¬condition (clean s)) :
    ReportsIf condition (cleaned clean fault) s (clean s) :=
  ⟨cleaned_value rfl, by rw [← Bool.not_eq_true, h, not_not]⟩

/-- Escaping reports every text that it changes. -/
theorem escape_reportsIf (full : Bool) (s : String) :
    ReportsIf (· ≠ s) (escape full) s (escapeMarkup full s) := by
  refine cleaned_reportsIf ?_
  rw [not_not, escapeMarkup_eq_self_iff]
  exact escape_isOk_iff full s

/-- Dropping tags reports every text that it changes. -/
theorem stripped_reportsIf (allowed : List String) (s : String) :
    ReportsIf (· ≠ s) (stripped allowed) s (stripTags allowed s) := by
  refine cleaned_reportsIf ?_
  rw [not_not, stripTags_eq_self_iff]
  exact stripped_isOk_iff allowed s

/-- A text is trimmed without a fault if it has no blanks at its ends, or is a number with them. -/
theorem trim_isOk_iff (s : String) :
    (trim (.str s)).isOk = true ↔ Text.strip s = s ∨ (Number.parse? s).isSome = true := by
  rw [trim, isOk_cleaned]
  cases hparse : Number.parse? s with
  | none =>
      rw [looseEq_texts_iff (.inr hparse)]
      simp
  | some n =>
      have htrimmed : Number.parse? (Text.strip s) = some n := (Number.parse?_strip s).trans hparse
      -- Both texts are the same number, which equals itself.
      have hequal : Value.looseEq (.str (Text.strip s)) (.str s) = n.numEq n :=
        Value.looseEq_of_numeric htrimmed hparse
      rw [hequal, Number.numEq_self (Number.isSome_of_parse? hparse)]
      simp

/-- Trimming reports every text that it changes, unless the text is a number. -/
theorem trim_reportsIf (s : String) :
    ReportsIf (fun left => left ≠ s ∧ Number.parse? s = none) trim s (Text.strip s) := by
  refine cleaned_reportsIf ?_
  rw [not_and_or, not_not, ← Ne, Option.ne_none_iff_isSome]
  exact trim_isOk_iff s

/-! ## Truth values and integers -/

/-- The check makes the value its own text, without a fault. -/
def TakesText (check : Value → Outcome) (value : Value) : Prop :=
  ∃ text, value.text? = some text ∧ check value = .ok (.str text)

/-- A value that equals its text becomes it without a fault, if the text is clean. -/
theorem cleaned_of_clean {clean : String → String} {fault : Fault} {value : Value}
    (htext : value.text? = some s) (hequal : Value.looseEq (.str s) value = true)
    (hclean : clean s = s) : TakesText (cleaned clean fault) value := by
  refine ⟨s, htext, ?_⟩
  unfold cleaned cleanedTo
  rw [htext]
  dsimp only
  rw [hclean, if_pos hequal]

/-- The text has only characters that numerals are written with. -/
def IsBare (s : String) : Prop := ∀ c ∈ s.toList, isAsciiDigit c = true ∨ c ∈ Numeral.marks

namespace IsBare

theorem strip_eq_self (h : IsBare s) : Text.strip s = s := by
  have hblank : ∀ c ∈ s.toList, Text.isBlank c = false := by
    intro c hc
    rcases h c hc with hdigit | hmark
    · exact isBlank_of_isDecimalDigit (isDecimalDigit_of_isAsciiDigit hdigit)
    · exact isBlank_of_mem_marks hmark
  rw [Text.strip, Text.stripOf_of_forall hblank, String.ofList_toList]

theorem escapeMarkup_eq_self (h : IsBare s) (full : Bool) : escapeMarkup full s = s := by
  have hmarks : ∀ c ∈ Numeral.marks, isSpecial full c = false := by
    cases full <;> exact Numeral.forall_marks.2 (by decide)
  refine escapeMarkup_eq_self_iff.2 fun c hc => ?_
  rcases h c hc with hdigit | hmark
  · exact isSpecial_of_isAsciiDigit full hdigit
  · exact hmarks c hmark

theorem stripTags_eq_self (h : IsBare s) (allowed : List String) : stripTags allowed s = s := by
  refine stripTags_eq_self_iff.2 fun hmeets => ?_
  rcases h '<' hmeets.mem with hdigit | hmark
  · exact absurd hdigit (by decide)
  · exact absurd hmark (by decide)

end IsBare

theorem isBare_of_bool (b : Bool) : IsBare (if b then "1" else "") := by
  cases b with
  | false => simp [IsBare]
  | true => simp [IsBare, isAsciiDigit]

/-- A decimal integer has nothing to trim, to escape or to drop. -/
theorem isBare_of_int (i : Int) : IsBare (toString i) := by
  intro c hc
  rcases spells_iff.1 (spells_toString i) with ⟨n, form, -⟩
  exact form.mem hc

/-- The text of a truth value is as true as it is. -/
theorem looseEq_text_bool (b : Bool) :
    Value.looseEq (.str (if b then "1" else "")) (.bool b) = true := by
  rw [Value.looseEq.eq_def]
  cases b <;> rfl

/-- The text of an integer is read as the integer. -/
theorem looseEq_text_int (i : Int64) :
    Value.looseEq (.str (toString i.toInt)) (.int i) = true := by
  have hparse : Number.parse? (toString i.toInt) = some (.int i) := by
    have hspells := spells_toString i.toInt
    rwa [Number.parse?_eq_int_iff, Text.stripOf_of_forall hspells.not_blank]
  have hequal : Value.looseEq (.str (toString i.toInt)) (.int i) =
      Number.numEq (.int i) (.int i) := Value.looseEq_of_numeric hparse rfl
  rw [hequal, Number.numEq_ints]

/-! ## All together -/

/-- Escaping and the dropping of markup are reported exactly if they leave another text, and
trimming exactly if it does so and the text is no number.  Truth values and integers become texts,
and nothing is reported. -/
theorem rewrites_reported (full : Bool) (allowed : List String) :
    (∀ s, ReportsIf (· ≠ s) (escape full) s (escapeMarkup full s)) ∧
    (∀ s, ReportsIf (· ≠ s) (stripped allowed) s (stripTags allowed s)) ∧
    (∀ s, ReportsIf (fun left => left ≠ s ∧ Number.parse? s = none) trim s (Text.strip s)) ∧
    (∀ b, TakesText trim (.bool b) ∧ TakesText (escape full) (.bool b) ∧
      TakesText (stripped allowed) (.bool b)) ∧
    ∀ i, TakesText trim (.int i) ∧ TakesText (escape full) (.int i) ∧
      TakesText (stripped allowed) (.int i) := by
  have hscalar : ∀ {value : Value} {text : String}, value.text? = some text →
      Value.looseEq (.str text) value = true → IsBare text →
        TakesText trim value ∧ TakesText (escape full) value ∧
          TakesText (stripped allowed) value := by
    intro value text htext hequal hbare
    exact ⟨cleaned_of_clean htext hequal hbare.strip_eq_self,
      cleaned_of_clean htext hequal (hbare.escapeMarkup_eq_self full),
      cleaned_of_clean htext hequal (hbare.stripTags_eq_self allowed)⟩
  refine ⟨escape_reportsIf full, stripped_reportsIf allowed, trim_reportsIf, ?_, ?_⟩
  · exact fun b => hscalar rfl (looseEq_text_bool b) (isBare_of_bool b)
  · exact fun i => hscalar rfl (looseEq_text_int i) (isBare_of_int i.toInt)

end Check

end Assay
