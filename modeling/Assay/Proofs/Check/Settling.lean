import Assay.Proofs.Check.References
import Assay.Proofs.Check.Seams
import Assay.Proofs.Number.Grammar
import Assay.Proofs.Text.Case

/-!
# Settling — cleaning a text that is clean already

What is trimmed, put into one case or written as a color is accepted the second time.  References
are written with a character that is itself written as a reference, so an escaped text is escaped
again; and where markup was dropped, new markup may have come about.

* `cleaned_isOk_iff` states when a cleaned text has no fault, `escape_isOk_iff` and
  `stripped_isOk_iff` what this means for references and for markup;
* `MeetsForbidden` says that forbidden markup begins outside of all tags that stay, and
  `stripped_again_of_separated` where none does after a first pass;
* `cleaning_settles_iff` states which checks accept what they left, and of which values.
-/

namespace Assay.Check

/-! ## Changed texts -/

/-- Texts that are not both numerals are equal only if they are the same. -/
theorem looseEq_texts_iff {s t : String}
    (h : Number.parse? s = none ∨ Number.parse? t = none) :
    Value.looseEq (.str s) (.str t) = true ↔ s = t := by
  have hnumerals : Value.numeralsEq s t = false := by
    unfold Value.numeralsEq
    rcases h with h | h
    · rw [h]
    · rw [h]
      cases Number.parse? s <;> rfl
  have hloose : Value.looseEq (.str s) (.str t) = (Value.strictEq (.str s) (.str t) || false) := by
    rw [Value.looseEq.eq_def, ← hnumerals]
  rw [hloose, Bool.or_false, Value.strictEq, beq_iff_eq]

/-- A text has no fault if it equals the clean one. -/
theorem isOk_cleaned (clean : String → String) (fault : Fault) (text : String) :
    (cleaned clean fault (.str text)).isOk = Value.looseEq (.str (clean text)) (.str text) := by
  unfold cleaned cleanedTo
  dsimp only [Value.text?]
  cases Value.looseEq (.str (clean text)) (.str text) <;> rfl

/-- A text has no fault exactly if cleaning does not change it, as long as no numeral is changed
into another one. -/
theorem cleaned_isOk_iff {clean : String → String} {fault : Fault} {text : String}
    (h : clean text ≠ text → Number.parse? (clean text) = none ∨ Number.parse? text = none) :
    (cleaned clean fault (.str text)).isOk = true ↔ clean text = text := by
  rw [isOk_cleaned]
  by_cases hsame : clean text = text
  · rw [hsame]
    exact iff_of_true (looseEq_str_self text) rfl
  · exact looseEq_texts_iff (h hsame)

/-- A check that cleans texts is made again without a fault if this is so for the text of the value,
if it has one. -/
theorem cleaned_again_iff (clean : String → String) (fault : Fault) (value : Value) :
    (cleaned clean fault (cleaned clean fault value).value).isOk = true ↔
      ∀ s, value.text? = some s → (cleaned clean fault (.str (clean s))).isOk = true := by
  cases htext : value.text? with
  | none =>
      have hpassed : cleaned clean fault value = .ok value := by simp [cleaned, htext]
      rw [hpassed]
      change (cleaned clean fault value).isOk = true ↔ _
      rw [hpassed]
      exact iff_of_true rfl (by simp)
  | some s =>
      rw [cleaned_value htext]
      simp

/-! ## Case -/

/-- A text in one case has no fault. -/
theorem cased_normalizes {change : String → String} (hchange : ∀ s, change (change s) = change s)
    (fault : Fault) : Normalizes (cased change fault) := by
  refine normalizes_of_cases fun value => ?_
  cases value with
  | str s =>
      by_cases hsame : change s = s
      · exact .inl (if_pos hsame)
      · refine .inr ?_
        have hchanged : (cased change fault (.str s)).value = .str (change s) := by
          rw [cased, if_neg hsame]
          rfl
        rw [hchanged]
        exact if_pos (hchange s)
  | _ => exact .inl rfl

theorem lowercase_normalizes : Normalizes lowercase := cased_normalizes Text.lower_lower _

theorem uppercase_normalizes : Normalizes uppercase := cased_normalizes Text.upper_upper _

/-! ## References -/

/-- A text has no fault exactly if nothing in it is written as a reference. -/
theorem escape_isOk_iff (full : Bool) (s : String) :
    (escape full (.str s)).isOk = true ↔ ∀ c ∈ s.toList, isSpecial full c = false := by
  rw [← escapeMarkup_eq_self_iff]
  refine cleaned_isOk_iff fun hchanged => .inl ?_
  rw [Ne, escapeMarkup_eq_self_iff] at hchanged
  push Not at hchanged
  rcases hchanged with ⟨c, hc, hspecial⟩
  -- The sign of a reference is no part of a numeral.
  refine Number.parse?_eq_none_of_stray (c := '&') (by decide) ?_
  rw [toList_escapeMarkup]
  exact mem_escaped_of_special hc (by simpa using hspecial)

/-- An escaped text is clean only if the text was. -/
theorem escape_again_iff (full : Bool) (value : Value) :
    (escape full (escape full value).value).isOk = true ↔
      ∀ s, value.text? = some s → ∀ c ∈ s.toList, isSpecial full c = false := by
  refine (cleaned_again_iff _ _ value).trans (forall_congr' fun s => imp_congr_right fun _ => ?_)
  refine (escape_isOk_iff full _).trans ?_
  rw [toList_escapeMarkup]
  constructor
  · intro hclean c hc
    by_contra hspecial
    have hsign := hclean '&' (mem_escaped_of_special hc (by simpa using hspecial))
    cases hsign
  · intro hclean
    rwa [escaped_eq_self_iff.2 hclean]

/-! ## Tags -/

variable {allowed : List String} {text : List Char} {chunks : List Chunk}

/-- Forbidden markup begins in the text, outside of the tags that stay. -/
inductive MeetsForbidden (allowed : List String) : List Char → Prop where
  | here {rest : List Char} {piece : MarkupPiece} (read : readMarkup? rest = some piece)
      (goes : isAllowed allowed piece = false) : MeetsForbidden allowed ('<' :: rest)
  | plain {c : Char} {rest : List Char} (unread : c = '<' → readMarkup? rest = none) :
      MeetsForbidden allowed rest → MeetsForbidden allowed (c :: rest)
  | kept {rest : List Char} {piece : MarkupPiece} (read : readMarkup? rest = some piece)
      (stays : isAllowed allowed piece = true) :
      MeetsForbidden allowed piece.rest → MeetsForbidden allowed ('<' :: rest)

namespace MeetsForbidden

/-- A character that begins no markup can be passed over. -/
theorem plain_iff {c : Char} {rest : List Char} (unread : c = '<' → readMarkup? rest = none) :
    MeetsForbidden allowed (c :: rest) ↔ MeetsForbidden allowed rest := by
  constructor
  · intro h
    cases h with
    | here read _ => cases (unread rfl).symm.trans read
    | plain _ hrest => exact hrest
    | kept read _ _ => cases (unread rfl).symm.trans read
  · exact .plain unread

/-- Markup that stays can be passed over. -/
theorem kept_iff {rest : List Char} {piece : MarkupPiece} (read : readMarkup? rest = some piece)
    (stays : isAllowed allowed piece = true) :
    MeetsForbidden allowed ('<' :: rest) ↔ MeetsForbidden allowed piece.rest := by
  constructor
  · intro h
    cases h with
    | here other goes =>
        cases read.symm.trans other
        rw [stays] at goes
        cases goes
    | plain unread _ => cases (unread rfl).symm.trans read
    | kept other _ hrest =>
        cases read.symm.trans other
        exact hrest
  · exact .kept read stays

theorem mem (h : MeetsForbidden allowed text) : '<' ∈ text := by
  induction h with
  | here _ _ => exact List.mem_cons_self
  | plain _ _ ih => exact List.mem_cons_of_mem _ ih
  | kept _ _ _ _ => exact List.mem_cons_self

/-- What is met is there. -/
theorem holdsForbidden (h : MeetsForbidden allowed text) : HoldsForbidden allowed text := by
  induction h with
  | here read goes => exact holdsForbidden_cons.2 (.inl ⟨rfl, _, read, goes⟩)
  | plain _ _ ih => exact holdsForbidden_cons.2 (.inr ih)
  | kept read _ _ ih =>
      rcases readMarkup?_eq_some read with ⟨body, htext, -⟩
      rcases ih with ⟨before, c, after, hrest, hhere⟩
      refine ⟨'<' :: (body ++ '>' :: before), c, after, ?_, hhere⟩
      rw [htext, hrest]
      simp

end MeetsForbidden

namespace Scanned

/-- A scan leaves no more than there was. -/
theorem length_left_le (h : Scanned allowed text chunks) :
    (leftOf chunks).length ≤ text.length := by
  induction h with
  | nil => exact Nat.le_refl 0
  | plain _ _ ih =>
      rw [leftOf_plain]
      exact Nat.succ_le_succ ih
  | kept _ _ _ _ ih =>
      rw [leftOf_kept]
      simpa using ih
  | dropped _ _ _ ih =>
      rw [leftOf_dropped]
      simp only [List.length_cons, List.length_append]
      omega

/-- By induction on the pass: everything is left if no forbidden markup is met. -/
theorem leftOf_eq_iff (h : Scanned allowed text chunks) :
    leftOf chunks = text ↔ ¬MeetsForbidden allowed text := by
  induction h with
  | nil => exact iff_of_true rfl nofun
  | plain unread _ ih => rw [leftOf_plain, List.cons_inj_right, MeetsForbidden.plain_iff unread, ih]
  | kept read stays _ _ ih =>
      rw [leftOf_kept, MeetsForbidden.kept_iff read stays, ← ih]
      simp
  | dropped read goes hrest _ =>
      refine iff_of_false (fun hsame => ?_) (not_not_intro (.here read goes))
      -- What is left of the rest would be as long as the dropped piece with it.
      have hlength := hrest.length_left_le
      rw [leftOf_dropped] at hsame
      rw [hsame] at hlength
      simp only [List.length_cons, List.length_append] at hlength
      omega

end Scanned

/-- Nothing is dropped exactly if the scan meets no forbidden markup. -/
theorem stripTags_eq_self_iff {s : String} :
    stripTags allowed s = s ↔ ¬MeetsForbidden allowed s.toList := by
  rcases exists_scanned_stripTags allowed s with ⟨chunks, hchunks, hleft⟩
  rw [← hchunks.leftOf_eq_iff, hleft, ← String.toList_inj, String.toList_ofList]

/-- A text has no fault exactly if no forbidden markup is met in it. -/
theorem stripped_isOk_iff (allowed : List String) (s : String) :
    (stripped allowed (.str s)).isOk = true ↔ ¬MeetsForbidden allowed s.toList := by
  rw [← stripTags_eq_self_iff]
  refine cleaned_isOk_iff fun hchanged => .inr ?_
  have hmeets : MeetsForbidden allowed s.toList :=
    not_not.1 (mt stripTags_eq_self_iff.2 hchanged)
  exact Number.parse?_eq_none_of_stray (c := '<') (by decide) hmeets.mem

/-- A second pass is clean exactly if what the first one left has nothing to drop. -/
theorem stripped_again_iff (allowed : List String) (value : Value) :
    (stripped allowed (stripped allowed value).value).isOk = true ↔
      ∀ s, value.text? = some s → ¬MeetsForbidden allowed (stripTags allowed s).toList := by
  refine (cleaned_again_iff _ _ value).trans (forall_congr' fun s => imp_congr_right fun _ => ?_)
  exact stripped_isOk_iff allowed _

/-- Markup is dropped for good where every less-than sign is closed before the next one. -/
theorem stripped_again_of_separated (allowed : List String) {s : String}
    (h : Separated s.toList) :
    (stripped allowed (stripped allowed (.str s)).value).isOk = true := by
  refine (stripped_again_iff allowed (.str s)).2 fun other hother hmeets => ?_
  cases hother
  exact not_holdsForbidden_stripTags h hmeets.holdsForbidden

/-! ## All together -/

/-- Trimming, the two cases and colors accept whatever they left.  References are made again unless
there was nothing to write as one, and markup is dropped again exactly if forbidden markup is met in
what was left. -/
theorem cleaning_settles_iff (full : Bool) (allowed : List String) :
    Normalizes trim ∧ Normalizes lowercase ∧ Normalizes uppercase ∧ Normalizes color ∧
      (∀ value, (escape full (escape full value).value).isOk = true ↔
        ∀ s, value.text? = some s → ∀ c ∈ s.toList, isSpecial full c = false) ∧
      (∀ value, (stripped allowed (stripped allowed value).value).isOk = true ↔
        ∀ s, value.text? = some s → ¬MeetsForbidden allowed (stripTags allowed s).toList) :=
  ⟨trim_normalizes, lowercase_normalizes, uppercase_normalizes, color_normalizes,
    escape_again_iff full, stripped_again_iff allowed⟩

/-- The reference to an ampersand begins with an ampersand. -/
theorem escape_refuses_reference :
    (escape false (.str "&")).value = .str "&amp;" ∧
      (escape false (escape false (.str "&")).value).isOk = false := by
  refine ⟨cleaned_value (s := "&") rfl, ?_⟩
  rw [Bool.eq_false_iff, Ne, escape_again_iff]
  intro hclean
  cases hclean "&" rfl '&' (by decide)

end Assay.Check
