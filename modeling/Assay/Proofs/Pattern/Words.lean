import Assay.Proofs.Pattern.Spans
import Mathlib.Computability.Language

/-!
# Words — what a pattern matches wherever it stands

A pattern that asks for no place looks at nothing but the part of the text that it matches, and so
has a language.  Constructs are operations on languages: a sequence is a product, an alternative a
sum, and a repetition a power.

* `Regex.words` is the language of a pattern;
* `Regex.spans_iff_of_isPlain` states that a pattern without places spans the words of its language;
* `Regex.isMatch_whole` states that between the two ends of a text it matches them and nothing else.
-/

open scoped Computability

namespace Assay.Regex

/-- No place is asked for. -/
def isPlain : Pattern → Bool
  | .empty | .symbol _ => true
  | .assertion _ => false
  | .seq a b | .alt a b => isPlain a && isPlain b
  | .rep a _ _ | .group a => isPlain a

/-- The words that a pattern matches if places are left out of it. -/
def words : Pattern → Language Char
  | .empty | .assertion _ => 1
  | .symbol set => {word | ∃ c, word = [c] ∧ set.contains c.toNat = true}
  | .seq a b => words a * words b
  | .alt a b => words a + words b
  | .rep a least most =>
    {word | ∃ more, (∀ bound ∈ most, more ≤ bound - least) ∧ word ∈ words a ^ (least + more)}
  | .group a => words a

/-- One of the words stands between two positions of a text. -/
def Stands (text : List Char) (words : Language Char) (i j : Nat) : Prop :=
  ∃ word ∈ words, text.drop i = word ++ text.drop j ∧ i + word.length = j

namespace Stands

variable {text : List Char} {i j : Nat}

theorem one_iff : Stands text 1 i j ↔ i = j := by
  simp only [Stands, Language.mem_one, exists_eq_left, List.nil_append, List.length_nil,
    Nat.add_zero]
  constructor
  · exact And.right
  · rintro rfl
    exact ⟨rfl, rfl⟩

/-- A product stands where its factors stand one after the other. -/
theorem mul_iff {first second : Language Char} :
    Stands text (first * second) i j ↔ ∃ k, Stands text first i k ∧ Stands text second k j := by
  constructor
  · rintro ⟨word, hword, hdrop, rfl⟩
    obtain ⟨u, hu, v, hv, rfl⟩ := Language.mem_mul.1 hword
    -- The second word begins where the first one ends.
    have hrest : text.drop (i + u.length) = v ++ text.drop (i + (u ++ v).length) := by
      rw [← List.drop_drop, hdrop]
      simp
    refine ⟨i + u.length, ⟨u, hu, ?_, rfl⟩, v, hv, hrest, ?_⟩
    · rw [hrest, hdrop, List.append_assoc]
    · simp [Nat.add_assoc]
  · rintro ⟨k, ⟨u, hu, hfirst, rfl⟩, v, hv, hsecond, rfl⟩
    refine ⟨u ++ v, Language.append_mem_mul hu hv, ?_, ?_⟩
    · rw [hfirst, hsecond, List.append_assoc]
    · simp [Nat.add_assoc]

/-- A power stands where the words stand that many times in a row. -/
theorem pow_iff {words : Language Char} {times : Nat} :
    Stands text (words ^ times) i j ↔ Regular.Repeated (Stands text words) times i j := by
  induction times generalizing i with
  | zero => rw [pow_zero, one_iff]; rfl
  | succ times ih =>
      rw [pow_succ', mul_iff]
      simp only [Regular.Repeated, ih]

theorem add_iff {first second : Language Char} :
    Stands text (first + second) i j ↔ Stands text first i j ∨ Stands text second i j := by
  simp only [Stands, Language.mem_add]
  grind

/-- A whole text is one of the words if it is their only part. -/
theorem whole_iff {words : Language Char} :
    Stands text words 0 text.length ↔ text ∈ words := by
  constructor
  · rintro ⟨word, hword, hdrop, -⟩
    rw [List.drop_zero, List.drop_length, List.append_nil] at hdrop
    rwa [hdrop]
  · intro htext
    exact ⟨text, htext, by simp, Nat.zero_add _⟩

end Stands

/-- A pattern that asks for no place spans the words of its language, and nothing else. -/
theorem spans_iff_of_isPlain {pattern : Pattern} (hplain : isPlain pattern = true)
    {text : List Char} {i j : Nat} :
    Spans text pattern i j ↔ Stands text (words pattern) i j := by
  induction pattern generalizing i j with
  | empty => exact Stands.one_iff.symm
  | symbol set =>
      constructor
      · rintro ⟨⟨c, hc, hcontains⟩, rfl⟩
        obtain ⟨hlt, rfl⟩ := List.getElem?_eq_some_iff.1 hc
        exact ⟨[text[i]], ⟨_, rfl, hcontains⟩, List.drop_eq_getElem_cons hlt, rfl⟩
      · rintro ⟨_, ⟨c, rfl, hcontains⟩, hdrop, rfl⟩
        refine ⟨⟨c, ?_, hcontains⟩, rfl⟩
        rw [← List.head?_drop, hdrop]
        rfl
  | assertion place => cases hplain
  | seq a b iha ihb =>
      obtain ⟨ha, hb⟩ := Bool.and_eq_true_iff.1 hplain
      rw [words, Stands.mul_iff]
      simp only [spans_seq, iha ha, ihb hb]
  | alt a b iha ihb =>
      obtain ⟨ha, hb⟩ := Bool.and_eq_true_iff.1 hplain
      rw [words, Stands.add_iff, ← iha ha, ← ihb hb]
      rfl
  | rep a least most ih =>
      -- The relation of the body is replaced as a whole, since it is repeated.
      have hbody : Spans text a = Stands text (words a) := by
        funext i j
        exact propext (ih hplain)
      have hrep : Spans text (.rep a least most) i j ↔
          ∃ more, (∀ bound ∈ most, more ≤ bound - least) ∧
            Stands text (words a ^ (least + more)) i j := by
        simp only [Stands.pow_iff, ← hbody]
        exact Iff.rfl
      rw [hrep]
      constructor
      · rintro ⟨more, hmore, word, hword, hstands⟩
        exact ⟨word, ⟨more, hmore, hword⟩, hstands⟩
      · rintro ⟨word, ⟨more, hmore, hword⟩, hstands⟩
        exact ⟨more, hmore, word, hword, hstands⟩
  | group a ih => exact ih hplain

/-! ## Languages of single constructs -/

theorem words_inRow_nil : words (.inRow []) = 1 := rfl

/-- The words of a row are products of those of its items. -/
theorem words_inRow_cons (item : Pattern) (items : List Pattern) :
    words (.inRow (item :: items)) = words item * words (.inRow items) := rfl

theorem words_inRow_append (first second : List Pattern) :
    words (.inRow (first ++ second)) = words (.inRow first) * words (.inRow second) := by
  induction first with
  | nil => exact (one_mul _).symm
  | cons item first ih => rw [List.cons_append, words_inRow_cons, words_inRow_cons, ih, mul_assoc]

/-- The words of a star are the Kleene star of those of its body. -/
theorem words_star (body : Pattern) : words (.star body) = (words body)∗ := by
  rw [Language.kstar_eq_iSup_pow]
  ext word
  rw [Language.mem_iSup]
  change (∃ more, (∀ bound ∈ none, more ≤ bound - 0) ∧ word ∈ words body ^ (0 + more)) ↔ _
  simp

theorem words_optional (body : Pattern) : words (.optional body) = 1 + words body := by
  ext word
  change (∃ more, (∀ bound ∈ some 1, more ≤ bound - 0) ∧ word ∈ words body ^ (0 + more)) ↔ _
  rw [Language.mem_add]
  constructor
  · rintro ⟨more, hmore, hword⟩
    have hle := hmore 1 rfl
    rcases Nat.le_one_iff_eq_zero_or_eq_one.1 hle with rfl | rfl
    · exact .inl hword
    · exact .inr (by simpa using hword)
  · rintro (hword | hword)
    · exact ⟨0, by simp, hword⟩
    · exact ⟨1, by simp, by simpa using hword⟩

/-- A set of characters so many times matches as many of its members. -/
theorem mem_words_symbol_pow {set : CharSet} {times : Nat} {word : List Char} :
    word ∈ words (.symbol set) ^ times ↔
      word.length = times ∧ ∀ c ∈ word, set.contains c.toNat = true := by
  induction times generalizing word with
  | zero =>
      rw [pow_zero, Language.mem_one]
      constructor
      · rintro rfl
        simp
      · rintro ⟨hlength, -⟩
        exact List.length_eq_zero_iff.1 hlength
  | succ times ih =>
      rw [pow_succ', Language.mem_mul]
      constructor
      · rintro ⟨_, ⟨c, rfl, hc⟩, rest, hrest, rfl⟩
        obtain ⟨rfl, hall⟩ := ih.1 hrest
        exact ⟨rfl, List.forall_mem_cons.2 ⟨hc, hall⟩⟩
      · rintro ⟨hlength, hall⟩
        obtain ⟨c, rest, rfl⟩ := List.exists_cons_of_length_eq_add_one hlength
        obtain ⟨hc, hrest⟩ := List.forall_mem_cons.1 hall
        exact ⟨[c], ⟨c, rfl, hc⟩, rest, ih.2 ⟨Nat.succ.inj hlength, hrest⟩, rfl⟩

/-- The words of a repeated symbol are those of its characters with a length within the bounds. -/
theorem mem_words_rep_symbol {set : CharSet} {least : Nat} {most : Option Nat}
    {word : List Char} :
    word ∈ words (.rep (.symbol set) least most) ↔
      least ≤ word.length ∧ (∀ bound ∈ most, word.length - least ≤ bound - least) ∧
        ∀ c ∈ word, set.contains c.toNat = true := by
  change (∃ more, (∀ bound ∈ most, more ≤ bound - least) ∧
    word ∈ words (.symbol set) ^ (least + more)) ↔ _
  simp only [mem_words_symbol_pow]
  constructor
  · rintro ⟨more, hmore, hlength, hall⟩
    rw [hlength, Nat.add_sub_cancel_left]
    exact ⟨Nat.le_add_right _ _, hmore, hall⟩
  · rintro ⟨hleast, hmost, hall⟩
    exact ⟨word.length - least, hmost, (Nat.add_sub_of_le hleast).symm, hall⟩

/-- A bracket holds what lies in one of its ranges. -/
theorem contains_bracket (ranges : List (Nat × Nat)) (code : Nat) :
    (CharSet.bracket ranges).contains code = true ↔ ∃ r ∈ ranges, r.1 ≤ code ∧ code ≤ r.2 := by
  induction ranges with
  | nil => simp [CharSet.bracket, CharSet.contains]
  | cons r ranges ih =>
      have hcons : CharSet.bracket (r :: ranges) =
          .union (.range r.1 r.2) (CharSet.bracket ranges) := rfl
      simp [hcons, CharSet.contains, ih]

theorem mem_words_anyOf {chars word : List Char} :
    word ∈ words (.symbol (.anyOf chars)) ↔ ∃ c ∈ chars, word = [c] := by
  have hcontains : ∀ c : Char, (CharSet.anyOf chars).contains c.toNat = true ↔ c ∈ chars := by
    intro c
    simp only [CharSet.anyOf, contains_bracket, List.mem_map, exists_exists_and_eq_and,
      ← Nat.le_antisymm_iff, Char.toNat_inj, exists_eq_right]
  constructor
  · rintro ⟨c, rfl, hc⟩
    exact ⟨c, (hcontains c).1 hc, rfl⟩
  · rintro ⟨c, hc, rfl⟩
    exact ⟨c, rfl, (hcontains c).2 hc⟩

theorem mem_words_single {c : Char} {word : List Char} :
    word ∈ words (.symbol (.single c)) ↔ word = [c] := by
  have hcontains : ∀ d : Char, (CharSet.single c).contains d.toNat = true ↔ d = c := by
    intro d
    simp only [CharSet.single, CharSet.contains, Bool.and_eq_true, decide_eq_true_eq]
    rw [← Char.toNat_inj]
    omega
  constructor
  · rintro ⟨d, rfl, hd⟩
    rw [(hcontains d).1 hd]
  · rintro rfl
    exact ⟨c, rfl, (hcontains c).2 rfl⟩

/-! ## Expressions of whole texts -/

/-- An expression that is read as a pattern compiles to it, if it takes not too much room. -/
theorem compile?_of_pattern? {source : String} {pattern : Pattern} {flags : Flags}
    (hread : (Node.parse? source).bind (·.pattern? .standard) = some (pattern, flags))
    (hfits : (footprint pattern).fits = true) : compile? source = some ⟨source, pattern⟩ := by
  obtain ⟨node, hnode, hpattern⟩ := Option.bind_eq_some_iff.1 hread
  simp only [compile?, hnode, hpattern, Option.bind_eq_bind, Option.bind_some, hfits, if_true]

/-- The two ends of a text leave one place for a match, the whole text. -/
theorem isMatch_whole (source : String) {items : List Pattern}
    (hplain : isPlain (.inRow items) = true) (text : String) :
    (whole source items).isMatch text = true ↔ text.toList ∈ words (.inRow items) := by
  have hitems : ∀ i j, Spans text.toList (.inRow items) i j ↔
      Stands text.toList (words (.inRow items)) i j := by
    intro i j
    exact spans_iff_of_isPlain hplain
  have hspans : ∀ i j, Spans text.toList (whole source items).pattern i j ↔
      i = 0 ∧ j = text.toList.length ∧ text.toList ∈ words (.inRow items) := by
    intro i j
    rw [whole, spans_inRow_append]
    simp only [spans_inRow_append, spans_inRow_singleton, spans_textStart, spans_textEnd, hitems]
    rw [← Stands.whole_iff]
    grind
  rw [isMatch_iff]
  simp only [hspans]
  constructor
  · rintro ⟨_, -, _, -, -, hword⟩
    exact hword
  · intro hword
    exact ⟨0, Nat.zero_le _, _, rfl, rfl, hword⟩

end Assay.Regex
