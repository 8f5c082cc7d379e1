import Assay.Proofs.Check.Normal
import Assay.Proofs.Text.Case

/-!
# References — how special characters are written

A special character is written as a reference to it: its name, or its decimal number, between an
ampersand and a semicolon.  Nothing in a reference is special but the ampersand, so a text that has
been escaped holds no markup; and a reference is told from what follows it, so the text that was
escaped can be read back.

* `Refers` relates the name of a reference to the character that it stands for, and
  `Refers.unique` states that this is one character only;
* `exists_refers` states that special characters are written as references to them;
* `mem_escaped`, `reference_of_suffix` and `escapeChar_append_inj` state what escaped texts hold,
  what follows their ampersands, and that they are read back character by character;
* `escape_safe_unambiguous` states this of what escaping leaves.
-/

namespace Assay.Check

/-- A character that is written as a reference. -/
def isSpecial (full : Bool) (c : Char) : Bool :=
  ['&', '<', '>', '"', '\''].contains c || (full && decide (0x80 ≤ c.toNat))

variable {full : Bool} {text name : List Char} {c d : Char}

theorem isSpecial_of_isAsciiDigit (full : Bool) (h : isAsciiDigit c = true) :
    isSpecial full c = false := by
  have hlisted : ['&', '<', '>', '"', '\''].any isAsciiDigit = false := by decide
  have hcode : 48 ≤ c.toNat ∧ c.toNat ≤ 57 := Char.isDigit_iff_toNat.1 h
  rw [Bool.eq_false_iff]
  intro hspecial
  rcases Bool.or_eq_true_iff.1 hspecial with hmem | hforeign
  · exact List.any_eq_false.1 hlisted c (List.contains_iff_mem.1 hmem) h
  · have hbeyond : 0x80 ≤ c.toNat := of_decide_eq_true (Bool.and_eq_true_iff.1 hforeign).2
    omega

/-! ## Names -/

/-- The names of the characters that have one. -/
def namedReferences : List (String × Char) :=
  [("amp", '&'), ("lt", '<'), ("gt", '>'), ("quot", '"'), ("#039", '\'')]

/-- The name refers to the character: it is its own name, or, where all is written in ASCII, its
decimal number. -/
inductive Refers (full : Bool) : List Char → Char → Prop where
  | named {name : String} {c : Char} (listed : (name, c) ∈ namedReferences) :
      Refers full name.toList c
  | number {c : Char} (inAscii : full = true) (foreign : 0x80 ≤ c.toNat) :
      Refers full ('#' :: Nat.toDigits 10 c.toNat) c

/-- A reference is a name between an ampersand and a semicolon. -/
def reference (name : List Char) : List Char := '&' :: (name ++ [';'])

namespace Refers

/-- No character of a name is special, or ends it. -/
theorem mem (h : Refers full name c) (hd : d ∈ name) : isSpecial full d = false ∧ d ≠ ';' := by
  cases h with
  | named listed =>
      have hnames : ∀ entry ∈ namedReferences,
          entry.1.toList.any (fun d => isSpecial full d || d == ';') = false := by
        cases full <;> decide
      simpa using List.any_eq_false.1 (hnames _ listed) d hd
  | number _ _ =>
      rcases List.mem_cons.1 hd with rfl | hdigit
      · cases full <;> decide
      · have hdecimal : isAsciiDigit d = true :=
          Nat.isDigit_of_mem_toDigits (by decide) (by decide) hdigit
        refine ⟨isSpecial_of_isAsciiDigit full hdecimal, ?_⟩
        rintro rfl
        exact absurd hdecimal (by decide)

/-- The number of a character beyond ASCII is nobody's name. -/
theorem not_listed {number : String} (foreign : 0x80 ≤ c.toNat)
    (h : number.toList = '#' :: Nat.toDigits 10 c.toNat) : (number, d) ∉ namedReferences := by
  intro hlisted
  have hsmall : ∀ entry ∈ namedReferences, entry.1.toList.head? = some '#' →
      Numeral.digitsValue entry.1.toList.tail < 0x80 := by decide
  have hvalue := hsmall _ hlisted (congrArg List.head? h)
  rw [h, List.tail_cons, Numeral.digitsValue, Nat.ofDigitChars_ten_toDigits] at hvalue
  exact absurd foreign (Nat.not_le_of_lt hvalue)

/-- A name refers to one character at most. -/
theorem unique (hc : Refers full name c) (hd : Refers full name d) : c = d := by
  cases hc with
  | @named first _ hfirst =>
      generalize hname : first.toList = name at hd
      cases hd with
      | @named second _ hsecond =>
          have hnames : ∀ entry ∈ namedReferences, ∀ other ∈ namedReferences,
              entry.1 = other.1 → entry.2 = other.2 := by decide
          exact hnames _ hfirst _ hsecond (String.toList_inj.1 hname)
      | number _ foreign => exact absurd hfirst (not_listed foreign hname)
  | number _ foreign =>
      generalize hname : '#' :: Nat.toDigits 10 c.toNat = name at hd
      cases hd with
      | named hlisted => exact absurd hlisted (not_listed foreign hname.symm)
      | number _ _ =>
          have hdigits := congrArg Numeral.digitsValue (List.cons.inj hname).2
          rw [Numeral.digitsValue, Numeral.digitsValue, Nat.ofDigitChars_ten_toDigits,
            Nat.ofDigitChars_ten_toDigits] at hdigits
          exact Char.toNat_inj.1 hdigits

end Refers

/-! ## Characters -/

/-- A character without a reference stands for itself. -/
theorem escapeChar_of_not_special (h : isSpecial full c = false) : escapeChar full c = [c] := by
  simp only [isSpecial, List.contains_cons, List.contains_nil, Bool.or_eq_false_iff,
    beq_eq_false_iff_ne] at h
  simp_all [escapeChar]

/-- A special character is written as a reference to it. -/
theorem exists_refers (h : isSpecial full c = true) :
    ∃ name, Refers full name c ∧ escapeChar full c = reference name := by
  have hnamed : ∀ name : String, (name, c) ∈ namedReferences →
      ∃ other, Refers full other c ∧ reference name.toList = reference other :=
    fun _ listed => ⟨_, .named listed, rfl⟩
  unfold escapeChar
  split
  · subst c
    exact hnamed "amp" (by decide)
  split
  · subst c
    exact hnamed "lt" (by decide)
  split
  · subst c
    exact hnamed "gt" (by decide)
  split
  · subst c
    exact hnamed "quot" (by decide)
  split
  · subst c
    exact hnamed "#039" (by decide)
  split
  · rename_i hforeign
    exact ⟨_, .number hforeign.1 hforeign.2, rfl⟩
  · -- No other character is special.
    simp_all [isSpecial]

/-- Every reference begins with an ampersand. -/
theorem mem_escaped_of_special (hc : c ∈ text) (h : isSpecial full c = true) :
    '&' ∈ text.flatMap (escapeChar full) := by
  rcases exists_refers h with ⟨name, -, hreference⟩
  exact List.mem_flatMap.2 ⟨c, hc, hreference ▸ List.mem_cons_self⟩

/-- Escaping does not shorten a text. -/
theorem length_le_escaped (full : Bool) (text : List Char) :
    text.length ≤ (text.flatMap (escapeChar full)).length := by
  induction text with
  | nil => exact Nat.le_refl 0
  | cons c rest ih =>
      have hnonempty : 0 < (escapeChar full c).length := by
        cases hspecial : isSpecial full c with
        | false => simp [escapeChar_of_not_special hspecial]
        | true =>
            rcases exists_refers hspecial with ⟨name, -, hreference⟩
            simp [hreference, reference]
      rw [List.flatMap_cons, List.length_append, List.length_cons]
      omega

/-- A text with a special character becomes longer. -/
theorem escaped_eq_self_iff :
    text.flatMap (escapeChar full) = text ↔ ∀ c ∈ text, isSpecial full c = false := by
  constructor
  · intro h
    induction text with
    | nil => simp
    | cons c rest ih =>
        rw [List.flatMap_cons] at h
        cases hspecial : isSpecial full c with
        | false =>
            rw [escapeChar_of_not_special hspecial] at h
            exact List.forall_mem_cons.2 ⟨hspecial, ih (List.cons.inj h).2⟩
        | true =>
            rcases exists_refers hspecial with ⟨name, -, hreference⟩
            have hlonger := congrArg List.length h
            have hrest := length_le_escaped full rest
            simp only [hreference, reference, List.length_append, List.length_cons] at hlonger
            omega
  · intro h
    exact Text.flatMap_eq_self fun c hc => escapeChar_of_not_special (h c hc)

/-- Escaping leaves alone exactly the texts without special characters. -/
theorem escapeMarkup_eq_self_iff {s : String} :
    escapeMarkup full s = s ↔ ∀ c ∈ s.toList, isSpecial full c = false := by
  rw [← escaped_eq_self_iff, ← String.toList_inj, escapeMarkup, String.toList_ofList]

/-! ## What escaped texts hold -/

/-- Nothing in an escaped text is special but the ampersands of its references. -/
theorem mem_escaped (h : d ∈ text.flatMap (escapeChar full)) :
    d = '&' ∨ isSpecial full d = false := by
  rcases List.mem_flatMap.1 h with ⟨c, -, hd⟩
  cases hspecial : isSpecial full c with
  | false =>
      rw [escapeChar_of_not_special hspecial, List.mem_singleton] at hd
      exact .inr (hd ▸ hspecial)
  | true =>
      rcases exists_refers hspecial with ⟨name, hrefers, hreference⟩
      rw [hreference, reference, List.mem_cons, List.mem_append, List.mem_singleton] at hd
      rcases hd with rfl | hname | rfl
      · exact .inl rfl
      · exact .inr (hrefers.mem hname).1
      · exact .inr (by cases full <;> decide)

/-- What begins with a character begins behind a front without it. -/
theorem suffix_of_not_mem {front rest after : List Char} (hc : c ∉ front)
    (h : c :: after <:+ front ++ rest) : c :: after <:+ rest := by
  induction front with
  | nil => exact h
  | cons first front ih =>
      rw [List.mem_cons, not_or] at hc
      rcases List.suffix_cons_iff.1 h with hwhole | hbehind
      · exact absurd (List.cons.inj hwhole).1 hc.1
      · exact ih hc.2 hbehind

/-- Every ampersand of an escaped text begins a reference. -/
theorem reference_of_suffix {after : List Char}
    (h : '&' :: after <:+ text.flatMap (escapeChar full)) :
    ∃ name c, Refers full name c ∧ reference name <+: '&' :: after := by
  induction text with
  | nil => cases List.suffix_nil.1 h
  | cons c rest ih =>
      have hampersand : isSpecial full '&' = true := rfl
      rw [List.flatMap_cons] at h
      cases hspecial : isSpecial full c with
      | false =>
          -- The character is no ampersand.
          rw [escapeChar_of_not_special hspecial] at h
          refine ih (suffix_of_not_mem (fun hmem => ?_) h)
          rw [List.mem_singleton.1 hmem, hspecial] at hampersand
          cases hampersand
      | true =>
          rcases exists_refers hspecial with ⟨name, hrefers, hreference⟩
          rw [hreference, reference, List.cons_append] at h
          rcases List.suffix_cons_iff.1 h with hhere | hbehind
          · rw [hhere, ← List.cons_append]
            exact ⟨name, c, hrefers, List.prefix_append _ _⟩
          · -- Behind its first character the reference holds no ampersand.
            refine ih (suffix_of_not_mem (fun hmem => ?_) hbehind)
            rcases List.mem_append.1 hmem with hname | hend
            · rw [(hrefers.mem hname).1] at hampersand
              cases hampersand
            · cases List.mem_singleton.1 hend

/-! ## Reading back -/

/-- A name ends at the first semicolon. -/
theorem append_semicolon_inj {other rest more : List Char} (hname : ';' ∉ name)
    (hother : ';' ∉ other) (h : name ++ ';' :: rest = other ++ ';' :: more) :
    name = other ∧ rest = more := by
  rcases List.append_eq_append_iff.1 h with ⟨between, hlonger, hrest⟩ | ⟨between, hlonger, hrest⟩
  · cases between with
    | nil => exact ⟨by simpa using hlonger.symm, (List.cons.inj hrest).2⟩
    | cons first between =>
        rw [hlonger, (List.cons.inj hrest).1] at hother
        simp at hother
  · cases between with
    | nil => exact ⟨by simpa using hlonger, (List.cons.inj hrest).2.symm⟩
    | cons first between =>
        rw [hlonger, (List.cons.inj hrest).1] at hname
        simp at hname

/-- The first character of an escaped text is read back, and then the rest. -/
theorem escapeChar_append_inj {rest more : List Char}
    (h : escapeChar full c ++ rest = escapeChar full d ++ more) : c = d ∧ rest = more := by
  have hampersand : isSpecial full '&' = true := rfl
  cases hc : isSpecial full c with
  | false =>
      rw [escapeChar_of_not_special hc] at h
      cases hd : isSpecial full d with
      | false =>
          rw [escapeChar_of_not_special hd] at h
          exact List.cons.inj h
      | true =>
          rcases exists_refers hd with ⟨name, -, hreference⟩
          rw [hreference] at h
          cases (List.cons.inj h).1
          cases hampersand.symm.trans hc
  | true =>
      rcases exists_refers hc with ⟨name, hname, hreference⟩
      rw [hreference] at h
      cases hd : isSpecial full d with
      | false =>
          rw [escapeChar_of_not_special hd] at h
          cases (List.cons.inj h).1
          cases hampersand.symm.trans hd
      | true =>
          rcases exists_refers hd with ⟨other, hother, hreference⟩
          rw [hreference, reference, reference, List.cons_append, List.cons_append,
            List.append_assoc, List.append_assoc] at h
          -- Both names end at the first semicolon, so they are the same.
          rcases append_semicolon_inj (fun hmem => (hname.mem hmem).2 rfl)
            (fun hmem => (hother.mem hmem).2 rfl) (List.cons.inj h).2 with ⟨rfl, hrest⟩
          exact ⟨hname.unique hother, hrest⟩

/-- By induction on both texts: different texts are escaped differently. -/
theorem escaped_injective (full : Bool) :
    Function.Injective fun text : List Char => text.flatMap (escapeChar full) := by
  have hnonempty : ∀ (c : Char) (rest : List Char),
      (c :: rest).flatMap (escapeChar full) ≠ [] := by
    intro c rest hempty
    have hlength := length_le_escaped full (c :: rest)
    rw [hempty] at hlength
    cases hlength
  intro text
  induction text with
  | nil =>
      rintro (_ | ⟨d, more⟩) h
      · rfl
      · exact absurd h.symm (hnonempty d more)
  | cons c rest ih =>
      rintro (_ | ⟨d, more⟩) h
      · exact absurd h (hnonempty c rest)
      · dsimp only at h
        rw [List.flatMap_cons, List.flatMap_cons] at h
        rcases escapeChar_append_inj h with ⟨rfl, hrest⟩
        rw [ih hrest]

/-! ## All together -/

theorem escape_value (full : Bool) (s : String) :
    (escape full (.str s)).value = .str (escapeMarkup full s) := cleaned_value rfl

theorem toList_escapeMarkup (full : Bool) (s : String) :
    (escapeMarkup full s).toList = s.toList.flatMap (escapeChar full) := String.toList_ofList

/-- Different texts stay different when they are escaped. -/
theorem escapeMarkup_injective (full : Bool) : Function.Injective (escapeMarkup full) := by
  intro s t h
  have hlists := congrArg String.toList h
  rw [toList_escapeMarkup, toList_escapeMarkup] at hlists
  exact String.toList_inj.1 (escaped_injective full hlists)

/-- What escaping leaves of a text holds no character of markup, and every ampersand in it begins a
reference; where all is to be ASCII, it is.  Different texts are left different. -/
theorem escape_safe_unambiguous (full : Bool) :
    (∀ s, ∃ left, (escape full (.str s)).value = .str left ∧
      (∀ c ∈ left.toList, c ∉ ['<', '>', '"', '\'']) ∧
      (∀ after, '&' :: after <:+ left.toList →
        ∃ name c, Refers full name c ∧ reference name <+: '&' :: after) ∧
      (full = true → ∀ c ∈ left.toList, c.toNat < 0x80)) ∧
    ∀ s t, (escape full (.str s)).value = (escape full (.str t)).value ↔ s = t := by
  refine ⟨fun s => ⟨_, escape_value full s, ?_, ?_, ?_⟩, fun s t => ?_⟩
  · intro c hc hmarkup
    rw [toList_escapeMarkup] at hc
    rcases mem_escaped hc with rfl | hplain
    · exact absurd hmarkup (by decide)
    · have hspecial : isSpecial full c = true :=
        Bool.or_eq_true_iff.2 (.inl (List.contains_iff_mem.2 (List.mem_cons_of_mem _ hmarkup)))
      cases hplain.symm.trans hspecial
  · intro after hafter
    rw [toList_escapeMarkup] at hafter
    exact reference_of_suffix hafter
  · rintro rfl c hc
    rw [toList_escapeMarkup] at hc
    rcases mem_escaped hc with rfl | hplain
    · decide
    · simp only [isSpecial, Bool.true_and, Bool.or_eq_false_iff, decide_eq_false_iff_not] at hplain
      exact Nat.lt_of_not_le hplain.2
  · rw [escape_value, escape_value, Value.str.injEq]
    exact (escapeMarkup_injective full).eq_iff

/-- Two texts that differ in one character and its reference: both are left in ASCII, and still
different; the text of the reference is left with an ampersand that begins another one. -/
theorem escape_safe_unambiguous_accents :
    let left := "&lt;&amp;#233;"
    (escape true (.str "<&#233;")).value = .str left ∧
      (∀ c ∈ left.toList, c ∉ ['<', '>', '"', '\''] ∧ c.toNat < 0x80) ∧
      (∃ name c, Refers true name c ∧ reference name <+: "&amp;#233;".toList) ∧
      (escape true (.str "<é")).value ≠ (escape true (.str "<&#233;")).value := by
  intro left
  have hleft : (escape true (.str "<&#233;")).value = .str left :=
    (escape_value true _).trans rfl
  rcases (escape_safe_unambiguous true).1 "<&#233;" with ⟨other, hother, hmarkup, href, hascii⟩
  cases hother.symm.trans hleft
  refine ⟨hleft, fun c hc => ⟨hmarkup c hc, hascii rfl c hc⟩, ?_, fun hsame => ?_⟩
  · exact href "amp;#233;".toList ⟨"&lt;".toList, by decide⟩
  · exact absurd (((escape_safe_unambiguous true).2 _ _).1 hsame) (by decide)

end Assay.Check
