import Assay.Json.Reader
import Assay.Proofs.Ascending
import Assay.Proofs.Check.Integers
import Assay.Proofs.Value.Keys

/-!
# Reading — documents come back from their text

A document without floats is read back from its text, whatever its strings contain, as long as its
containers are not nested too deep.

* `Json.readStringFrom?_escapeChar` is the step through a string, `Json.readString?_escaped` the
  whole of one;
* `Json.readNumber?_toString` states that an integer is read as the same integer;
* `Json.Exact` says of a document that it has no floats, that its members ascend, and how deep it is
  nested;
* `Json.parse?_text` states that such a document is what its text is read as.
-/

namespace Assay.Json

open Numeral

variable {rest : List Char}

/-! ## Strings -/

/-- A hexadecimal digit is read back. -/
theorem hexDigit?_hexDigit {n : Nat} (h : n < 16) : hexDigit? (hexDigit n) = some n := by
  have hall : ∀ n < 16, hexDigit? (hexDigit n) = some n := by decide
  exact hall n h

/-- The code point of a control character takes two digits. -/
theorem readCodePoint?_control {c : Char} (h : c < ' ') (rest : List Char) :
    readCodePoint? ('0' :: '0' :: hexDigit (c.toNat / 16) :: hexDigit (c.toNat % 16) :: rest) =
      some (c, rest) := by
  have hcode : c.toNat < 32 := h
  have hhigh := hexDigit?_hexDigit (n := c.toNat / 16) (by omega)
  have hlow := hexDigit?_hexDigit (n := c.toNat % 16) (by omega)
  have hzero : hexDigit? '0' = some 0 := rfl
  have hsum : ((0 * 16 + 0) * 16 + c.toNat / 16) * 16 + c.toNat % 16 = c.toNat := by omega
  simp only [readCodePoint?, readHex4?, hzero, hhigh, hlow, hsum, Option.bind_eq_bind,
    Option.bind_some, Char.ofNat_toNat]
  rw [if_pos (.inl (by omega))]

/-- However a character is escaped, one step reads it. -/
theorem readStringFrom?_escapeChar (steps : Nat) (done : List Char) (c : Char) (rest : List Char) :
    readStringFrom? (steps + 1) done ((escapeChar c).toList ++ rest) =
      readStringFrom? steps (c :: done) rest := by
  unfold escapeChar
  -- Seven characters have a letter of their own, and other control characters are written by code.
  split_ifs with hquote hbackslash hback hform hline hreturn htab hcontrol
  · rw [hquote]; rfl
  · rw [hbackslash]; rfl
  · rw [hback]; rfl
  · rw [hform]; rfl
  · rw [hline]; rfl
  · rw [hreturn]; rfl
  · rw [htab]; rfl
  · rw [String.toList_ofList]
    simp [readStringFrom?, readCodePoint?_control hcontrol]
  · simp [readStringFrom?, hquote, hbackslash, hcontrol]

/-- Characters as they are written between the quotes of a string. -/
def escapedChars (chars : List Char) : List Char := chars.flatMap fun c => (escapeChar c).toList

/-- A text is escaped character by character. -/
theorem escapedChars_cons (c : Char) (chars : List Char) :
    escapedChars (c :: chars) = (escapeChar c).toList ++ escapedChars chars :=
  List.flatMap_cons

theorem stringText_append (s : String) (rest : List Char) :
    (stringText s).toList ++ rest = '"' :: (escapedChars s.toList ++ '"' :: rest) := by
  simp [stringText, escapedChars, String.toList_join, List.flatMap_map]

/-- An escaped text is read back up to the closing quotation mark. -/
theorem readStringFrom?_escaped {chars : List Char} {steps : Nat} (enough : chars.length < steps)
    (done rest : List Char) :
    readStringFrom? steps done (escapedChars chars ++ '"' :: rest) =
      some (String.ofList (done.reverse ++ chars), rest) := by
  -- On the characters, however long each is written: a step takes one of them.
  induction chars generalizing steps done with
  | nil =>
      cases steps with
      | zero => cases enough
      | succ steps => simp [escapedChars, readStringFrom?]
  | cons c chars ih =>
      cases steps with
      | zero => cases enough
      | succ steps =>
          rw [escapedChars_cons, List.append_assoc, readStringFrom?_escapeChar,
            ih (Nat.lt_of_succ_lt_succ enough), List.reverse_cons, List.append_assoc,
            List.singleton_append]

/-- Escaping does not make a text shorter. -/
theorem length_le_escaped (chars : List Char) :
    chars.length ≤ (escapedChars chars).length := by
  induction chars with
  | nil => exact Nat.le_refl 0
  | cons c chars ih =>
      have hchar : 1 ≤ (escapeChar c).toList.length := by
        unfold escapeChar
        split_ifs <;> simp
      rw [escapedChars_cons, List.length_append, List.length_cons]
      omega

/-- A string is read back after its opening quote. -/
theorem readString?_escaped (s : String) (rest : List Char) :
    readString? (escapedChars s.toList ++ '"' :: rest) = some (s, rest) := by
  have hlength := length_le_escaped s.toList
  have henough : s.toList.length < (escapedChars s.toList ++ '"' :: rest).length + 1 := by
    rw [List.length_append]
    omega
  rw [readString?, readStringFrom?_escaped henough, List.reverse_nil, List.nil_append,
    String.ofList_toList]

/-! ## Integers -/

theorem le_ofDigitChars (digits : List Char) (n : Nat) : n ≤ Nat.ofDigitChars 10 digits n := by
  induction digits generalizing n with
  | nil => exact Nat.le_refl n
  | cons c digits ih =>
      rw [Nat.ofDigitChars_cons]
      exact Nat.le_trans (by omega) (ih _)

/-- All digits are taken of a number that 64 bits hold. -/
theorem takeWhole_digits {digits : List Char} {n : Nat}
    (fits : Nat.ofDigitChars 10 digits n < 2 ^ 64) :
    Significand.takeWhole ⟨n, 0⟩ digits = ⟨Nat.ofDigitChars 10 digits n, 0⟩ := by
  induction digits generalizing n with
  | nil => rfl
  | cons c digits ih =>
      rw [Nat.ofDigitChars_cons, Nat.mul_comm] at fits
      -- What follows only makes the number larger, so that this digit fits as well.
      have hlt := Nat.lt_of_le_of_lt (le_ofDigitChars digits _) fits
      have hadmits : (⟨n, 0⟩ : Significand).admits (c.toNat - '0'.toNat) = true :=
        decide_eq_true hlt
      rw [Significand.takeWhole, if_pos ⟨rfl, hadmits⟩, ih fits, Nat.ofDigitChars_cons,
        Nat.mul_comm]

/-- A number is written in ASCII digits. -/
theorem digitsForm_toDigits (n : Nat) : DigitsForm isAsciiDigit (Nat.toDigits 10 n) :=
  ⟨Nat.toDigits_ne_nil, Check.all_toDigits n⟩

/-- The decimal form of a number has no zero in front. -/
theorem length_toDigits_of_zero {n : Nat} (h : (Nat.toDigits 10 n).head? = some '0') :
    (Nat.toDigits 10 n).length = 1 := by
  rcases List.head?_eq_some_iff.1 h with ⟨others, hdigits⟩
  rcases List.eq_nil_or_concat others with hnil | ⟨_, _, hothers⟩
  · rw [hdigits, hnil]
    rfl
  · -- Without the zero the others would be the same digits again, and fewer.
    have hform : DigitsForm isAsciiDigit others := by
      have hall := (digitsForm_toDigits n).all
      rw [hdigits, List.all_cons, Bool.and_eq_true] at hall
      exact ⟨by simp [hothers], hall.2⟩
    have hvalue : digitsValue others = n := by
      have hwhole : digitsValue (Nat.toDigits 10 n) = n := Nat.ofDigitChars_ten_toDigits
      rwa [hdigits] at hwhole
    rcases exists_zeros hform with ⟨zeros, hzeros⟩
    rw [hvalue, hdigits] at hzeros
    have hlength := congrArg List.length hzeros
    rw [List.length_append, List.length_cons] at hlength
    omega

/-- The number that begins here, after a minus if it is negative, is the integer. -/
theorem readNumber?_digits {negative : Bool} {n : Nat} {i : Int64}
    (value : signed negative n = i.toInt) (nonzero : negative = true → n ≠ 0)
    (ends : Ends isAsciiDigit rest) :
    readNumber? ((if negative then ['-'] else []) ++ (Nat.toDigits 10 n ++ rest)) =
      some (.int i, rest) := by
  have hform := digitsForm_toDigits n
  have hspan := span_digits hform.all fun c hc => (ends c hc).1
  have hsmall : n < 2 ^ 64 := by
    have hless := i.toInt_lt
    have hleast := i.le_toInt
    cases negative with
    | true =>
        rw [Binary64.signed_true] at value
        omega
    | false =>
        rw [Binary64.signed_false] at value
        omega
  have hwhole : Significand.takeWhole ⟨0, 0⟩ (Nat.toDigits 10 n) = ⟨n, 0⟩ := by
    have hvalue : Nat.ofDigitChars 10 (Nat.toDigits 10 n) 0 = n := Nat.ofDigitChars_ten_toDigits
    have htake := takeWhole_digits (hvalue.symm ▸ hsmall)
    rwa [hvalue] at htake
  have hinteger : (negative && n == 0) = false ∧ int64? (signed negative n) = some i := by
    refine ⟨?_, Check.int64?_eq_some_iff.2 value.symm⟩
    cases negative with
    | true => simpa using nonzero rfl
    | false => rfl
  unfold readNumber?
  split
  rename_i minus unsigned hsign
  have hparts : minus = negative ∧ unsigned = Nat.toDigits 10 n ++ rest := by
    cases negative with
    | true => exact ⟨(congrArg Prod.fst hsign).symm, (congrArg Prod.snd hsign).symm⟩
    | false =>
        -- The first digit is no minus.
        split at hsign
        · rename_i heq
          have hhead := congrArg List.head? heq
          exact absurd rfl (hform.head marksApart_ascii '-' hhead).2
        · exact ⟨(congrArg Prod.fst hsign).symm, (congrArg Prod.snd hsign).symm⟩
  rcases hparts with ⟨rfl, rfl⟩
  simp only [hspan.1, hspan.2, hwhole]
  -- Neither a fraction nor an exponent follows.
  cases rest with
  | nil => simpa [hinteger] using length_toDigits_of_zero
  | cons c after =>
      have hmarks := (ends c rfl).2
      simp only [List.mem_cons, List.not_mem_nil, or_false, not_or] at hmarks
      simpa [hinteger, hmarks] using length_toDigits_of_zero

/-- An integer is read back, unless what follows goes on with it. -/
theorem readNumber?_toString (i : Int64) (ends : Ends isAsciiDigit rest) :
    readNumber? ((toString i.toInt).toList ++ rest) = some (.int i, rest) := by
  rcases Check.exists_toDigits i.toInt with ⟨negative, n, hvalue, hnonzero, htext⟩
  rw [htext, List.append_assoc]
  exact readNumber?_digits hvalue hnonzero ends

/-! ## Documents -/

/-- A document without floats, whose members ascend, and with so many containers in one another at
most. -/
inductive Exact : Nat → Json → Prop where
  | null (depth : Nat) : Exact depth .null
  | bool (depth : Nat) (b : Bool) : Exact depth (.bool b)
  | integer (depth : Nat) (i : Int64) : Exact depth (.number (.int i))
  | string (depth : Nat) (s : String) : Exact depth (.string s)
  | array {depth : Nat} {items : List Json} (inside : ∀ item ∈ items, Exact depth item) :
      Exact (depth + 1) (.array items)
  | object {depth : Nat} {members : List (String × Json)}
      (ascending : Entries.Ascending members)
      (inside : ∀ member ∈ members, Exact depth member.2) : Exact (depth + 1) (.object members)

/-- In front of what does not go on with a number, the text of the document is read as it. -/
def ReadsBack (depth : Nat) (document : Json) : Prop :=
  ∀ (steps : Nat) (rest : List Char), 2 * document.text.length ≤ steps → Ends isAsciiDigit rest →
    readDocument? steps depth (document.text.toList ++ rest) = some (document, rest)

variable {depth : Nat} {document : Json}

theorem ends_cons {c : Char} (h : isAsciiDigit c = false ∧ c ∉ ['.', 'e', 'E'])
    (rest : List Char) : Ends isAsciiDigit (c :: rest) := by
  intro d hd
  cases hd
  exact h

theorem skipSpace_cons {c : Char} (h : isSpace c = false) (rest : List Char) :
    skipSpace (c :: rest) = c :: rest :=
  List.dropWhile_cons_of_neg (by rw [h]; exact Bool.false_ne_true)

/-- What an integer begins with. -/
theorem exists_integer_head (i : Int) :
    ∃ c tail, (toString i).toList = c :: tail ∧ (isAsciiDigit c = true ∨ c = '-') := by
  rcases Check.exists_toDigits i with ⟨negative, n, -, -, htext⟩
  cases negative with
  | true => exact ⟨'-', _, htext, .inr rfl⟩
  | false =>
      have hform := digitsForm_toDigits n
      rcases List.exists_cons_of_ne_nil hform.nonempty with ⟨c, tail, hdigits⟩
      refine ⟨c, tail, htext.trans hdigits, .inl ?_⟩
      exact List.all_eq_true.1 hform.all c (hdigits ▸ List.mem_cons_self)

theorem isSpace_of_integer_head {c : Char} (h : isAsciiDigit c = true ∨ c = '-') :
    isSpace c = false := by
  refine Bool.eq_false_iff.2 fun hspace => ?_
  simp only [isSpace, Bool.or_eq_true, beq_iff_eq] at hspace
  rcases hspace with ((rfl | rfl) | rfl) | rfl <;> exact absurd h (by decide)

/-- A text that begins with a digit or a minus is that of a number. -/
theorem readDocument?_number {c : Char} (h : isAsciiDigit c = true ∨ c = '-') (steps depth : Nat)
    (rest : List Char) :
    readDocument? (steps + 1) depth (c :: rest) =
      (readNumber? (c :: rest)).map fun read => (.number read.1, read.2) := by
  rw [readDocument?, skipSpace_cons (isSpace_of_integer_head h)]
  -- No other kind of document begins so.
  split
  case h_8 => cases readNumber? (c :: rest) <;> rfl
  all_goals
    rename_i heq
    cases heq
  all_goals exact absurd h (by decide)

theorem toList_arrayText (items : List Json) :
    (Json.array items).text.toList =
      '[' :: ((",".intercalate (itemTexts items)).toList ++ [']']) := by
  rw [text, String.toList_append, String.toList_append]
  rfl

theorem toList_objectText (members : List (String × Json)) :
    (Json.object members).text.toList =
      '\x7b' :: ((",".intercalate (memberTexts members)).toList ++ ['\x7d']) := by
  rw [text, String.toList_append, String.toList_append]
  rfl

/-- No document begins with a blank or with what ends an array. -/
theorem Exact.exists_head (h : Exact depth document) :
    ∃ c, document.text.toList.head? = some c ∧ isSpace c = false ∧ c ≠ ']' := by
  cases h with
  | null => exact ⟨'n', rfl, by decide, by decide⟩
  | bool _ b =>
      cases b with
      | true => exact ⟨'t', rfl, by decide, by decide⟩
      | false => exact ⟨'f', rfl, by decide, by decide⟩
  | integer _ i =>
      rcases exists_integer_head i.toInt with ⟨c, tail, htext, hc⟩
      refine ⟨c, congrArg List.head? htext, isSpace_of_integer_head hc, ?_⟩
      rintro rfl
      exact absurd hc (by decide)
  | string _ s =>
      have hquote := stringText_append s []
      rw [List.append_nil] at hquote
      exact ⟨'"', congrArg List.head? hquote, by decide, by decide⟩
  | array => exact ⟨'[', congrArg List.head? (toList_arrayText _), by decide, by decide⟩
  | object => exact ⟨'\x7b', congrArg List.head? (toList_objectText _), by decide, by decide⟩

/-- Texts that are joined begin as the first of them does. -/
theorem head?_intercalate {first : String} {c : Char} (h : first.toList.head? = some c)
    (others : List String) (after : List Char) :
    ((",".intercalate (first :: others)).toList ++ after).head? = some c := by
  rw [List.head?_append]
  cases others with
  | nil => rw [String.intercalate_singleton, h, Option.some_or]
  | cons next others =>
      rw [String.intercalate_cons_cons, String.toList_append, String.toList_append,
        List.head?_append, List.head?_append, h, Option.some_or, Option.some_or, Option.some_or]

/-- The last item ends at the bracket. -/
theorem readItems?_last {steps : Nat} {chars : List Char} {item : Json}
    (h : readDocument? steps depth chars = some (item, ']' :: rest)) :
    readItems? (steps + 1) depth chars = some ([item], rest) := by
  rw [readItems?, h]
  rfl

/-- An item before a comma is followed by others. -/
theorem readItems?_more {steps : Nat} {chars after : List Char} {item : Json} {items : List Json}
    (h : readDocument? steps depth chars = some (item, ',' :: after))
    (hafter : readItems? steps depth after = some (items, rest)) :
    readItems? (steps + 1) depth chars = some (item :: items, rest) := by
  rw [readItems?, h]
  change (readItems? steps depth after).bind _ = _
  rw [hafter]
  rfl

/-- The items of an array that is not empty are read back, up to its end. -/
theorem readItems?_texts {items : List Json} (nonempty : items ≠ [])
    (inside : ∀ item ∈ items, ReadsBack depth item) {steps : Nat}
    (enough : 2 * (",".intercalate (itemTexts items)).length < steps) :
    readItems? steps depth ((",".intercalate (itemTexts items)).toList ++ ']' :: rest) =
      some (items, rest) := by
  -- Each item takes a step besides those that its own text needs, and has its separator for it.
  induction items generalizing steps with
  | nil => exact absurd rfl nonempty
  | cons item items ih =>
      have hitem := inside item List.mem_cons_self
      have hcomma : ",".toList = [','] ∧ ",".length = 1 := ⟨rfl, rfl⟩
      rcases steps with _ | steps
      · omega
      cases items with
      | nil =>
          rw [itemTexts, itemTexts, String.intercalate_singleton] at enough ⊢
          exact readItems?_last (hitem _ _ (by omega) (ends_cons (by decide) _))
      | cons next items =>
          have htext : ",".intercalate (itemTexts (item :: next :: items)) =
              item.text ++ ("," ++ ",".intercalate (itemTexts (next :: items))) := by
            rw [itemTexts, itemTexts, String.intercalate_cons_cons, String.append_assoc]
          rw [htext] at enough ⊢
          simp only [String.length_append, hcomma.2] at enough
          simp only [String.toList_append, hcomma.1, List.append_assoc, List.singleton_append]
          exact readItems?_more (hitem _ _ (by omega) (ends_cons (by decide) _))
            (ih (List.cons_ne_nil _ _) (fun x hx => inside x (List.mem_cons_of_mem _ hx))
              (by omega))

/-- A name is read back, and then the member after its colon is read. -/
theorem readMembers?_last {steps : Nat} {chars : List Char} {name : String} {member : Json}
    (h : readDocument? steps depth chars = some (member, '\x7d' :: rest)) :
    readMembers? (steps + 1) depth ((stringText name).toList ++ ':' :: chars) =
      some ([(name, member)], rest) := by
  rw [stringText_append, readMembers?, skipSpace_cons (by decide)]
  simp only [readString?_escaped, Option.bind_eq_bind, Option.bind_some,
    skipSpace_cons (c := ':') rfl, h, skipSpace_cons (c := '\x7d') rfl]

theorem readMembers?_more {steps : Nat} {chars after : List Char} {name : String} {member : Json}
    {members : List (String × Json)}
    (h : readDocument? steps depth chars = some (member, ',' :: after))
    (hafter : readMembers? steps depth after = some (members, rest)) :
    readMembers? (steps + 1) depth ((stringText name).toList ++ ':' :: chars) =
      some ((name, member) :: members, rest) := by
  rw [stringText_append, readMembers?, skipSpace_cons (by decide)]
  simp only [readString?_escaped, Option.bind_eq_bind, Option.bind_some,
    skipSpace_cons (c := ':') rfl, h, skipSpace_cons (c := ',') rfl, hafter]

/-- The members of an object that is not empty are read back, up to its end. -/
theorem readMembers?_texts {members : List (String × Json)} (nonempty : members ≠ [])
    (inside : ∀ member ∈ members, ReadsBack depth member.2) {steps : Nat}
    (enough : 2 * (",".intercalate (memberTexts members)).length < steps) :
    readMembers? steps depth ((",".intercalate (memberTexts members)).toList ++ '\x7d' :: rest) =
      some (members, rest) := by
  induction members generalizing steps with
  | nil => exact absurd rfl nonempty
  | cons entry members ih =>
      rcases entry with ⟨name, member⟩
      have hmember : ReadsBack depth member := inside (name, member) List.mem_cons_self
      have hcolon : ":".toList = [':'] ∧ ":".length = 1 := ⟨rfl, rfl⟩
      have hcomma : ",".toList = [','] ∧ ",".length = 1 := ⟨rfl, rfl⟩
      rcases steps with _ | steps
      · omega
      cases members with
      | nil =>
          rw [memberTexts, memberTexts, String.intercalate_singleton] at enough ⊢
          simp only [String.length_append, hcolon.2] at enough
          simp only [String.toList_append, hcolon.1, List.append_assoc, List.singleton_append]
          exact readMembers?_last (hmember _ _ (by omega) (ends_cons (by decide) _))
      | cons next members =>
          have htext : ",".intercalate (memberTexts ((name, member) :: next :: members)) =
              stringText name ++ (":" ++ (member.text ++ ("," ++
                ",".intercalate (memberTexts (next :: members))))) := by
            rw [memberTexts, memberTexts, String.intercalate_cons_cons]
            simp only [String.append_assoc]
          rw [htext] at enough ⊢
          simp only [String.length_append, hcolon.2, hcomma.2] at enough
          simp only [String.toList_append, hcolon.1, hcomma.1, List.append_assoc,
            List.cons_append, List.nil_append]
          exact readMembers?_more (hmember _ _ (by omega) (ends_cons (by decide) _))
            (ih (List.cons_ne_nil _ _) (fun x hx => inside x (List.mem_cons_of_mem _ hx))
              (by omega))

/-- An array that is not empty is read item by item. -/
theorem readDocument?_array {steps : Nat} {chars : List Char} {items : List Json} {c : Char}
    (head : chars.head? = some c) (visible : isSpace c = false) (filled : c ≠ ']')
    (h : readItems? steps depth chars = some (items, rest)) :
    readDocument? (steps + 1) (depth + 1) ('[' :: chars) = some (.array items, rest) := by
  rcases List.head?_eq_some_iff.1 head with ⟨tail, rfl⟩
  rw [readDocument?, skipSpace_cons (by decide)]
  simp [skipSpace_cons visible, filled, h]

/-- An object that is not empty is read member by member. -/
theorem readDocument?_object {steps : Nat} {chars : List Char} {members : List (String × Json)}
    (ascending : Entries.Ascending members) (head : chars.head? = some '"')
    (h : readMembers? steps depth chars = some (members, rest)) :
    readDocument? (steps + 1) (depth + 1) ('\x7b' :: chars) = some (.object members, rest) := by
  rcases List.head?_eq_some_iff.1 head with ⟨tail, rfl⟩
  rw [readDocument?, skipSpace_cons (by decide)]
  simp [skipSpace_cons (c := '"') rfl, h, ascending.sortedOfPairs_eq]

/-- Reading takes a step, and there is one. -/
theorem Exact.readsBack_of_succ (h : Exact depth document)
    (hsucc : ∀ steps rest, 2 * document.text.length ≤ steps + 1 → Ends isAsciiDigit rest →
      readDocument? (steps + 1) depth (document.text.toList ++ rest) = some (document, rest)) :
    ReadsBack depth document := by
  intro steps rest enough ends
  cases steps with
  | succ steps => exact hsucc steps rest enough ends
  | zero =>
      rcases h.exists_head with ⟨c, hc, -⟩
      have hempty : document.text.toList = [] := by
        rw [← List.length_eq_zero_iff, String.length_toList]
        omega
      rw [hempty] at hc
      cases hc

/-- An exact document is read back. -/
theorem Exact.readsBack (h : Exact depth document) : ReadsBack depth document := by
  -- The two brackets of a container leave more steps than its members need.
  induction h with
  | null depth => exact (Exact.null depth).readsBack_of_succ fun steps rest _ _ => rfl
  | bool depth b =>
      refine (Exact.bool depth b).readsBack_of_succ fun steps rest _ _ => ?_
      cases b <;> rfl
  | integer depth i =>
      refine (Exact.integer depth i).readsBack_of_succ fun steps rest _ ends => ?_
      rcases exists_integer_head i.toInt with ⟨c, tail, htext, hc⟩
      have hread := readNumber?_toString i ends
      change readDocument? _ _ ((toString i.toInt).toList ++ rest) = _
      rw [htext] at hread ⊢
      rw [List.cons_append, readDocument?_number hc, ← List.cons_append, hread]
      rfl
  | string depth s =>
      refine (Exact.string depth s).readsBack_of_succ fun steps rest _ _ => ?_
      change readDocument? _ _ ((stringText s).toList ++ rest) = _
      rw [stringText_append, readDocument?, skipSpace_cons (by decide)]
      simp only [readString?_escaped, Option.bind_eq_bind, Option.bind_some]
  | @array depth items inside ih =>
      refine (Exact.array inside).readsBack_of_succ fun steps rest enough _ => ?_
      have htext := toList_arrayText items
      have hlength := congrArg List.length htext
      simp only [String.length_toList, List.length_cons, List.length_append, List.length_nil]
        at hlength
      rw [htext, List.cons_append, List.append_assoc, List.singleton_append]
      cases items with
      | nil => rfl
      | cons item items =>
          rcases (inside item List.mem_cons_self).exists_head with ⟨c, hc, hvisible, hfilled⟩
          have hhead := head?_intercalate hc (itemTexts items) (']' :: rest)
          exact readDocument?_array hhead hvisible hfilled
            (readItems?_texts (List.cons_ne_nil _ _) ih (by omega))
  | @object depth members ascending inside ih =>
      refine (Exact.object ascending inside).readsBack_of_succ fun steps rest enough _ => ?_
      have htext := toList_objectText members
      have hlength := congrArg List.length htext
      simp only [String.length_toList, List.length_cons, List.length_append, List.length_nil]
        at hlength
      rw [htext, List.cons_append, List.append_assoc, List.singleton_append]
      cases members with
      | nil => rfl
      | cons member members =>
          rcases member with ⟨name, member⟩
          have hname : (stringText name ++ ":" ++ member.text).toList.head? = some '"' := by
            rw [String.toList_append, String.toList_append, List.append_assoc, stringText_append]
            rfl
          have hhead := head?_intercalate hname (memberTexts members) ('\x7d' :: rest)
          exact readDocument?_object ascending hhead
            (readMembers?_texts (List.cons_ne_nil _ _) ih (by omega))

/-- An exact document is what its text is read as. -/
theorem parse?_text (h : Exact depthLimit document) : parse? document.text = some document := by
  have hread := h.readsBack (2 * document.text.length + 2) [] (by omega) (ends_nil _)
  rw [List.append_nil] at hread
  rw [parse?, hread]
  rfl

end Assay.Json
