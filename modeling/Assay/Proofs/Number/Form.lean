import Assay.Numeral
import Mathlib.Data.List.TakeWhile

/-!
# Forms — how numerals are written

A numeral is written as an optional sign, digits with or without a fraction part, and an optional
exponent.  What counts as a digit is left open: an ASCII digit, or a digit of any script.

* `Numeral.Form` relates characters to the numeral that they write;
* `Numeral.exists_form_of_scan` states that scanning takes a written numeral off a text;
* `Numeral.scan_form` states that it takes all of one, unless what follows goes on with it;
* `Numeral.Form.unique` states that characters write one numeral at most.
-/

namespace Assay

namespace Numeral

/-! ## Written forms -/

/-- The characters are a sign, or nothing: a number without a sign is not negative. -/
inductive SignForm : List Char → Bool → Prop where
  | none : SignForm [] false
  | plus : SignForm ['+'] false
  | minus : SignForm ['-'] true

/-- The characters are digits, at least one. -/
structure DigitsForm (digit : Char → Bool) (chars : List Char) : Prop where
  nonempty : chars ≠ []
  all : chars.all digit = true

/-- The characters are digits, or digits around a point with at least one on either side. -/
inductive MantissaForm (digit : Char → Bool) :
    List Char → List Char → Option (List Char) → Prop where
  | whole {whole : List Char} (digits : DigitsForm digit whole) :
      MantissaForm digit whole whole none
  | point {whole after : List Char} (digits : DigitsForm digit whole)
      (all : after.all digit = true) :
      MantissaForm digit (whole ++ '.' :: after) whole (some after)
  | bare {after : List Char} (digits : DigitsForm digit after) :
      MantissaForm digit ('.' :: after) [] (some after)

/-- The characters are an exponent, or nothing. -/
inductive ExponentForm (digit : Char → Bool) : List Char → Option (Bool × List Char) → Prop where
  | none : ExponentForm digit [] none
  | marked {mark : Char} {sign digits : List Char} {negative : Bool}
      (isMark : mark = 'e' ∨ mark = 'E') (ofSign : SignForm sign negative)
      (ofDigits : DigitsForm digit digits) :
      ExponentForm digit (mark :: (sign ++ digits)) (some (negative, digits))

/-- The characters write the numeral. -/
inductive Form (digit : Char → Bool) : List Char → Numeral → Prop where
  | intro {sign mantissa exponent : List Char} {n : Numeral} (ofSign : SignForm sign n.negative)
      (ofMantissa : MantissaForm digit mantissa n.whole n.fraction)
      (ofExponent : ExponentForm digit exponent n.exponent) :
      Form digit (sign ++ (mantissa ++ exponent)) n

/-- The characters that divide a numeral into its parts. -/
def marks : List Char := ['+', '-', '.', 'e', 'E']

/-- No mark is a digit. -/
def MarksApart (digit : Char → Bool) : Prop := ∀ c ∈ marks, digit c = false

/-- No numeral goes on with these characters. -/
def Ends (digit : Char → Bool) (rest : List Char) : Prop :=
  ∀ c ∈ rest.head?, digit c = false ∧ c ∉ ['.', 'e', 'E']

variable {digit : Char → Bool} {text rest chars whole sign : List Char} {negative : Bool}
  {fraction : Option (List Char)} {exponent : Option (Bool × List Char)} {n : Numeral}

theorem forall_marks {q : Char → Prop} :
    (∀ c ∈ marks, q c) ↔ q '+' ∧ q '-' ∧ q '.' ∧ q 'e' ∧ q 'E' := by
  simp [marks]

theorem marksApart_ascii : MarksApart isAsciiDigit := forall_marks.2 (by decide)

theorem ends_nil (digit : Char → Bool) : Ends digit [] := by
  intro c hc
  cases hc

/-- Digits are not empty, and all of them are digits. -/
theorem digitsForm_iff : (chars.isEmpty || !chars.all digit) = false ↔ DigitsForm digit chars := by
  rw [Bool.or_eq_false_iff, List.isEmpty_eq_false_iff, Bool.not_eq_false']
  exact ⟨fun h => ⟨h.1, h.2⟩, fun h => ⟨h.nonempty, h.all⟩⟩

/-- A sign and digits write a numeral that has no other parts. -/
theorem form_whole (ofSign : SignForm sign negative) (digits : DigitsForm digit whole) :
    Form digit (sign ++ whole) ⟨negative, whole, none, none⟩ := by
  have hform : Form digit (sign ++ (whole ++ [])) ⟨negative, whole, none, none⟩ :=
    .intro ofSign (.whole digits) .none
  rwa [List.append_nil] at hform

/-- A numeral that has no other parts is written as a sign and digits. -/
theorem Form.exists_sign (form : Form digit chars n) (hfraction : n.fraction = none)
    (hexponent : n.exponent = none) :
    ∃ sign, SignForm sign n.negative ∧ DigitsForm digit n.whole ∧ chars = sign ++ n.whole := by
  cases form with
  | intro ofSign ofMantissa ofExponent =>
      rw [hfraction] at ofMantissa
      rw [hexponent] at ofExponent
      generalize n.whole = whole at ofMantissa ⊢
      cases ofMantissa with
      | whole digits =>
          cases ofExponent with
          | none => exact ⟨_, ofSign, digits, by rw [List.append_nil]⟩

/-! ## The characters of a form -/

theorem SignForm.mem (ofSign : SignForm sign negative) {c : Char} (h : c ∈ sign) : c ∈ marks := by
  cases ofSign with
  | none => cases h
  | plus =>
      cases List.mem_singleton.1 h
      decide
  | minus =>
      cases List.mem_singleton.1 h
      decide

/-- A mantissa has digits and marks only. -/
theorem MantissaForm.mem (ofMantissa : MantissaForm digit chars whole fraction) {c : Char}
    (h : c ∈ chars) : digit c = true ∨ c ∈ marks := by
  have hpoint : '.' ∈ marks := by decide
  cases ofMantissa with
  | whole digits => exact .inl (List.all_eq_true.1 digits.all c h)
  | point digits all =>
      rcases List.mem_append.1 h with hwhole | hafter
      · exact .inl (List.all_eq_true.1 digits.all c hwhole)
      · rcases List.mem_cons.1 hafter with rfl | hafter
        · exact .inr hpoint
        · exact .inl (List.all_eq_true.1 all c hafter)
  | bare digits =>
      rcases List.mem_cons.1 h with rfl | hafter
      · exact .inr hpoint
      · exact .inl (List.all_eq_true.1 digits.all c hafter)

theorem ExponentForm.mem (ofExponent : ExponentForm digit chars exponent) {c : Char}
    (h : c ∈ chars) : digit c = true ∨ c ∈ marks := by
  cases ofExponent with
  | none => cases h
  | marked isMark ofSign ofDigits =>
      rcases List.mem_cons.1 h with rfl | hrest
      · rcases isMark with rfl | rfl
        · exact .inr (by decide)
        · exact .inr (by decide)
      · rcases List.mem_append.1 hrest with hsign | hdigits
        · exact .inr (ofSign.mem hsign)
        · exact .inl (List.all_eq_true.1 ofDigits.all c hdigits)

/-- A form consists of digits and marks. -/
theorem Form.mem (form : Form digit chars n) {c : Char} (h : c ∈ chars) :
    digit c = true ∨ c ∈ marks := by
  cases form with
  | intro ofSign ofMantissa ofExponent =>
      rcases List.mem_append.1 h with hsign | hrest
      · exact .inr (ofSign.mem hsign)
      · rcases List.mem_append.1 hrest with hmantissa | hexponent
        · exact ofMantissa.mem hmantissa
        · exact ofExponent.mem hexponent

/-! ## Classes of digits -/

/-- All digits of a numeral, from left to right. -/
def digits (n : Numeral) : List Char :=
  n.whole ++ (n.fraction.getD [] ++ n.exponent.elim [] (·.2))

theorem isAscii_eq (n : Numeral) : n.isAscii = n.digits.all isAsciiDigit := by
  simp [isAscii, digits, Bool.and_assoc]

theorem MantissaForm.all (ofMantissa : MantissaForm digit chars whole fraction) :
    whole.all digit = true ∧ (fraction.getD []).all digit = true := by
  cases ofMantissa with
  | whole digits => exact ⟨digits.all, rfl⟩
  | point digits all => exact ⟨digits.all, all⟩
  | bare digits => exact ⟨rfl, digits.all⟩

theorem ExponentForm.all (ofExponent : ExponentForm digit chars exponent) :
    (exponent.elim [] (·.2)).all digit = true := by
  cases ofExponent with
  | none => rfl
  | marked _ _ ofDigits => exact ofDigits.all

theorem Form.all (form : Form digit chars n) : n.digits.all digit = true := by
  cases form with
  | intro _ ofMantissa ofExponent =>
      rw [digits, List.all_append, List.all_append, ofMantissa.all.1, ofMantissa.all.2,
        ofExponent.all]
      rfl

theorem MantissaForm.of_all {other : Char → Bool}
    (ofMantissa : MantissaForm digit chars whole fraction) (hwhole : whole.all other = true)
    (hafter : (fraction.getD []).all other = true) : MantissaForm other chars whole fraction := by
  cases ofMantissa with
  | whole digits => exact .whole ⟨digits.nonempty, hwhole⟩
  | point digits _ => exact .point ⟨digits.nonempty, hwhole⟩ hafter
  | bare digits => exact .bare ⟨digits.nonempty, hafter⟩

/-- An exponent keeps its form under any test that its digits pass. -/
theorem ExponentForm.of_all {other : Char → Bool} (ofExponent : ExponentForm digit chars exponent)
    (h : (exponent.elim [] (·.2)).all other = true) : ExponentForm other chars exponent := by
  cases ofExponent with
  | none => exact .none
  | marked isMark ofSign ofDigits => exact .marked isMark ofSign ⟨ofDigits.nonempty, h⟩

/-- A form with digits of one class is a form of another class if all its digits are. -/
theorem Form.of_all {other : Char → Bool} (form : Form digit chars n)
    (h : n.digits.all other = true) : Form other chars n := by
  cases form with
  | intro ofSign ofMantissa ofExponent =>
      rw [digits, List.all_append, List.all_append, Bool.and_eq_true, Bool.and_eq_true] at h
      exact .intro ofSign (ofMantissa.of_all h.1 h.2.1) (ofExponent.of_all h.2.2)

/-- A number keeps its form where more characters count as digits. -/
theorem Form.mono {other : Char → Bool} (form : Form digit chars n)
    (h : ∀ c, digit c = true → other c = true) : Form other chars n :=
  form.of_all (List.all_eq_true.2 fun c hc => h c (List.all_eq_true.1 form.all c hc))

/-! ## What is scanned is a written form -/

/-- What is scanned as a sign has its form. -/
theorem exists_signForm (text : List Char) :
    ∃ sign, SignForm sign (scanSign text).1 ∧ text = sign ++ (scanSign text).2 := by
  unfold scanSign
  split
  · exact ⟨_, .minus, rfl⟩
  · exact ⟨_, .plus, rfl⟩
  · exact ⟨_, .none, rfl⟩

/-- Digits in front of a text are digits, if there are any. -/
theorem digitsForm_takeWhile (h : text.takeWhile digit ≠ []) :
    DigitsForm digit (text.takeWhile digit) :=
  ⟨h, List.all_takeWhile⟩

/-- What is scanned as an exponent has its form. -/
theorem exists_exponentForm (digit : Char → Bool) (text : List Char) :
    ∃ chars, ExponentForm digit chars (scanExponent digit text).1 ∧
      text = chars ++ (scanExponent digit text).2 := by
  cases text with
  | nil => exact ⟨[], .none, rfl⟩
  | cons mark after =>
      rw [scanExponent]
      by_cases hmark : mark = 'e' ∨ mark = 'E'
      · rw [if_pos hmark]
        rcases exists_signForm after with ⟨sign, ofSign, hafter⟩
        dsimp only
        split
        · -- Without a digit the mark does not belong to the numeral.
          exact ⟨[], .none, rfl⟩
        · rename_i hdigits
          refine ⟨_, .marked hmark ofSign (digitsForm_takeWhile hdigits), ?_⟩
          rw [List.cons_append, List.append_assoc, List.takeWhile_append_dropWhile, ← hafter]
      · rw [if_neg hmark]
        exact ⟨[], .none, rfl⟩

/-- Takes the digits of a numeral and its point, and what follows them. -/
def scanMantissa (digit : Char → Bool) (text : List Char) :
    Option ((List Char × Option (List Char)) × List Char) :=
  let whole := text.takeWhile digit
  match text.dropWhile digit with
  | '.' :: after =>
    if whole.isEmpty && (after.takeWhile digit).isEmpty then none
    else some ((whole, some (after.takeWhile digit)), after.dropWhile digit)
  | rest => if whole.isEmpty then none else some ((whole, none), rest)

theorem scanMantissa_point {after : List Char} (h : text.dropWhile digit = '.' :: after) :
    scanMantissa digit text =
      if (text.takeWhile digit).isEmpty && (after.takeWhile digit).isEmpty then none
      else some ((text.takeWhile digit, some (after.takeWhile digit)), after.dropWhile digit) := by
  unfold scanMantissa
  rw [h]
  rfl

theorem scanMantissa_pointless (h : ∀ after, text.dropWhile digit ≠ '.' :: after) :
    scanMantissa digit text =
      if (text.takeWhile digit).isEmpty then none
      else some ((text.takeWhile digit, none), text.dropWhile digit) := by
  unfold scanMantissa
  dsimp only
  split
  · rename_i after hafter
    exact absurd hafter (h after)
  · rfl

/-- A numeral is scanned part by part. -/
theorem scan_eq (digit : Char → Bool) (text : List Char) :
    scan digit text =
      (scanMantissa digit (scanSign text).2).map fun mantissa =>
        (⟨(scanSign text).1, mantissa.1.1, mantissa.1.2, (scanExponent digit mantissa.2).1⟩,
          (scanExponent digit mantissa.2).2) := by
  unfold scan
  rcases scanSign text with ⟨negative, unsigned⟩
  dsimp only
  split
  · rename_i after hafter
    rw [scanMantissa_point hafter]
    cases (unsigned.takeWhile digit).isEmpty <;>
      cases (after.takeWhile digit).isEmpty <;> rfl
  · rename_i hpoint
    rw [scanMantissa_pointless hpoint]
    cases (unsigned.takeWhile digit).isEmpty <;> rfl

/-- What is scanned as a mantissa has its form. -/
theorem exists_mantissaForm (h : scanMantissa digit text = some ((whole, fraction), rest)) :
    ∃ chars, MantissaForm digit chars whole fraction ∧ text = chars ++ rest := by
  have hparts : text.takeWhile digit ++ text.dropWhile digit = text :=
    List.takeWhile_append_dropWhile
  by_cases hpoint : ∃ after, text.dropWhile digit = '.' :: after
  · rcases hpoint with ⟨after, hafter⟩
    have hdigits : after.takeWhile digit ++ after.dropWhile digit = after :=
      List.takeWhile_append_dropWhile
    rw [hafter] at hparts
    rw [scanMantissa_point hafter] at h
    split at h
    · cases h
    · rename_i hsome
      cases h
      by_cases hwhole : text.takeWhile digit = []
      · -- No digit stands before the point, and so one stands after it.
        have hbare : after.takeWhile digit ≠ [] := by simpa [hwhole] using hsome
        rw [hwhole] at hparts ⊢
        refine ⟨_, .bare (digitsForm_takeWhile hbare), ?_⟩
        rw [List.cons_append, hdigits, ← hparts, List.nil_append]
      · refine ⟨_, .point (digitsForm_takeWhile hwhole) List.all_takeWhile, ?_⟩
        rw [List.append_assoc, List.cons_append, hdigits, hparts]
  · rw [scanMantissa_pointless (not_exists.1 hpoint)] at h
    split at h
    · cases h
    · rename_i hsome
      cases h
      have hwhole : text.takeWhile digit ≠ [] := by simpa using hsome
      exact ⟨_, .whole (digitsForm_takeWhile hwhole), hparts.symm⟩

/-- What is scanned is a written form of the numeral that is found. -/
theorem exists_form_of_scan (h : scan digit text = some (n, rest)) :
    ∃ chars, Form digit chars n ∧ text = chars ++ rest := by
  rw [scan_eq] at h
  rcases Option.map_eq_some_iff.1 h with ⟨⟨⟨whole, fraction⟩, unread⟩, hmantissa, heq⟩
  cases heq
  -- Every part is written by characters of its own, and the next part is read from what they leave.
  rcases exists_signForm text with ⟨sign, ofSign, hsign⟩
  rcases exists_mantissaForm hmantissa with ⟨mantissa, ofMantissa, hunsigned⟩
  rcases exists_exponentForm digit unread with ⟨exponent, ofExponent, hunread⟩
  refine ⟨_, .intro ofSign ofMantissa ofExponent, ?_⟩
  calc text
      = sign ++ (scanSign text).2 := hsign
    _ = sign ++ (mantissa ++ unread) := by rw [hunsigned]
    _ = sign ++ (mantissa ++ (exponent ++ (scanExponent digit unread).2)) := by rw [← hunread]
    _ = sign ++ (mantissa ++ exponent) ++ (scanExponent digit unread).2 := by
        rw [List.append_assoc, List.append_assoc]

theorem whole_of_scanMantissa (h : scanMantissa digit text = some ((whole, fraction), rest)) :
    whole = text.takeWhile digit := by
  by_cases hpoint : ∃ after, text.dropWhile digit = '.' :: after
  · rcases hpoint with ⟨after, hafter⟩
    rw [scanMantissa_point hafter] at h
    split at h <;> cases h
    rfl
  · rw [scanMantissa_pointless (not_exists.1 hpoint)] at h
    split at h <;> cases h
    rfl

/-- The whole part of a numeral is all digits up to the first character that is none. -/
theorem whole_of_scan (h : scan digit text = some (n, rest)) :
    n.whole = (scanSign text).2.takeWhile digit := by
  rw [scan_eq] at h
  rcases Option.map_eq_some_iff.1 h with ⟨⟨⟨whole, fraction⟩, unread⟩, hmantissa, heq⟩
  cases heq
  exact whole_of_scanMantissa hmantissa

/-! ## A written form is scanned as a whole -/

/-- Digits are taken up to the first character that is none. -/
theorem span_digits (all : chars.all digit = true) (stop : ∀ c ∈ rest.head?, digit c = false) :
    (chars ++ rest).takeWhile digit = chars ∧ (chars ++ rest).dropWhile digit = rest := by
  have hall := List.all_eq_true.1 all
  rw [List.takeWhile_append_of_pos hall, List.dropWhile_append_of_pos hall]
  cases rest with
  | nil => simp
  | cons c after =>
      have hstop : digit c = false := stop c rfl
      simp [hstop]

/-- Digits do not begin with a sign. -/
theorem DigitsForm.head (digits : DigitsForm digit chars) (apart : MarksApart digit) :
    ∀ c ∈ (chars ++ rest).head?, c ≠ '+' ∧ c ≠ '-' := by
  intro c hc
  have hdigit : digit c = true := by
    cases chars with
    | nil => exact absurd rfl digits.nonempty
    | cons first after =>
        cases hc
        exact List.all_eq_true.1 digits.all c List.mem_cons_self
  have hmark : ∀ mark ∈ marks, c ≠ mark := by
    rintro mark hmem rfl
    rw [apart c hmem] at hdigit
    cases hdigit
  exact ⟨hmark '+' (by decide), hmark '-' (by decide)⟩

/-- A sign is scanned as such in front of what is unsigned. -/
theorem scanSign_form (ofSign : SignForm sign negative)
    (unsigned : ∀ c ∈ rest.head?, c ≠ '+' ∧ c ≠ '-') :
    scanSign (sign ++ rest) = (negative, rest) := by
  cases ofSign with
  | plus => rfl
  | minus => rfl
  | none =>
      cases rest with
      | nil => rfl
      | cons c after =>
          have hc := unsigned c rfl
          simp [scanSign, hc.1, hc.2]

/-- An exponent is scanned as such where it ends. -/
theorem scanExponent_form (apart : MarksApart digit) (ofExponent : ExponentForm digit chars exponent)
    (ends : Ends digit rest) : scanExponent digit (chars ++ rest) = (exponent, rest) := by
  cases ofExponent with
  | none =>
      -- What ends the numeral is no mark of an exponent.
      cases rest with
      | nil => rfl
      | cons c after =>
          have hc := (ends c rfl).2
          have hmark : ¬ (c = 'e' ∨ c = 'E') := by simp_all
          exact if_neg hmark
  | marked isMark ofSign ofDigits =>
      rename_i mark sign digits negative
      have hsign : scanSign (sign ++ (digits ++ rest)) = (negative, digits ++ rest) :=
        scanSign_form ofSign (ofDigits.head apart)
      have hspan := span_digits ofDigits.all fun c hc => (ends c hc).1
      rw [List.cons_append, List.append_assoc, scanExponent, if_pos isMark, hsign]
      dsimp only
      rw [hspan.1, hspan.2]
      cases digits with
      | nil => exact absurd rfl ofDigits.nonempty
      | cons => rfl

/-- A mantissa is scanned as such where neither a digit nor a point follows. -/
theorem scanMantissa_form (apart : MarksApart digit)
    (ofMantissa : MantissaForm digit chars whole fraction)
    (stop : ∀ c ∈ rest.head?, digit c = false ∧ c ≠ '.') :
    scanMantissa digit (chars ++ rest) = some ((whole, fraction), rest) := by
  have hpoint : digit '.' = false := apart '.' (by decide)
  cases ofMantissa with
  | whole digits =>
      have hspan := span_digits digits.all fun c hc => (stop c hc).1
      -- The digits end at something that is no point, so that there is no fraction part.
      have hpointless : ∀ after, (chars ++ rest).dropWhile digit ≠ '.' :: after := by
        intro after hafter
        rw [hspan.2] at hafter
        exact (stop '.' (by rw [hafter]; rfl)).2 rfl
      rw [scanMantissa_pointless hpointless, hspan.1, hspan.2]
      simp [digits.nonempty]
  | point digits all =>
      rename_i after
      have hspan := span_digits all fun c hc => (stop c hc).1
      have hwhole : (whole ++ '.' :: (after ++ rest)).takeWhile digit = whole ∧
          (whole ++ '.' :: (after ++ rest)).dropWhile digit = '.' :: (after ++ rest) := by
        refine span_digits digits.all fun c hc => ?_
        cases hc
        exact hpoint
      rw [List.append_assoc, List.cons_append, scanMantissa_point hwhole.2, hwhole.1, hspan.1,
        hspan.2]
      simp [digits.nonempty]
  | bare digits =>
      rename_i after
      have hspan := span_digits digits.all fun c hc => (stop c hc).1
      have hnone : ('.' :: (after ++ rest)).takeWhile digit = [] :=
        List.takeWhile_cons_of_neg (by simp [hpoint])
      have hstay : ('.' :: (after ++ rest)).dropWhile digit = '.' :: (after ++ rest) :=
        List.dropWhile_cons_of_neg (by simp [hpoint])
      rw [List.cons_append, scanMantissa_point hstay, hnone, hspan.1, hspan.2]
      simp [digits.nonempty]

/-- A mantissa begins with a digit or a point. -/
theorem MantissaForm.head (ofMantissa : MantissaForm digit chars whole fraction)
    (apart : MarksApart digit) : ∀ c ∈ (chars ++ rest).head?, c ≠ '+' ∧ c ≠ '-' := by
  intro c hc
  cases ofMantissa with
  | whole digits => exact digits.head apart c hc
  | point digits _ =>
      rw [List.append_assoc] at hc
      exact digits.head apart c hc
  | bare _ =>
      cases hc
      decide

/-- Neither an exponent nor what ends the numeral goes on with the mantissa. -/
theorem ExponentForm.head (ofExponent : ExponentForm digit chars exponent)
    (apart : MarksApart digit) (ends : Ends digit rest) :
    ∀ c ∈ (chars ++ rest).head?, digit c = false ∧ c ≠ '.' := by
  intro c hc
  cases ofExponent with
  | none =>
      have hends := ends c hc
      exact ⟨hends.1, fun hpoint => hends.2 (by simp [hpoint])⟩
  | marked isMark _ _ =>
      cases hc
      rcases isMark with rfl | rfl
      · exact ⟨apart 'e' (by decide), by decide⟩
      · exact ⟨apart 'E' (by decide), by decide⟩

/-- All of a written numeral is scanned, whatever follows that does not go on with it. -/
theorem scan_form (apart : MarksApart digit) (form : Form digit chars n) (ends : Ends digit rest) :
    scan digit (chars ++ rest) = some (n, rest) := by
  cases form with
  | intro ofSign ofMantissa ofExponent =>
      rename_i sign mantissa exponent
      -- Each part stops where the next one begins: the sign at the mantissa, the mantissa at the
      -- exponent or at the rest, and the exponent at the rest.
      have hsign : scanSign (sign ++ (mantissa ++ (exponent ++ rest))) =
          (n.negative, mantissa ++ (exponent ++ rest)) :=
        scanSign_form ofSign (ofMantissa.head apart)
      have hmantissa : scanMantissa digit (mantissa ++ (exponent ++ rest)) =
          some ((n.whole, n.fraction), exponent ++ rest) :=
        scanMantissa_form apart ofMantissa (ofExponent.head apart ends)
      have hexponent : scanExponent digit (exponent ++ rest) = (n.exponent, rest) :=
        scanExponent_form apart ofExponent ends
      rw [List.append_assoc, List.append_assoc, scan_eq, hsign]
      dsimp only
      rw [hmantissa, Option.map_some, hexponent]

/-- A scan reads the whole text exactly if it has the form. -/
theorem scan_eq_some_nil_iff (apart : MarksApart digit) :
    scan digit text = some (n, []) ↔ Form digit text n := by
  constructor
  · intro h
    rcases exists_form_of_scan h with ⟨chars, form, htext⟩
    rwa [htext, List.append_nil]
  · intro form
    have hscan := scan_form apart form (ends_nil digit)
    rwa [List.append_nil] at hscan

/-- Characters write one numeral at most. -/
theorem Form.unique {m : Numeral} (apart : MarksApart digit) (hm : Form digit chars m)
    (hn : Form digit chars n) : m = n := by
  have hscan := (scan_eq_some_nil_iff apart).2 hm
  rw [(scan_eq_some_nil_iff apart).2 hn] at hscan
  cases hscan
  rfl

end Numeral

end Assay
