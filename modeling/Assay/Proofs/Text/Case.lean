import Assay.Text.Case

/-!
# Case — a text in one case stays as it is

The letters that a case table leads to have no other form in the same case.  So a text that has been
put into lower or upper case is not changed by doing so again; of the letters whose form depends on
their neighbours none is left.

* `CodeTable.isSettled` compares the code points of a table with their images, and
  `CodeTable.images?_eq_none` draws the consequence for each of them;
* `upper_upper` and `lower_lower` state it for texts;
* `lowerAfter_ascii` states that in ASCII only letters change, each for itself.
-/

namespace Assay.Text

/-! ## Tables whose images have no images -/

/-- Code points as the bits of one number, so that two long lists are compared at once. -/
def codeBits (codes : List Nat) : Nat := codes.foldr (fun code rest => 2 ^ code ||| rest) 0

/-- The bits of a set of codes are its members. -/
theorem testBit_codeBits (codes : List Nat) (code : Nat) :
    (codeBits codes).testBit code = true ↔ code ∈ codes := by
  induction codes with
  | nil => simp [codeBits]
  | cons first rest ih =>
      have hbits : codeBits (first :: rest) = 2 ^ first ||| codeBits rest := rfl
      rw [hbits, Nat.testBit_or, Bool.or_eq_true, Nat.testBit_two_pow, decide_eq_true_eq, ih,
        List.mem_cons, eq_comm]

theorem CodeRow.mem_codes {row : CodeRow} {code : Nat} (h : row.contains code = true) :
    code ∈ row.codes := by
  simp only [contains, Bool.and_eq_true, decide_eq_true_eq, beq_iff_eq] at h
  rcases h with ⟨⟨hlower, hupper⟩, hstep⟩
  refine List.mem_map.2 ⟨(code - row.first) / row.step, List.mem_range.2 ?_, ?_⟩
  · exact Nat.lt_succ_of_le (Nat.div_le_div_right (Nat.sub_le_sub_right hupper _))
  · have hwhole := Nat.div_add_mod (code - row.first) row.step
    rw [hstep, Nat.add_zero, Nat.mul_comm] at hwhole
    rw [hwhole, Nat.add_sub_cancel' hlower]

/-- What is no code point is read as the first one. -/
theorem toNat_ofNat_eq_or (code : Nat) :
    (Char.ofNat code).toNat = code ∨ (Char.ofNat code).toNat = 0 := by
  unfold Char.ofNat
  by_cases h : code.isValidChar
  · rw [dif_pos h]
    exact .inl rfl
  · rw [dif_neg h]
    exact .inr rfl

namespace CodeTable

variable {table : CodeTable} {code image : Nat} {images : List Nat}

def codes (table : CodeTable) : List Nat := table.rows.flatMap (·.codes)

def imageCodes (table : CodeTable) : List Nat :=
  table.rows.flatMap fun row => row.codes.flatMap row.imagesOf

/-- No image has images. -/
def isSettled (table : CodeTable) : Bool :=
  codeBits table.codes &&& codeBits table.imageCodes == 0

/-- In a settled table, images have no images of their own. -/
theorem images?_eq_none (h : table.isSettled = true) (himages : table.images? code = some images)
    (himage : image ∈ images) : table.images? image = none := by
  rcases Option.map_eq_some_iff.1 himages with ⟨row, hrow, rfl⟩
  have hmem : row ∈ table.rows := List.mem_of_find?_eq_some hrow
  have hcontains : row.contains code = true := by simpa using List.find?_some hrow
  have hcode : code ∈ row.codes := CodeRow.mem_codes hcontains
  have himageCode : image ∈ table.imageCodes :=
    List.mem_flatMap.2 ⟨row, hmem, List.mem_flatMap.2 ⟨code, hcode, himage⟩⟩
  refine Option.map_eq_none_iff.2 (List.find?_eq_none.2 fun other hother hfound => ?_)
  -- An image in a row of the table would be a bit that the two numbers share.
  have hbit : (codeBits table.codes &&& codeBits table.imageCodes).testBit image = true := by
    rw [Nat.testBit_and, Bool.and_eq_true, testBit_codeBits, testBit_codeBits]
    exact ⟨List.mem_flatMap.2 ⟨other, hother, CodeRow.mem_codes hfound⟩, himageCode⟩
  rw [eq_of_beq h, Nat.zero_testBit] at hbit
  cases hbit

/-- The form of a character by a table; without one it stays. -/
def formOf (table : CodeTable) (c : Char) : List Char :=
  match table.images? c.toNat with
  | some codes => charsOfCodes codes
  | none => [c]

theorem formOf_of_none {c : Char} (h : table.images? c.toNat = none) : table.formOf c = [c] := by
  rw [formOf, h]

/-- The characters of a form keep their form. -/
theorem formOf_of_mem (h : table.isSettled = true) (hzero : table.images? 0 = none) {c d : Char}
    (hc : c ∈ table.formOf d) : table.formOf c = [c] := by
  unfold formOf at hc
  split at hc
  · rename_i codes hcodes
    rcases List.mem_map.1 hc with ⟨code, hcode, rfl⟩
    refine formOf_of_none ?_
    rcases toNat_ofNat_eq_or code with hvalid | hinvalid
    · rw [hvalid]
      exact images?_eq_none h hcodes hcode
    · rw [hinvalid]
      exact hzero
  · rename_i hnone
    rw [List.mem_singleton.1 hc]
    exact formOf_of_none hnone

end CodeTable

/-- Upper case is reached in one step. -/
theorem upperTable_isSettled : upperTable.isSettled = true := by decide +kernel

/-- Lower case is reached in one step. -/
theorem lowerTable_isSettled : lowerTable.isSettled = true := by decide +kernel

/-! ## Texts -/

theorem upperChar_of_mem {c d : Char} (h : c ∈ upperChar d) : upperChar c = [c] :=
  CodeTable.formOf_of_mem upperTable_isSettled (by decide +kernel) h

theorem lowerChar_of_mem {c d : Char} (h : c ∈ lowerChar d) : lowerChar c = [c] :=
  CodeTable.formOf_of_mem lowerTable_isSettled (by decide +kernel) h

/-- A text of characters that stay is not changed. -/
theorem flatMap_eq_self {f : Char → List Char} {text : List Char} (h : ∀ c ∈ text, f c = [c]) :
    text.flatMap f = text := by
  induction text with
  | nil => rfl
  | cons c rest ih =>
      have hrest : rest.flatMap f = rest := ih fun d hd => h d (List.mem_cons_of_mem _ hd)
      rw [List.flatMap_cons, h c List.mem_cons_self, hrest]
      rfl

/-- Upper case is settled. -/
theorem upper_upper (text : String) : upper (upper text) = upper text := by
  unfold upper
  rw [String.toList_ofList]
  refine congrArg String.ofList (flatMap_eq_self fun c hc => ?_)
  rcases List.mem_flatMap.1 hc with ⟨d, _, hd⟩
  exact upperChar_of_mem hd

/-- The final sigma is a small letter, and a capital one is not left. -/
theorem lowerChar_of_mem_lowerAfter {before text : List Char} {c : Char}
    (h : c ∈ lowerAfter before text) : lowerChar c = [c] := by
  induction text generalizing before with
  | nil => cases h
  | cons d rest ih =>
      rw [lowerAfter] at h
      rcases List.mem_append.1 h with hfirst | hrest
      · split at hfirst
        · rw [List.mem_singleton.1 hfirst]
          decide +kernel
        · exact lowerChar_of_mem hfirst
      · exact ih hrest

theorem lowerAfter_eq_self {before text : List Char} (h : ∀ c ∈ text, lowerChar c = [c]) :
    lowerAfter before text = text := by
  induction text generalizing before with
  | nil => rfl
  | cons c rest ih =>
      have hsigma : ¬ c = capitalSigma := by
        rintro rfl
        exact absurd (h _ List.mem_cons_self) (by decide +kernel)
      have hrest : lowerAfter (c :: before) rest = rest :=
        ih fun d hd => h d (List.mem_cons_of_mem _ hd)
      simp [lowerAfter, hsigma, h c List.mem_cons_self, hrest]

/-- Lower case is settled, whatever becomes of a final sigma. -/
theorem lower_lower (text : String) : lower (lower text) = lower text := by
  unfold lower
  rw [String.toList_ofList]
  exact congrArg String.ofList (lowerAfter_eq_self fun c hc => lowerChar_of_mem_lowerAfter hc)

/-- A character that stays is still there afterwards. -/
theorem mem_lowerAfter {before text : List Char} {c : Char} (h : lowerChar c = [c])
    (hc : c ∈ text) : c ∈ lowerAfter before text := by
  have hsigma : ¬ c = capitalSigma := by
    rintro rfl
    exact absurd h (by decide +kernel)
  induction text generalizing before with
  | nil => cases hc
  | cons d rest ih =>
      rw [lowerAfter]
      rcases List.mem_cons.1 hc with rfl | hrest
      · simp [hsigma, h]
      · exact List.mem_append_right _ (ih hrest)

/-! ## ASCII -/

/-- What is true of all ASCII characters is seen by going through them. -/
theorem ascii_forall {p : Char → Prop} (h : ∀ code < 0x80, p (Char.ofNat code)) {c : Char}
    (hc : c.toNat < 0x80) : p c := by
  rw [← Char.ofNat_toNat c]
  exact h c.toNat hc

theorem lowerChar_ascii {c : Char} (hc : c.toNat < 0x80) : lowerChar c = [c.toLower] :=
  ascii_forall (p := fun c => lowerChar c = [c.toLower]) (by decide +kernel) hc

/-- ASCII texts are lowered character by character. -/
theorem lowerAfter_ascii {before text : List Char} (h : ∀ c ∈ text, c.toNat < 0x80) :
    lowerAfter before text = text.map Char.toLower := by
  induction text generalizing before with
  | nil => rfl
  | cons c rest ih =>
      have hc : c.toNat < 0x80 := h c List.mem_cons_self
      have hsigma : ¬ c = capitalSigma := by
        rintro rfl
        exact absurd hc (by decide)
      have hrest : lowerAfter (c :: before) rest = rest.map Char.toLower :=
        ih fun d hd => h d (List.mem_cons_of_mem _ hd)
      simp [lowerAfter, hsigma, lowerChar_ascii hc, hrest]

end Assay.Text
