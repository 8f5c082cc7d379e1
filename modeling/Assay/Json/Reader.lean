import Assay.Json

/-!
# JSON reader — documents from text

The reader is strict: one document between blanks, no trailing commas, no lone surrogates, at most
127 nested containers.  Members of an object are put in ascending order, and of a repeated name the
last one stays.

Integers that 64 bits do not hold become floats.  A float is read from the digits that fit 64 bits:
they are rounded to a float first, and that float is scaled by a power of ten.  A number too large
for a float is refused.
-/

namespace Assay.Json

def isSpace (c : Char) : Bool := c == ' ' || c == '\t' || c == '\n' || c == '\r'

def skipSpace (text : List Char) : List Char := text.dropWhile isSpace

/-! ## Numbers -/

/-- Digits taken as long as their number fits 64 bits. -/
structure Significand where
  value : Nat
  /-- The power of ten that the digits still need. -/
  shift : Int

namespace Significand

def admits (s : Significand) (digit : Nat) : Bool := s.value * 10 + digit < 2 ^ 64

/-- Takes digits of the whole part: those that no longer fit shift the others. -/
def takeWhole (s : Significand) : List Char → Significand
  | [] => s
  | c :: rest =>
    let digit := c.toNat - '0'.toNat
    if s.shift = 0 ∧ s.admits digit then takeWhole ⟨s.value * 10 + digit, 0⟩ rest
    else ⟨s.value, (rest.length : Int) + 1⟩

/-- Takes digits of the fraction: those that no longer fit are dropped. -/
def takeFraction (s : Significand) : List Char → Significand
  | [] => s
  | c :: rest =>
    let digit := c.toNat - '0'.toNat
    if s.admits digit then takeFraction ⟨s.value * 10 + digit, s.shift - 1⟩ rest else s

end Significand

/-- Divides by `10 ^ 308` until the rest of a negative power of ten is within the table of powers
or the number has vanished. -/
def scaleDown : Nat → Binary64 → Nat → Binary64
  | 0, x, _ => x
  | steps + 1, x, power =>
    if power ≤ 308 then x.div (.powTen power)
    else if x.isNonzero then scaleDown steps (x.div (.powTen 308)) (power - 308)
    else x

/-- The significand as a float, scaled.  Nothing if it is too large. -/
def scaled? (significand : Nat) (exponent : Int) : Option Binary64 :=
  let x := Binary64.ofNat significand
  if exponent < 0 then some (scaleDown 4 x (-exponent).toNat)
  else if 308 < exponent then (if x.isNonzero then none else some x)
  else
    let product := x.mul (.powTen exponent.toNat)
    if product.isFinite then some product else none

/-- Exponents are at most this large; beyond it a number is zero or too large. -/
def exponentLimit : Nat := 2 ^ 31 - 1

/-- The float of a significand and the written exponent. -/
def floatOf? (s : Significand) (exponent : Option (Bool × List Char)) : Option Binary64 :=
  match exponent with
  | none => scaled? s.value s.shift
  | some (negative, digits) =>
    let written := Numeral.digitsValue digits
    if exponentLimit < written then
      if s.value ≠ 0 ∧ !negative then none else some .zero
    else scaled? s.value (s.shift + Numeral.signed negative written)

def readNumber? (text : List Char) : Option (Number × List Char) := do
  let (negative, unsigned) := match text with
    | '-' :: rest => (true, rest)
    | _ => (false, text)
  let whole := unsigned.takeWhile isAsciiDigit
  if whole.isEmpty || (whole.head? == some '0' && whole.length != 1) then none
  else
    let rest := unsigned.dropWhile isAsciiDigit
    let (fraction, rest) ← match rest with
      | '.' :: after =>
        match after.takeWhile isAsciiDigit with
        | [] => none
        | digits => some (some digits, after.dropWhile isAsciiDigit)
      | _ => some (none, rest)
    let (exponent, rest) ← match rest with
      | c :: _ =>
        if c = 'e' ∨ c = 'E' then
          match Numeral.scanExponent isAsciiDigit rest with
          | (none, _) => none
          | scanned => some scanned
        else some (none, rest)
      | [] => some (none, rest)
    let s := Significand.takeWhole ⟨0, 0⟩ whole
    let integer? : Option Int64 :=
      if fraction.isSome || exponent.isSome || s.shift != 0 || (negative && s.value == 0) then none
      else int64? (Numeral.signed negative s.value)
    match integer? with
    | some i => some (.int i, rest)
    | none =>
      let x ← floatOf? (s.takeFraction (fraction.getD [])) exponent
      some (.float (if negative then x.neg else x), rest)

/-! ## Strings -/

def readHex4? : List Char → Option (Nat × List Char)
  | a :: b :: c :: d :: rest => do
    let a ← hexDigit? a
    let b ← hexDigit? b
    let c ← hexDigit? c
    let d ← hexDigit? d
    some (((a * 16 + b) * 16 + c) * 16 + d, rest)
  | _ => none

/-- Takes the rest of an escape that begins with `u`; a surrogate needs its partner. -/
def readCodePoint? (text : List Char) : Option (Char × List Char) := do
  let (high, rest) ← readHex4? text
  if high < 0xD800 ∨ 0xE000 ≤ high then some (Char.ofNat high, rest)
  else if 0xDC00 ≤ high then none
  else
    match rest with
    | '\\' :: 'u' :: rest =>
      let (low, rest) ← readHex4? rest
      if 0xDC00 ≤ low ∧ low < 0xE000 then
        some (Char.ofNat (0x10000 + (high - 0xD800) * 0x400 + (low - 0xDC00)), rest)
      else none
    | _ => none

/-- What a letter after a backslash stands for. -/
def escaped? : Char → Option Char
  | '"' => some '"'
  | '\\' => some '\\'
  | '/' => some '/'
  | 'b' => some '\x08'
  | 'f' => some '\x0c'
  | 'n' => some '\n'
  | 'r' => some '\r'
  | 't' => some '\t'
  | _ => none

/-- Takes the rest of a string up to its closing quote, given what came before in reverse.  Each
step takes a character or more. -/
def readStringFrom? : Nat → List Char → List Char → Option (String × List Char)
  | 0, _, _ => none
  | _ + 1, _, [] => none
  | steps + 1, done, c :: rest =>
    if c = '"' then some (String.ofList done.reverse, rest)
    else if c = '\\' then
      match rest with
      | [] => none
      | 'u' :: rest => do
        let (d, rest) ← readCodePoint? rest
        readStringFrom? steps (d :: done) rest
      | e :: rest => do
        let d ← escaped? e
        readStringFrom? steps (d :: done) rest
    else if c < ' ' then none
    else readStringFrom? steps (c :: done) rest

/-- Takes the rest of a string up to its closing quote. -/
def readString? (text : List Char) : Option (String × List Char) :=
  readStringFrom? (text.length + 1) [] text

/-! ## Documents -/

def depthLimit : Nat := 127

/-- Takes a word that stands for a document. -/
def readWord? (word : String) (document : Json) (text : List Char) : Option (Json × List Char) :=
  if word.toList.isPrefixOf text then some (document, text.drop word.length) else none

mutual

/-- Takes a document, within so many containers.  Two steps are enough for each character. -/
def readDocument? : Nat → Nat → List Char → Option (Json × List Char)
  | 0, _, _ => none
  | steps + 1, depth, text =>
    match skipSpace text with
    | [] => none
    | '"' :: rest => do
      let (s, rest) ← readString? rest
      some (.string s, rest)
    | '[' :: rest =>
      match depth with
      | 0 => none
      | depth + 1 =>
        match skipSpace rest with
        | ']' :: rest => some (.array [], rest)
        | _ => do
          let (items, rest) ← readItems? steps depth rest
          some (.array items, rest)
    | '\x7b' :: rest =>
      match depth with
      | 0 => none
      | depth + 1 =>
        match skipSpace rest with
        | '\x7d' :: rest => some (.object [], rest)
        | _ => do
          let (members, rest) ← readMembers? steps depth rest
          some (.object (Entries.sortedOfPairs members), rest)
    | 'n' :: rest => readWord? "null" .null ('n' :: rest)
    | 't' :: rest => readWord? "true" (.bool true) ('t' :: rest)
    | 'f' :: rest => readWord? "false" (.bool false) ('f' :: rest)
    | text => do
      let (n, rest) ← readNumber? text
      some (.number n, rest)

/-- Takes the items of an array that is not empty, and its end. -/
def readItems? : Nat → Nat → List Char → Option (List Json × List Char)
  | 0, _, _ => none
  | steps + 1, depth, text => do
    let (item, rest) ← readDocument? steps depth text
    match skipSpace rest with
    | ',' :: rest =>
      let (items, rest) ← readItems? steps depth rest
      some (item :: items, rest)
    | ']' :: rest => some ([item], rest)
    | _ => none

/-- Takes the members of an object that is not empty, and its end. -/
def readMembers? : Nat → Nat → List Char → Option (List (String × Json) × List Char)
  | 0, _, _ => none
  | steps + 1, depth, text =>
    match skipSpace text with
    | '"' :: rest => do
      let (name, rest) ← readString? rest
      match skipSpace rest with
      | ':' :: rest =>
        let (member, rest) ← readDocument? steps depth rest
        match skipSpace rest with
        | ',' :: rest =>
          let (members, rest) ← readMembers? steps depth rest
          some ((name, member) :: members, rest)
        | '\x7d' :: rest => some ([(name, member)], rest)
        | _ => none
      | _ => none
    | _ => none

end

def parse? (text : String) : Option Json :=
  match readDocument? (2 * text.length + 2) depthLimit text.toList with
  | some (document, rest) => if (skipSpace rest).isEmpty then some document else none
  | none => none

end Assay.Json
