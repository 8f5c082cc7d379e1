import Assay.Toml

/-!
# TOML scalars — values that are written without quotes

Truth values, integers in four bases, floats and moments.  A single underscore may stand between
two digits.  Integers and floats that are out of range are refused.
-/

namespace Assay.Toml

/-- Digits without the underscores between them. -/
def ungroup? (digit : Char → Bool) (text : List Char) : Option (List Char) :=
  let groups := text.splitOn '_'
  if groups.all fun group => !group.isEmpty && group.all digit then some groups.flatten else none

def decimalDigits? (text : List Char) : Option (List Char) := do
  let digits ← ungroup? isAsciiDigit text
  if digits.head? = some '0' ∧ digits.length ≠ 1 then none else some digits

/-- The least and the greatest integer that is accepted. -/
def integerRange : Int × Int := (-(2 ^ 127), 2 ^ 128 - 1)

def inRange? (i : Int) : Option Toml :=
  if integerRange.1 ≤ i ∧ i ≤ integerRange.2 then some (.integer i) else none

def isDigitOf (base : Nat) (c : Char) : Bool := (hexDigit? c).any (· < base)

def valueIn (base : Nat) (digits : List Char) : Nat :=
  digits.foldl (fun n c => n * base + (hexDigit? c).getD 0) 0

def basedInteger? (base : Nat) (text : List Char) : Option Toml := do
  let digits ← ungroup? (isDigitOf base) text
  inRange? (valueIn base digits)

/-- The number of digits, a fraction and an exponent.  One of the two must be there. -/
def float? (negative : Bool) (text : List Char) : Option Toml := do
  let isMark (c : Char) := c == 'e' || c == 'E'
  let mantissa := text.takeWhile (!isMark ·)
  let whole ← decimalDigits? (mantissa.takeWhile (· != '.'))
  let fraction ← match mantissa.dropWhile (· != '.') with
    | [] => some none
    | _ :: digits => (ungroup? isAsciiDigit digits).map some
  let exponent ← match text.dropWhile (!isMark ·) with
    | [] => some none
    | _ :: rest =>
      let (negative, digits) := Numeral.scanSign rest
      (ungroup? isAsciiDigit digits).map fun digits => some (negative, digits)
  if fraction.isNone && exponent.isNone then none
  else
    let x := (Numeral.mk negative whole fraction exponent).toBinary64
    if x.isFinite then some (.float x) else none

def number? (negative : Bool) (text : List Char) : Option Toml :=
  if text = "inf".toList then some (.float (.infinity negative))
  else if text = "nan".toList then some (.float .nan)
  else match decimalDigits? text with
    | some digits => inRange? (Numeral.signed negative (Numeral.digitsValue digits))
    | none => float? negative text

def ofWord? (word : List Char) : Option Toml :=
  match word with
  | '0' :: 'x' :: digits => basedInteger? 16 digits
  | '0' :: 'o' :: digits => basedInteger? 8 digits
  | '0' :: 'b' :: digits => basedInteger? 2 digits
  | '+' :: rest => number? false rest
  | '-' :: rest => number? true rest
  | _ =>
    if word = "true".toList then some (.boolean true)
    else if word = "false".toList then some (.boolean false)
    else match Moment.parse? word with
      | some m => some (.moment m)
      | none => number? false word

def isWordChar (c : Char) : Bool :=
  c.isAlphanum || c == '+' || c == '-' || c == '_' || c == '.' || c == ':'

/-- Takes a word.  A blank between a date and a time belongs to it. -/
def takeWord (text : List Char) : List Char × List Char :=
  let word := text.takeWhile isWordChar
  let rest := text.dropWhile isWordChar
  match Moment.readDate? word, rest with
  | some (_, []), ' ' :: c :: after =>
    if c.isDigit then
      (word ++ ' ' :: (c :: after).takeWhile isWordChar, (c :: after).dropWhile isWordChar)
    else (word, rest)
  | _, _ => (word, rest)

end Assay.Toml
