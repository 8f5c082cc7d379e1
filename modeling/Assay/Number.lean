import Assay.Binary64.Decimal
import Assay.Integer
import Assay.Pattern.Regex

/-!
# Numbers — 64-bit integers and binary64 floats

A number stays an integer as long as it can.  `Number.parse?` reads a whole text, blanks at its
ends apart: two expressions say what it may look like, and then it is read as an integer or as a
float.  `Number.leading?` reads what stands at the beginning of a text.  Numbers are compared as
floats unless both are integers.
-/

namespace Assay

def int64? (i : Int) : Option Int64 :=
  if Int64.minValue.toInt ≤ i ∧ i ≤ Int64.maxValue.toInt then some (Int64.ofInt i) else none

inductive Number where
  | int (i : Int64)
  | float (x : Binary64)
  deriving DecidableEq

namespace Number

def toBinary64 : Number → Binary64
  | int i => .ofInt i.toInt
  | float x => x

/-- The whole part of a positive number, as the length of a text or container; zero otherwise. -/
def toLength : Number → Nat
  | int i => i.toInt.toNat
  | float x => x.toLength

/-- The sum with an integer.  A sum of integers that 64 bits do not hold becomes a float. -/
def offset (n : Number) (delta : Int64) : Number :=
  match n with
  | int i =>
    match int64? (i.toInt + delta.toInt) with
    | some sum => int sum
    | none => float ((Binary64.ofInt i.toInt).add (.ofInt delta.toInt))
  | float x => float (x.add (.ofInt delta.toInt))

/-- The order of two numbers; none when a NaN takes part. -/
def compare? : Number → Number → Option Ordering
  | int i, int j => some (compare i.toInt j.toInt)
  | m, n => Binary64.compare? m.toBinary64 n.toBinary64

/-- Equal as numbers: an integer may equal a float. -/
def numEq (m n : Number) : Bool := compare? m n == some .eq

/-- A count of 64 bits: an integer if it fits, else the nearest float. -/
def ofCount (n : Nat) : Number :=
  match int64? n with
  | some i => int i
  | none => float (.ofNat n)

/-! ## Expressions -/

/-- A numeral between blanks.  Digits are those of any script. -/
def numericExpression : String :=
  "^\\s*[+-]?(?:\\d+(?:\\.\\d*)?|\\.\\d+)(?:[eE][+-]?\\d+)?\\s*$"

/-- A sign, if there is one, and digits of any script. -/
def integerExpression : String := "^[+-]?\\d+$"

def signPattern : Regex.Pattern := .optional (.symbol (.anyOf ['+', '-']))

def digitsPattern : Regex.Pattern := .rep (.symbol .digit) 1 none

def blanksPattern : Regex.Pattern := .star (.symbol .blank)

/-- Digits with or without a fraction part, or a fraction part alone. -/
def mantissaPattern : Regex.Pattern :=
  .alt (.inRow [digitsPattern, .optional (.inRow [.symbol (.single '.'), .star (.symbol .digit)])])
    (.inRow [.symbol (.single '.'), digitsPattern])

def exponentPattern : Regex.Pattern :=
  .optional (.inRow [.symbol (.anyOf ['e', 'E']), signPattern, digitsPattern])

/-- The parts of `numericExpression` between the two ends of the text. -/
def numericItems : List Regex.Pattern :=
  [blanksPattern, signPattern, mantissaPattern, exponentPattern, blanksPattern]

def integerItems : List Regex.Pattern := [signPattern, digitsPattern]

/-- What `numericExpression` compiles to. -/
def numericRegex : Regex := .whole numericExpression numericItems

def integerRegex : Regex := .whole integerExpression integerItems

/-! ## Reading -/

/-- Reads an integer of 64 bits, with nothing around it. -/
def readInt64? (text : String) : Option Int64 :=
  match Integer.read Int64.minValue.toInt Int64.maxValue.toInt text with
  | .ok i => some (.ofInt i)
  | .error _ => none

/-- What a word stands for that is no numeral.  The case of its letters does not matter. -/
def ofWord? (negative : Bool) (word : List Char) : Option Binary64 :=
  let word := word.map Char.toLower
  if word = "inf".toList ∨ word = "infinity".toList then some (.infinity negative)
  else if word = "nan".toList then some .nan
  else none

/-- Reads a float, with nothing around it: a numeral of ASCII digits, or a word after a sign. -/
def readBinary64? (text : String) : Option Binary64 :=
  match Numeral.scan isAsciiDigit text.toList with
  | some (n, []) => some n.toBinary64
  | _ =>
    let (negative, word) := Numeral.scanSign text.toList
    ofWord? negative word

/-- Reads a text that is one numeral between blanks.  Only ASCII digits have a value. -/
def parse? (text : String) : Option Number :=
  if numericRegex.isMatch text then
    let core := Text.strip text
    match (if integerRegex.isMatch core then readInt64? core else none) with
    | some i => some (int i)
    | none => (readBinary64? core).map float
  else none

/-- The value of a numeral: an integer if it is written as one and fits. -/
def ofNumeral (n : Numeral) : Number :=
  match n.toInt?.bind int64? with
  | some i => int i
  | none => float n.toBinary64

/-- Reads the numeral at the beginning of a text.  Digits of any script are taken to belong to it,
but those of other scripts have no value. -/
def leading? (text : String) : Option Number :=
  match Numeral.scan Text.isDecimalDigit (text.toList.dropWhile Text.isBlank) with
  | some (n, _) => if n.isAscii then some (ofNumeral n) else none
  | none => none

end Number

/-- The bound below which a whole float is shown as an integer. -/
def wholeLimit : Nat := 10 ^ 15

/-- A float as text: a whole number below the limit loses its sign of zero and its fraction. -/
def Binary64.text (x : Binary64) : String :=
  match x with
  | .finite _ n _ =>
    if n % unitsPerOne = 0 ∧ n < wholeLimit * unitsPerOne then toString (x.truncate?.getD 0)
    else x.shown
  | _ => x.shown

def Number.text : Number → String
  | .int i => toString i.toInt
  | .float x => x.text

end Assay
