/-!
# Characters — blanks and digits

Digits are those of ASCII, and blanks the white space of the Unicode standard.  There are two ways
to take blanks out of a text: at both ends (`strip`) and between words (`words`).
-/

namespace Assay

def isAsciiDigit (c : Char) : Bool := c.isDigit

def hexDigit? (c : Char) : Option Nat :=
  if c.isDigit then some (c.toNat - '0'.toNat)
  else if 'a' ≤ c ∧ c ≤ 'f' then some (c.toNat - 'a'.toNat + 10)
  else if 'A' ≤ c ∧ c ≤ 'F' then some (c.toNat - 'A'.toNat + 10)
  else none

def isHexDigit (c : Char) : Bool := (hexDigit? c).isSome

namespace Text

/-- White space of any script. -/
def isBlank (c : Char) : Bool :=
  let code := c.toNat
  (9 ≤ code && code ≤ 0xD) || code == 0x20 || code == 0x85 || code == 0xA0 || code == 0x1680
    || (0x2000 ≤ code && code ≤ 0x200A) || code == 0x2028 || code == 0x2029 || code == 0x202F
    || code == 0x205F || code == 0x3000

/-- Drops the characters of a class from both ends. -/
def stripOf (p : Char → Bool) (text : List Char) : List Char :=
  ((text.dropWhile p).reverse.dropWhile p).reverse

def strip (text : String) : String :=
  String.ofList (stripOf isBlank text.toList)

/-- The runs of other characters between the blanks. -/
def words (text : String) : List String :=
  ((text.toList.splitOnP isBlank).filter (!·.isEmpty)).map String.ofList

end Text

end Assay
