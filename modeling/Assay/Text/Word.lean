import Assay.Text.Category

/-!
# Words — digits and the characters that words are made of

Both classes are unions of general categories.

* `isDecimalDigit` is a decimal digit of any script;
* `isWordChar` is a letter, mark, digit or connecting punctuation, or one of the joiners.
-/

namespace Assay.Text

def isDecimalDigit (c : Char) : Bool :=
  Category.digitTable.contains c.toNat

/-- Letters that the standard classes as symbols: circled and squared ones. -/
def letterLikeSymbols : CodeTable :=
  ⟨[⟨0x24B6, 0x24E9, 1, []⟩, ⟨0x1F130, 0x1F149, 1, []⟩, ⟨0x1F150, 0x1F169, 1, []⟩,
    ⟨0x1F170, 0x1F189, 1, []⟩]⟩

/-- The two joiners, which are word characters although they are format characters. -/
def joiners : CodeTable := ⟨[⟨0x200C, 0x200D, 1, []⟩]⟩

/-- Tables whose union is the word characters. -/
def wordTables : List CodeTable :=
  [letterLikeSymbols, joiners] ++ ([.lowercaseLetter, .uppercaseLetter, .otherLetter,
    .modifierLetter, .titlecaseLetter, .letterNumber, .nonspacingMark, .spacingMark,
    .enclosingMark, .decimalNumber, .connectorPunctuation] : List Category).map Category.table

def isAsciiWordChar (c : Char) : Bool :=
  c.isAlphanum || c == '_'

/-- A character that words are made of, of any script. -/
def isWordChar (c : Char) : Bool :=
  if c.toNat < 0x80 then isAsciiWordChar c else wordTables.any (·.contains c.toNat)

end Assay.Text
