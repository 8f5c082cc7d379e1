import Assay.Text.CaseTable

/-!
# Case — lower and upper case of whole texts

A character may have a case form of several characters.  Forms do not depend on the neighbours, but
for one: a capital sigma that ends a word becomes the final small sigma.

* `lower`, `upper` change a text;
* `caseVariants` are the letters equal to a letter when case is ignored.
-/

namespace Assay.Text

def charsOfCodes (codes : List Nat) : List Char :=
  codes.map Char.ofNat

def upperChar (c : Char) : List Char :=
  match upperTable.images? c.toNat with
  | some codes => charsOfCodes codes
  | none => [c]

def lowerChar (c : Char) : List Char :=
  match lowerTable.images? c.toNat with
  | some codes => charsOfCodes codes
  | none => [c]

def isCased (c : Char) : Bool :=
  casedTable.contains c.toNat

def isCaseIgnorable (c : Char) : Bool :=
  caseIgnorableTable.contains c.toNat

/-- A cased letter comes first, once characters that may stand inside a word are passed over. -/
def meetsCased (text : List Char) : Bool :=
  ((text.dropWhile isCaseIgnorable).head?.map isCased).getD false

def capitalSigma : Char := Char.ofNat 0x3A3

/-- The small sigma that ends a word. -/
def finalSigma : Char := Char.ofNat 0x3C2

/-- Lowers a text, given what stands before it in reverse. -/
def lowerAfter (before : List Char) : List Char → List Char
  | [] => []
  | c :: rest =>
    (if c = capitalSigma && meetsCased before && !meetsCased rest then [finalSigma]
      else lowerChar c) ++ lowerAfter (c :: before) rest

def lower (text : String) : String :=
  String.ofList (lowerAfter [] text.toList)

def upper (text : String) : String :=
  String.ofList (text.toList.flatMap upperChar)

/-- The code points equal to one when case is ignored, itself first. -/
def caseVariants (code : Nat) : List Nat :=
  match foldTable.row? code with
  | some row => code :: row.imagesOf code
  | none => [code]

end Assay.Text
