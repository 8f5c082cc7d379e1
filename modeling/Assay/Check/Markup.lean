import Assay.Text.Case

/-!
# Markup — tags and special characters of HTML

* `stripTags` drops comments, declarations and all tags but the allowed ones;
* `escapeMarkup` writes the characters that markup is made of as references.
-/

namespace Assay.Check

/-- Characters of the name of a tag after its first letter. -/
def isTagNameChar (c : Char) : Bool := c.isAlphanum || c == ':' || c == '-'

def afterClosing? (text : List Char) : Option (List Char) :=
  match text.dropWhile (· != '>') with
  | '>' :: rest => some rest
  | _ => none

def afterComment? : List Char → Option (List Char)
  | '-' :: '-' :: '>' :: rest => some rest
  | _ :: rest => afterComment? rest
  | [] => none

/-- A piece of markup: a tag has a name. -/
structure MarkupPiece where
  name : Option (List Char)
  rest : List Char

/-- Takes a tag, once its less-than sign is taken. -/
def readTag? (text : List Char) : Option MarkupPiece :=
  let named := match text with
    | '/' :: rest => rest
    | _ => text
  match named with
  | [] => none
  | first :: others =>
    if first.isAlpha then
      (afterClosing? others).map fun rest => ⟨some (first :: others.takeWhile isTagNameChar), rest⟩
    else none

def readDeclaration? : List Char → Option MarkupPiece
  | '!' :: rest | '?' :: rest => (afterClosing? rest).map fun rest => ⟨none, rest⟩
  | _ => none

def readComment? : List Char → Option MarkupPiece
  | '!' :: '-' :: '-' :: rest => (afterComment? rest).map fun rest => ⟨none, rest⟩
  | _ => none

/-- Takes markup, once its less-than sign is taken. -/
def readMarkup? (text : List Char) : Option MarkupPiece :=
  (readComment? text).or ((readTag? text).or (readDeclaration? text))

def isAllowed (allowed : List String) (piece : MarkupPiece) : Bool :=
  piece.name.any fun name => allowed.contains (Text.lower (String.ofList name))

/-- Drops markup that may not stay.  Each step takes a character or more. -/
def dropMarkup (allowed : List String) : Nat → List Char → List Char
  | 0, text => text
  | _ + 1, [] => []
  | steps + 1, c :: rest =>
    if c = '<' then
      match readMarkup? rest with
      | some piece =>
        let kept := if isAllowed allowed piece then
          c :: rest.take (rest.length - piece.rest.length) else []
        kept ++ dropMarkup allowed steps piece.rest
      | none => c :: dropMarkup allowed steps rest
    else c :: dropMarkup allowed steps rest

def stripTags (allowed : List String) (text : String) : String :=
  String.ofList (dropMarkup allowed text.length text.toList)

/-- How a character is written where markup is read; `full` writes also all that is not ASCII as
references. -/
def escapeChar (full : Bool) (c : Char) : List Char :=
  if c = '&' then "&amp;".toList
  else if c = '<' then "&lt;".toList
  else if c = '>' then "&gt;".toList
  else if c = '"' then "&quot;".toList
  else if c = '\'' then "&#039;".toList
  else if full ∧ 0x80 ≤ c.toNat then '&' :: '#' :: (Nat.toDigits 10 c.toNat ++ [';'])
  else [c]

def escapeMarkup (full : Bool) (text : String) : String :=
  String.ofList (text.toList.flatMap (escapeChar full))

end Assay.Check
