import Assay.Entries
import Assay.Number

/-!
# JSON — documents and their compact text

Objects keep their members in ascending order of their names.  `Json.text` writes a document
without blanks; characters beyond ASCII stay as they are.
-/

namespace Assay

inductive Json where
  | null
  | bool (b : Bool)
  | number (n : Number)
  | string (s : String)
  | array (items : List Json)
  | object (members : List (String × Json))

namespace Json

instance : Inhabited Json := ⟨.null⟩

/-- A digit of a hexadecimal numeral in lowercase. -/
def hexDigit (n : Nat) : Char := Nat.digitChar n

/-- How a character is written inside a string. -/
def escapeChar (c : Char) : String :=
  if c = '"' then "\\\""
  else if c = '\\' then "\\\\"
  else if c = '\x08' then "\\b"
  else if c = '\x0c' then "\\f"
  else if c = '\n' then "\\n"
  else if c = '\r' then "\\r"
  else if c = '\t' then "\\t"
  else if c < ' ' then
    String.ofList ['\\', 'u', '0', '0', hexDigit (c.toNat / 16), hexDigit (c.toNat % 16)]
  else String.singleton c

def stringText (s : String) : String :=
  "\"" ++ String.join (s.toList.map escapeChar) ++ "\""

/-- Floats have a fraction or an exponent; leading places from -5 to 15 are written without an
exponent. -/
def floatStyle : DecimalStyle := ⟨.even, fun place => -5 ≤ place && place < 16, ".0"⟩

/-- The text of a number.  Floats without digits have no JSON form but null. -/
def numberText : Number → String
  | .int i => toString i.toInt
  | .float x => if x.isFinite then x.textWith floatStyle "" "" else "null"

mutual

def text : Json → String
  | .null => "null"
  | .bool b => if b then "true" else "false"
  | .number n => numberText n
  | .string s => stringText s
  | .array items => "[" ++ ",".intercalate (itemTexts items) ++ "]"
  | .object members => "\x7b" ++ ",".intercalate (memberTexts members) ++ "\x7d"
  termination_by structural document => document

def itemTexts : List Json → List String
  | [] => []
  | item :: rest => item.text :: itemTexts rest
  termination_by structural items => items

def memberTexts : List (String × Json) → List String
  | [] => []
  | (name, member) :: rest => (stringText name ++ ":" ++ member.text) :: memberTexts rest
  termination_by structural members => members

end

end Json

end Assay
