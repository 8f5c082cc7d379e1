import Assay.Outcome
import Assay.Rule
import Assay.Text.Case

/-!
# Coercions — values as truth values, numbers and texts

Each check turns a value into the asked kind.  A value that cannot be turned has a fault, and the
nearest value of the kind takes its place.
-/

namespace Assay.Check

def faultOf (kind : Kind) (template : String) : Fault := .new kind.name template

/-- Drops the spaces of a text; other blanks stay. -/
def withoutSpaces (text : String) : String := String.ofList (text.toList.filter (· != ' '))

/-- Texts that are false whatever their case. -/
def isFalseText (text : String) : Bool := ["false", "", "0"].contains (Text.lower text)

/-- A truth value, from any text or number. -/
def bool : Value → Outcome
  | .bool b => .ok (.bool b)
  | .str s => .ok (.bool !isFalseText s)
  | .int i => .ok (.bool (Value.int i).truthy)
  | .float x => .ok (.bool (Value.float x).truthy)
  | other =>
    .fail (.bool other.truthy) (faultOf .bool "Must be a boolean (true/false, 1/0)")

/-- The numeral that a text is, if it is only a sign and digits. -/
def integerNumeral? (text : String) : Option Numeral :=
  let (negative, digits) := Numeral.scanSign text.toList
  if digits.isEmpty || !digits.all isAsciiDigit then none
  else some ⟨negative, digits, none, none⟩

/-- An integer strictly within the bound on either side, or a float beyond it. -/
def boundedInteger (bound : Int64) (numeral : Numeral) : Value :=
  match numeral.toInt?.bind int64? with
  | some i =>
    if -bound.toInt < i.toInt ∧ i.toInt < bound.toInt then .int i else .float numeral.toBinary64
  | none => .float numeral.toBinary64

/-- The text that an integer is read from: that of a scalar other than a truth value. -/
def integerText? : Value → Option String
  | .bool _ => none
  | value => value.text?

def spaceless : Value → Value
  | .str s => .str (withoutSpaces s)
  | other => other

/-- An integer, from a text or number that is written as one. -/
def int (bound : Int64) (value : Value) : Outcome :=
  let value := spaceless value
  match (integerText? value).bind integerNumeral? with
  | some numeral => .ok (boundedInteger bound numeral)
  | none => .fail (.int value.toInt64) (faultOf .int "Invalid integer")

/-- Takes the spaces out of a text and writes its commas as points. -/
def pointed : Value → Value
  | .str s =>
    .str (String.ofList ((withoutSpaces s).toList.map fun c => if c = ',' then '.' else c))
  | other => other

def double (value : Value) : Outcome :=
  let value := pointed value
  match value.numeric? with
  | some n => .ok (.float n.toBinary64)
  | none => .fail (.float value.toBinary64) (faultOf .double "Invalid number")

def string (value : Value) : Outcome :=
  match value.text? with
  | some s => .ok (.str s)
  | none => .fail (.str "") (faultOf .string "Must be a string")

def scalar (value : Value) : Outcome :=
  if value.isScalar then .ok value
  else .fail (.int 0) (faultOf .scalar "Must be a string, number or boolean")

def null (value : Value) : Outcome :=
  if value.isNull then .ok .null else .fail .null (faultOf .null "Must be null")

end Assay.Check
