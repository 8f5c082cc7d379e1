import Assay.Check.Coercion
import Assay.Check.Markup
import Assay.Text.Character

/-!
# Cleaning — texts in a normal form

These checks clean a text and have a fault if that changed it.  What is no scalar passes, but for
colors.
-/

namespace Assay.Check

/-- The clean text; a fault if the value was something else. -/
def cleanedTo (clean : String) (fault : Fault) (value : Value) : Outcome :=
  if Value.looseEq (.str clean) value then .ok (.str clean) else .fail (.str clean) fault

def cleaned (clean : String → String) (fault : Fault) (value : Value) : Outcome :=
  match value.text? with
  | some s => cleanedTo (clean s) fault value
  | none => .ok value

def trim : Value → Outcome :=
  cleaned Text.strip (faultOf .trim "Has whitespace at the start or end")

/-- No special characters of HTML. -/
def escape (full : Bool) : Value → Outcome :=
  cleaned (escapeMarkup full) (faultOf .escape "Contains HTML special characters")

/-- No tags but the allowed ones. -/
def stripped (allowed : List String) : Value → Outcome :=
  cleaned (stripTags allowed) (faultOf .stripTags "Contains forbidden HTML tags")

def cased (change : String → String) (fault : Fault) : Value → Outcome
  | .str s => if change s = s then .ok (.str s) else .fail (.str (change s)) fault
  | other => .ok other

def lowercase : Value → Outcome :=
  cased Text.lower (faultOf .lowercase "Not all characters are lowercase")

def uppercase : Value → Outcome :=
  cased Text.upper (faultOf .uppercase "Not all characters are uppercase")

/-- The digits of a color without spaces and number signs around them. -/
def colorDigits (text : String) : List Char :=
  Text.stripOf (fun c => c == ' ' || c == '#') text.toList

/-- Three or six hexadecimal digits after a number sign. -/
def color (value : Value) : Outcome :=
  let digits := value.text?.elim [] colorDigits
  if value.isScalar && (digits.length == 3 || digits.length == 6) && digits.all isHexDigit then
    .ok (.str (String.ofList ('#' :: digits)))
  else .fail (.str "#000000") (faultOf .color "Invalid color code")

end Assay.Check
