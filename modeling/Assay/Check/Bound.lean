import Assay.Check.Coercion

/-!
# Bounds — size limits

Numbers are measured by their value, texts by their characters, lists and maps by their members;
nothing else has a size.  A number beyond its bound becomes the nearest one that is allowed, a text
or container that is too long loses its end, and one that is too short stays as it is.
-/

namespace Assay.Check

inductive Size where
  | number (n : Number)
  | characters (count : Nat)
  | members (count : Nat)
  | none

def Size.of : Value → Size
  | .int i => .number (.int i)
  | .float x => .number (.float x)
  | .str s => .characters s.length
  | .list items => .members items.length
  | .map entries => .members entries.length
  | _ => .none

/-- The order of a length and a bound, both as floats. -/
def compareLength (length : Nat) (bound : Number) : Option Ordering :=
  Binary64.compare? (.ofNat length) bound.toBinary64

def Size.compare? (size : Size) (bound : Number) : Option Ordering :=
  match size with
  | .number n => n.compare? bound
  | .characters count | .members count => compareLength count bound
  | .none => Option.none

def Size.template (size : Size) (forNumber forCharacters forMembers : String) : String :=
  match size with
  | .number _ | .none => forNumber
  | .characters _ => forCharacters
  | .members _ => forMembers

def truncated (count : Nat) : Value → Value
  | .str s => .str (String.ofList (s.toList.take count))
  | .list items => .list (items.take count)
  | .map entries => .map (entries.take count)
  | other => other

def lengthOf : Value → Nat
  | .str s => s.length
  | .list items => items.length
  | .map entries => entries.length
  | _ => 0

/-- Keeps the first characters or members; a fault only if something was cut off. -/
def shortened (count : Nat) (value : Value) (fault : Fault) : Outcome :=
  if lengthOf value ≤ count then .ok value else .fail (truncated count value) fault

def boundFault (kind : Kind) (template : String) (bound : Number) : Fault :=
  (faultOf kind template).withArgument bound.text

def max (bound : Number) (value : Value) : Outcome :=
  let size := Size.of value
  if size.compare? bound = some .gt then
    let fault := boundFault .max (size.template "Must be at most %s"
      "Must be at most %s characters" "Must have at most %s elements") bound
    match size with
    | .number _ => .fail (.ofNumber bound) fault
    | _ => shortened bound.toLength value fault
  else .ok value

def min (bound : Number) (value : Value) : Outcome :=
  let size := Size.of value
  if size.compare? bound = some .lt then
    let fault := boundFault .min (size.template "Must be at least %s"
      "Must be at least %s characters" "Must have at least %s elements") bound
    match size with
    | .number _ => .fail (.ofNumber bound) fault
    | _ => .fail value fault
  else .ok value

def less (bound : Number) (value : Value) : Outcome :=
  let size := Size.of value
  let fault := boundFault .less (size.template "Must be less than %s"
    "Must be shorter than %s characters" "Must have fewer than %s elements") bound
  match size with
  | .none => .ok value
  | .number _ =>
    if size.compare? bound = some .lt then .ok value
    else .fail (.ofNumber (bound.offset (-1))) fault
  | _ =>
    if size.compare? bound = some .lt then .ok value
    else shortened (bound.offset (-1)).toLength value fault

/-- Above the bound.  A text that must not be empty is told so. -/
def more (bound : Number) (value : Value) : Outcome :=
  let size := Size.of value
  match size with
  | .none => .ok value
  | .number _ =>
    if size.compare? bound = some .gt then .ok value
    else .fail (.ofNumber (bound.offset 1)) (boundFault .more "Must be greater than %s" bound)
  | .characters _ =>
    if size.compare? bound = some .gt then .ok value
    else if !bound.toBinary64.isNonzero then .fail value (faultOf .more "Must be filled")
    else .fail value (boundFault .more "Must be longer than %s characters" bound)
  | .members _ =>
    if size.compare? bound = some .gt then .ok value
    else .fail value (boundFault .more "Must have more than %s elements" bound)

end Assay.Check
