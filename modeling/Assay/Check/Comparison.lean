import Assay.Check.Coercion

/-!
# Comparisons — equality and membership

A value that must equal a target is replaced by it; one that is not allowed becomes null.
-/

namespace Assay.Check

def equal (strict : Bool) (a b : Value) : Bool := if strict then a.strictEq b else a.looseEq b

def eq (target : Value) (strict : Bool) (value : Value) : Outcome :=
  if equal strict value target then .ok value
  else .fail target ((faultOf .eq "Must equal %s").withArgument target.display)

def not (target : Value) (strict : Bool) (value : Value) : Outcome :=
  if equal strict value target then
    .fail .null ((faultOf .not "Must not equal %s").withArgument target.display)
  else .ok value

def oneOf (allowed : List Value) (value : Value) : Outcome :=
  if Value.looseContains allowed value then .ok value
  else .fail .null (faultOf .oneOf "Value is not in the allowed list")

def noneOf (rejected : List Value) (value : Value) : Outcome :=
  if Value.looseContains rejected value then
    .fail .null (faultOf .noneOf "Value is in the forbidden list")
  else .ok value

end Assay.Check
