import Assay.Check.Coercion

/-!
# Conditions — what a search asks for

A search asks for records with certain members.  The host has a form of its own for that, and a
value is a search condition if the host can bring it into this form.
-/

namespace Assay

/-- Turns search conditions into the form of the host, and refuses all other values. -/
abbrev Normalizer := Value → Option Value

/-- The search for records with the members of a map.  Members are compared with scalars only. -/
def Condition.ofMembers? : Normalizer
  | .map members =>
    if members.all (·.2.isScalar) then some (.map [("where", .map members)]) else none
  | _ => none

def Check.condition (normalizer : Option Normalizer) (value : Value) : Outcome :=
  match normalizer.bind fun normalize => normalize value with
  | some normalized => .ok normalized
  | none => .fail .null (faultOf .condition "Not a search condition")

end Assay
