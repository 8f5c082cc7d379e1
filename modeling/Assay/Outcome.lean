import Assay.Fault
import Assay.Value.Equality

/-!
# Outcomes — the result of checking one value

An outcome is a value and perhaps a fault.  The value can be used either way: where there is a
fault it is as close to what was asked for as the input allows.
-/

namespace Assay

structure Outcome where
  value : Value
  fault : Option Fault

namespace Outcome

def ok (value : Value) : Outcome := ⟨value, none⟩

def fail (value : Value) (fault : Fault) : Outcome := ⟨value, some fault⟩

def isOk (outcome : Outcome) : Bool := outcome.fault.isNone

def code? (outcome : Outcome) : Option String := outcome.fault.bind (·.code)

def toExcept (outcome : Outcome) : Except Fault Value :=
  match outcome.fault with
  | none => .ok outcome.value
  | some fault => .error fault

end Outcome

end Assay
