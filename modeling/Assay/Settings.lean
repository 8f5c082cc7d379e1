import Assay.Integer
import Assay.Text.Character
import Assay.Text.Quoted

/-!
# Settings — the limits of a checker

The limits come from code, from environment variables or from a document.  Those from outside are
validated: both have to be positive.
-/

namespace Assay

structure Settings where
  /-- How many containers may be nested. -/
  maxDepth : Nat
  /-- Integers lie strictly between this number and its opposite. -/
  intBound : Int64
  deriving DecidableEq

inductive SettingsError where
  /-- The document is malformed, or a setting has the wrong type. -/
  | malformed
  | badVariable (name value : String) (flaw : IntegerFlaw)
  | depthNotPositive
  | boundNotPositive
  deriving DecidableEq

namespace SettingsError

def message : SettingsError → String
  | malformed => "invalid configuration document"
  | badVariable name value flaw =>
    "environment variable " ++ name ++ "=" ++ Text.quoted value ++ ": " ++ flaw.message
  | depthNotPositive => "invalid max_depth: must be at least 1"
  | boundNotPositive => "invalid int_bound: must be positive"

end SettingsError

namespace Settings

def standard : Settings := ⟨64, 2147483647⟩

/-- Refuses limits that are not positive, the depth first. -/
def validate (settings : Settings) : Except SettingsError Settings :=
  if settings.maxDepth = 0 then .error .depthNotPositive
  else if settings.intBound ≤ 0 then .error .boundNotPositive
  else .ok settings

/-- Reads a variable between blanks.  One that is not set gives no number. -/
def readVariable (lookup : String → Option String) (name : String) (least greatest : Int) :
    Except SettingsError (Option Int) :=
  match lookup name with
  | none => .ok none
  | some value =>
    match Integer.read least greatest (Text.strip value) with
    | .ok i => .ok (some i)
    | .error flaw => .error (.badVariable name value flaw)

def ofVariables (lookup : String → Option String) : Except SettingsError Settings := do
  let depth ← readVariable lookup "SIFT_MAX_DEPTH" 0 (2 ^ 64 - 1)
  let bound ← readVariable lookup "SIFT_INT_BOUND" Int64.minValue.toInt Int64.maxValue.toInt
  validate ⟨depth.elim standard.maxDepth Int.toNat, bound.elim standard.intBound Int64.ofInt⟩

end Settings

end Assay
