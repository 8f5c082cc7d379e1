import Assay.Pattern.Glob

/-!
# Rule errors — why a rule cannot be made

Each error is a cause; `RuleError.message` is its wording.
-/

namespace Assay

/-- What is wrong with the arguments of a filter. -/
inductive ArgumentFlaw where
  | notAValue (kind : String)
  | notARule (kind : String)
  | unexpected (kind : String)
  | classNotText (type : String)
  | tagNotText
  | codeNotText
  | patternNotText (type : String)
  | boundNotNumeric (type : String)
  deriving DecidableEq

namespace ArgumentFlaw

def message : ArgumentFlaw → String
  | notAValue kind => "expected a value, got " ++ kind
  | notARule kind => "alternatives must be rules, got " ++ kind
  | unexpected kind => "unexpected argument " ++ kind
  | classNotText type => "class name must be a string, got " ++ type
  | tagNotText => "allowed tags must be strings"
  | codeNotText => "error codes must be strings"
  | patternNotText type => "patterns must be strings, got " ++ type
  | boundNotNumeric type => "bound must be numeric, got " ++ type

end ArgumentFlaw

inductive Arity where
  | none
  | one
  | atMostOne
  | oneOrTwo
  deriving DecidableEq

namespace Arity

def text : Arity → String
  | none => "0"
  | one => "1"
  | atMostOne => "0..=1"
  | oneOrTwo => "1..=2"

def admits : Arity → Nat → Bool
  | none, n => n == 0
  | one, n => n == 1
  | atMostOne, n => n ≤ 1
  | oneOrTwo, n => n == 1 || n == 2

end Arity

inductive RuleError where
  | invalidRegex (pattern : String)
  | invalidGlob (pattern : String) (cause : GlobError)
  | argumentCount (filter : String) (expected : Arity) (got : Nat)
  | invalidArgument (filter : String) (flaw : ArgumentFlaw)
  deriving DecidableEq

namespace RuleError

/-- The wording.  Of a malformed expression only the expression is told. -/
def message : RuleError → String
  | invalidRegex pattern => "invalid regular expression '" ++ pattern ++ "'"
  | invalidGlob pattern cause =>
    "invalid shell pattern '" ++ pattern ++ "': error parsing glob '" ++ pattern ++ "': "
      ++ cause.message
  | argumentCount filter expected got =>
    "filter '" ++ filter ++ "' expects " ++ expected.text ++ " argument(s), got " ++ toString got
  | invalidArgument filter flaw => "filter '" ++ filter ++ "': " ++ flaw.message

end RuleError

end Assay
