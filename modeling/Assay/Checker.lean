import Assay.Check.Bound
import Assay.Check.Cleaning
import Assay.Check.Comparison
import Assay.Check.Format
import Assay.Check.Host
import Assay.Hook
import Assay.Members
import Assay.Settings

/-!
# Checker — applying a rule to a value

The filters of a rule are applied in order, each to the value that the one before it left.  A fault
stops the rule, unless its code is ignored; then the rule's default takes the place of the value.

Two filters call back into the checker.  `any` tries alternatives on the same value at the same
depth.  `arrays` checks the members of a container one level deeper: it is given the step that
does so, or none at the greatest depth.  Thus a rule is applied by recursion on the rule, and
containers by recursion on the depth that is left.

* `Checker.runWith` applies a rule, given the step to the next level;
* `Checker.run` applies it with so many levels left;
* `Checker.check` is `run` with as many levels as the settings allow.
-/

namespace Assay

/-- What checks may change: the store of entities, and what happened to hooks. -/
structure World where
  store : Option EntityStore
  journal : List HookEvent

/-- The interpreter of rules with its collaborators. -/
structure Checker where
  settings : Settings
  registry : HookRegistry
  normalizer : Option Normalizer

namespace Checker

/-- A check that may change the world. -/
abbrev Check := StateM World Outcome

/-- How a member is checked at the next level. -/
abbrev Step := Rule → Value → Check

/-! ## Filters -/

/-- Asks the hooks of a name; without an answer the value passes. -/
def checkCustom (checker : Checker) (name : String) (arguments : List Value) (whole : Rule)
    (value : Value) : Check := fun world =>
  let ((answer, events), store) :=
    checker.registry.consult name value arguments whole checker.normalizer world.store
  (answer.getD (.ok value), ⟨store, world.journal ++ events⟩)

def checkEntity (condition : Option Value) (value : Value) : Check := fun world =>
  let (outcome, store) := Check.entity condition world.store value
  (outcome, { world with store := store })

/-- Applies a filter that does not look at the world, nor call back into the checker. -/
def applyPlain (checker : Checker) (filter : Filter Rule) (value : Value) : Outcome :=
  match filter with
  | .bool => Check.bool value
  | .int => Check.int checker.settings.intBound value
  | .double => Check.double value
  | .string => Check.string value
  | .scalar => Check.scalar value
  | .null => Check.null value
  | .object className => Check.object className value
  | .values => Check.values value
  | .condition => Check.condition checker.normalizer value
  | .max bound => Check.max bound value
  | .min bound => Check.min bound value
  | .less bound => Check.less bound value
  | .more bound => Check.more bound value
  | .eq target strict => Check.eq target strict value
  | .not target strict => Check.not target strict value
  | .oneOf allowed => Check.oneOf allowed value
  | .noneOf rejected => Check.noneOf rejected value
  | .trim => Check.trim value
  | .escape full => Check.escape full value
  | .stripTags allowed => Check.stripped allowed value
  | .lowercase => Check.lowercase value
  | .uppercase => Check.uppercase value
  | .color => Check.color value
  | .email => Check.email value
  | .url => Check.url value
  | .ip => Check.ip value
  | .uri => Check.uri value
  | .regexp patterns => Check.regexp patterns value
  | .ospatterns patterns => Check.ospatterns patterns value
  | .arrays _ | .any _ | .entity _ | .custom .. => .ok value

/-! ## Rules -/

/-- What a rule makes of the outcome of its filters: its default takes the place of a fault. -/
def withDefault (default : Option Value) (outcome : Outcome) : Outcome :=
  match outcome.fault, default with
  | some _, some value => .ok value
  | _, _ => outcome

/-- The rule goes on after an outcome: there is no fault, or its code is ignored. -/
def continues (whole : Rule) (outcome : Outcome) : Bool :=
  outcome.fault.all fun fault => fault.code.any whole.ignores

variable (checker : Checker) (step : Option Step)

mutual

/-- Applies a rule, given the step to the next level. -/
def runWith (rule : Rule) (value : Value) : Check :=
  match rule with
  | ⟨filters, required, forbidden, default, ignored⟩ => do
    let outcome ← applyAll ⟨filters, required, forbidden, default, ignored⟩ filters value
    pure (withDefault default outcome)
  termination_by structural rule

/-- Applies filters in order, as long as the rule goes on. -/
def applyAll (whole : Rule) (filters : List (Filter Rule)) (value : Value) : Check :=
  match filters with
  | [] => pure (.ok value)
  | filter :: rest => do
    let outcome ← apply whole filter value
    if continues whole outcome then applyAll whole rest outcome.value else pure outcome
  termination_by structural filters

def apply (whole : Rule) (filter : Filter Rule) (value : Value) : Check :=
  match filter with
  | .any alternatives => firstAccepted (.ok value) alternatives value
  | .arrays shape => checkContainer step shape whole value
  | .entity condition => checkEntity condition value
  | .custom name arguments => checkCustom checker name arguments whole value
  | plain => pure (checker.applyPlain plain value)
  termination_by structural filter

/-- The outcome of the first alternative without a fault, else that of the last one. -/
def firstAccepted (last : Outcome) (alternatives : List Rule) (value : Value) : Check :=
  match alternatives with
  | [] => pure last
  | rule :: rest => do
    let outcome ← runWith rule value
    if outcome.isOk then pure outcome else firstAccepted outcome rest value
  termination_by structural alternatives

end

/-- Applies a rule with so many levels left. -/
def run (checker : Checker) : Nat → Rule → Value → Check
  | 0 => runWith checker none
  | levels + 1 => runWith checker (some (run checker levels))

def check (checker : Checker) (value : Value) (rule : Rule) : Check :=
  checker.run checker.settings.maxDepth rule value

/-- Checks a value by a rule, if there is one. -/
def filter (checker : Checker) (value : Value) : Option Rule → Check
  | some rule => checker.check value rule
  | none => pure (.ok value)

/-! ## On demand -/

/-- Checks the member at a key.  A member that is not there is checked as null. -/
def checkMember (checker : Checker) (value : Value) (key : String) (rule : Rule) : Check :=
  checker.check ((value.member? key).getD .null) rule

def checkContents (checker : Checker) (value : Value) (rule : Rule) : Check :=
  checker.check value.contents rule

end Checker

end Assay
