import Assay.Check.Coercion

/-!
# Members — checking what a container holds

A container is checked by its shape: each member by the rule for its key, or by the rule for all
others.  How a rule is applied to a member is left open, and so is what else happens on the way.

* `Value.hasMember` tells whether a member is there;
* `Checker.checkMembers` checks the members that are there and those that are missing;
* `Checker.checkContainer` makes one outcome of what becomes of the members.
-/

namespace Assay

def Value.hasMember (value : Value) (key : String) : Bool := (value.member? key).isSome

namespace Checker

/-! ## Single members -/

/-- What checking a key of a container gives: the value that is kept, and the fault. -/
structure Member where
  key : String
  kept : Option Value
  fault : Option Fault

def Member.ofOutcome (key : String) (outcome : Outcome) : Member :=
  ⟨key, some outcome.value, outcome.fault⟩

/-- The fault of a member that must not be there. -/
def forbiddenFault (key : String) : Fault :=
  (Fault.new "forbidden" "Element \"%s\" must be absent").withArgument key

/-- The fault of a member that must be there. -/
def requiredFault : Fault := .new "required" "Required element has no default value"

/-- A list, map or `values` container. -/
def isNested : Value → Bool
  | .list _ | .map _ | .values .. => true
  | _ => false

/-- The keys with rules that must be there and are not. -/
def missing (shape : Shape Rule) (keys : List String) : List (String × Rule) :=
  shape.members.filter fun (key, rule) =>
    rule.required && !rule.forbidden && !keys.contains key

section Members

variable {m : Type → Type} [Monad m] (step : Rule → Value → m Outcome) (shape : Shape Rule)
  (whole : Rule)

/-- Checks a member that has no rule of its own: by the rule for all others, and in a tree, if it
is a container that this rule does not accept, by the whole rule. -/
def checkOther (key : String) (member : Value) : m Member := do
  let first ← match shape.others with
    | some others => do
      let outcome ← step others member
      pure (Member.ofOutcome key outcome)
    | none => pure ⟨key, none, none⟩
  if shape.tree && isNested member && (shape.others.isNone || first.fault.isSome) then
    let outcome ← step whole member
    pure (Member.ofOutcome key outcome)
  else pure first

def checkPresent (key : String) (member : Value) : m Member :=
  match shape.members.lookup key with
  | some rule =>
    if rule.forbidden then pure ⟨key, none, some (forbiddenFault key)⟩
    else do
      let outcome ← step rule member
      pure (Member.ofOutcome key outcome)
  | none => checkOther step shape whole key member

/-- Checks a member that is not there but must be: null has to be accepted in its place. -/
def checkMissing (key : String) (rule : Rule) : m Member := do
  let outcome ← step rule .null
  pure ⟨key, some outcome.value, outcome.fault.map fun _ => requiredFault⟩

/-- Checks the members that are there, and then those that are missing. -/
def checkMembers (entries : List (String × Value)) : m (List Member) := do
  let present ← entries.mapM fun (key, member) => checkPresent step shape whole key member
  let absent ← (missing shape (Entries.keys entries)).mapM fun (key, rule) =>
    checkMissing step key rule
  pure (present ++ absent)

end Members

/-! ## Containers -/

def keptEntries (members : List Member) : List (String × Value) :=
  members.filterMap fun member => member.kept.map (member.key, ·)

def memberFaults (members : List Member) : List (String × Fault) :=
  members.filterMap fun member => member.fault.map (member.key, ·)

def containerFault (faults : List (String × Fault)) : Fault :=
  ⟨some Kind.arrays.name, some ⟨"Invalid array structure or member values", []⟩, faults⟩

/-- The outcome of a container, given its members and how entries make one of its kind. -/
def containerOutcome (build : List (String × Value) → Value) (members : List Member) : Outcome :=
  let value := build (keptEntries members)
  match memberFaults members with
  | [] => .ok value
  | faults => .fail value (containerFault faults)

/-- The entries of a container, under their indices in a list, and how to build one of its kind.  A
`values` container is looked into once. -/
def entries? (value : Value) :
    Option (List (String × Value) × (List (String × Value) → Value)) :=
  match value.contents with
  | .list items =>
    some ((Value.indexKeys items).zip items, fun entries => .list (entries.map (·.2)))
  | .map entries => some (entries, .map)
  | _ => none

/-- The outcome for what is no container, and for a container that is nested too deep. -/
def noContainer (template : String) : Outcome := .fail (.map []) (Check.faultOf .arrays template)

/-- Checks a container by its shape, given the step to the next level, if there is one. -/
def checkContainer {m : Type → Type} [Monad m] (step : Option (Rule → Value → m Outcome))
    (shape : Shape Rule) (whole : Rule) (value : Value) : m Outcome :=
  match entries? value with
  | none => pure (noContainer "Must be an array")
  | some (entries, build) =>
    match step with
    | none => pure (noContainer "Nesting is too deep")
    | some step => do
      let members ← checkMembers step shape whole entries
      pure (containerOutcome build members)

end Checker

end Assay
