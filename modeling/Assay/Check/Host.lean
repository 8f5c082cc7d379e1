import Assay.Check.Coercion
import Assay.Entity

/-!
# Host values — objects, containers and entities

What these checks accept belongs to the host application.  What they refuse becomes null, but for
values that are put into a container.
-/

namespace Assay.Check

/-- An object of a class, or anything with an identity where no class is asked for. -/
def isObject (className : Option String) (value : Value) : Bool :=
  match value, className with
  | .object _, none | .entity _, none | .values .., none => true
  | .object o, some name => o.isInstanceOf name
  | _, _ => false

def object (className : Option String) (value : Value) : Outcome :=
  if isObject className value then .ok value
  else .fail .null
    ((faultOf .object "Must be an object of class \"%s\"").withArgument (className.getD ""))

/-- A container; anything else is put into a new one. -/
def values : Value → Outcome
  | .values identity raw => .ok (.values identity raw)
  | other => .fail (.values none other) (faultOf .values "Must be a values container")

/-- The entity that a value is or refers to, and the store that looking it up leaves. -/
def resolved (store : Option EntityStore) (value : Value) : Option Entity × Option EntityStore :=
  match value with
  | .entity e => (some e, store)
  | _ =>
    match EntityRef.ofValue? value, store with
    | some reference, some s =>
      let (entity, s') := s.resolve reference
      (entity, some s')
    | _, _ => (none, store)

/-- The fault of an entity that was found, if there is one. -/
def entityFault? (condition : Option Value) (entity : Entity) : Option String :=
  if condition.any fun c => c.truthy && !entity.meets c then
    some "Entity does not match the condition"
  else if !entity.readable then some "Entity is not readable"
  else none

/-- An entity that meets the condition and may be read. -/
def entity (condition : Option Value) (store : Option EntityStore) (value : Value) :
    Outcome × Option EntityStore :=
  match resolved store value with
  | (none, store) => (.fail .null (faultOf .entity "Not an entity"), store)
  | (some e, store) =>
    match entityFault? condition e with
    | some template => (.fail .null (faultOf .entity template), store)
    | none => (.ok (.entity e), store)

end Assay.Check
