import Assay.Json.Reader
import Assay.Value

/-!
# Entities — references and the store that resolves them

A reference names a record by its URI, by an identifier, or as a new record made from a prototype.
Input gives it as a text, an integer, a map, or the JSON text of a map.

The store keeps its records in the order in which their URIs first came.  Resolving a reference may
make a record, so that it returns the store that it leaves.
-/

namespace Assay

inductive EntityRef where
  | uri (uri : String)
  | id (id : String)
  | derive (proto : String) (parent : Option String)
  deriving DecidableEq

namespace EntityRef

/-- The text of a field of a descriptor. -/
def field? (descriptor : Value) (key : String) : Option String :=
  (descriptor.member? key).bind Value.text?

/-- The reference of a descriptor: by its identifier, else its URI, else its prototype. -/
def ofDescriptor? (descriptor : Value) : Option EntityRef :=
  match field? descriptor "id" with
  | some i => some (.id i)
  | none =>
    match field? descriptor "uri" with
    | some u => some (.uri u)
    | none =>
      (field? descriptor "proto").map fun proto => .derive proto (field? descriptor "parent")

/-- The reference of a value.  A text that opens a brace is a descriptor in JSON. -/
def ofValue? : Value → Option EntityRef
  | .str s =>
    if s.toList.head? = some '\x7b' then
      (Json.parse? s).bind fun document => ofDescriptor? (Value.ofJson document)
    else some (.uri s)
  | .int i => some (.id (toString i.toInt))
  | .map entries => ofDescriptor? (.map entries)
  | _ => none

end EntityRef

namespace Entity

def meets (entity : Entity) (condition : Value) : Bool :=
  match (condition.member? "owner").bind Value.str? with
  | some owner => owner == entity.owner
  | none => true

end Entity

structure EntityStore where
  /-- Records by their URIs. -/
  records : List (String × Entity)
  /-- How many records were made from prototypes. -/
  derived : Nat
  /-- The serial number of the next record. -/
  nextSerial : Nat

namespace EntityStore

def empty : EntityStore := ⟨[], 0, 0⟩

/-- Adds a record, in the place of the one with its URI if there is one. -/
def insert (store : EntityStore) (uri owner : String) (readable : Bool) : Entity × EntityStore :=
  let entity : Entity := ⟨.stored store.nextSerial, uri, owner, readable⟩
  (entity, { store with
    records := Entries.put uri entity store.records, nextSerial := store.nextSerial + 1 })

/-- The URI of the next record made from a prototype. -/
def derivedUri (store : EntityStore) (parent : Option String) : String :=
  parent.getD "" ++ "/new" ++ toString (store.derived + 1)

/-- Looks up a record, or makes one from a prototype. -/
def resolve (store : EntityStore) : EntityRef → Option Entity × EntityStore
  | .uri u => (store.records.lookup u, store)
  | .id i =>
    (((Value.indexOfKey? i).bind (store.records[·]?)).map (·.2), store)
  | .derive proto parent =>
    match store.records.lookup proto with
    | none => (none, store)
    | some record =>
      let (entity, store') := { store with derived := store.derived + 1 }.insert
        (store.derivedUri parent) record.owner true
      (some entity, store')

end EntityStore

end Assay
