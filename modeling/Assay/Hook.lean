import Assay.Condition
import Assay.Entity
import Assay.Rule

/-!
# Hooks — answers to filters that have no meaning of their own

A registry keeps hooks by the names of filters.  The hooks of a name are asked in the order in
which they were registered until one answers.  A hook is told when it is registered, asked and
removed; what it is told is an event.

A hook belongs to the host and may go through the checker that asks it: it may have values checked
there, and so come to the normalizer and to the store of entities, and change the store.
-/

namespace Assay

/-- An answer by nothing but the value, the arguments of the filter and the rule that it stands
in. -/
abbrev Hook.Answer := Value → List Value → Rule → Option Outcome

/-- An answer that may also depend on the normalizer of the checker, and on the store, which it may
change. -/
abbrev Hook.Action :=
  Value → List Value → Rule → Option Normalizer → StateM (Option EntityStore) (Option Outcome)

/-- Answers without coming to the normalizer or the store. -/
def Hook.Answer.action (answer : Hook.Answer) : Hook.Action := fun value arguments rule _ =>
  pure (answer value arguments rule)

instance : Coe Hook.Answer Hook.Action := ⟨Hook.Answer.action⟩

/-- Something that can answer for a filter. -/
structure Hook where
  /-- A hook with a label leaves a line for its events. -/
  label : Option String
  /-- It leaves lines only where it is asked. -/
  onlyCalls : Bool
  answer : Hook.Action

inductive HookStage where
  | registered
  | call
  | shutdown
  deriving DecidableEq

/-- A hook with the serial number of its registration. -/
structure Registration where
  serial : Nat
  hook : Hook

structure HookEvent where
  stage : HookStage
  registration : Registration

structure HookRegistry where
  /-- The registered hooks of each name; none of the lists is empty. -/
  slots : List (String × List Registration)
  /-- The serial number of the next registration. -/
  nextSerial : Nat

namespace HookRegistry

def empty : HookRegistry := ⟨[], 0⟩

def names (registry : HookRegistry) : List String := Entries.keys registry.slots

def registrations (registry : HookRegistry) : List Registration :=
  registry.slots.flatMap (·.2)

def size (registry : HookRegistry) : Nat := registry.registrations.length

def isEmpty (registry : HookRegistry) : Bool := registry.size == 0

def contains (registry : HookRegistry) (name : String) : Bool :=
  (registry.slots.lookup name).isSome

def hooksOf (registry : HookRegistry) (name : String) : List Registration :=
  (registry.slots.lookup name).getD []

/-- Adds a hook, which is told so. -/
def register (registry : HookRegistry) (name : String) (hook : Hook) :
    HookRegistry × List HookEvent :=
  let registration : Registration := ⟨registry.nextSerial, hook⟩
  (⟨Entries.alter name [] (· ++ [registration]) registry.slots, registry.nextSerial + 1⟩,
    [⟨.registered, registration⟩])

/-- Removes the hooks of a name, which are told so, and counts them. -/
def unregister (registry : HookRegistry) (name : String) :
    Nat × HookRegistry × List HookEvent :=
  let removed := registry.hooksOf name
  (removed.length, { registry with slots := Entries.remove name registry.slots },
    removed.map fun registration => ⟨.shutdown, registration⟩)

def shutdown (registry : HookRegistry) : HookRegistry × List HookEvent :=
  ({ registry with slots := [] },
    registry.registrations.map fun registration => ⟨.shutdown, registration⟩)

/-- Asks hooks in turn until one answers.  Each of them finds the store as the one before it left
it. -/
def ask (value : Value) (arguments : List Value) (rule : Rule) (normalizer : Option Normalizer) :
    List Registration → StateM (Option EntityStore) (Option Outcome × List HookEvent)
  | [] => pure (none, [])
  | registration :: rest => do
    let event : HookEvent := ⟨.call, registration⟩
    match ← registration.hook.answer value arguments rule normalizer with
    | some outcome => pure (some outcome, [event])
    | none =>
      let (outcome, events) ← ask value arguments rule normalizer rest
      pure (outcome, event :: events)

/-- A hook is asked before the hooks behind it, which are given what it settled on. -/
theorem ask_cons (value : Value) (arguments : List Value) (rule : Rule)
    (normalizer : Option Normalizer) (registration : Registration) (rest : List Registration)
    (store : Option EntityStore) :
    ask value arguments rule normalizer (registration :: rest) store =
      match registration.hook.answer value arguments rule normalizer store with
      | (some outcome, left) => ((some outcome, [⟨.call, registration⟩]), left)
      | (none, left) =>
        let later := ask value arguments rule normalizer rest left
        ((later.1.1, ⟨.call, registration⟩ :: later.1.2), later.2) := by
  simp only [ask, bind, StateT.bind]
  cases registration.hook.answer value arguments rule normalizer store with
  | mk answer left => cases answer <;> rfl

/-- Asks the hooks of a name on behalf of a checker. -/
def consult (registry : HookRegistry) (name : String) (value : Value) (arguments : List Value)
    (rule : Rule) (normalizer : Option Normalizer) :
    StateM (Option EntityStore) (Option Outcome × List HookEvent) :=
  ask value arguments rule normalizer (registry.hooksOf name)

/-- The answer of the hooks of a name, and whom it takes to get it, where the hooks come to such a
normalizer and store, if to any. -/
def invoke (registry : HookRegistry) (name : String) (value : Value) (arguments : List Value)
    (rule : Rule) (normalizer : Option Normalizer := none) (store : Option EntityStore := none) :
    Option Outcome × List HookEvent :=
  (registry.consult name value arguments rule normalizer store).1

end HookRegistry

end Assay
