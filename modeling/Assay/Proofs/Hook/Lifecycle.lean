import Assay.Proofs.Hook.Grouping

/-!
# Lifecycle — hooks from registration to removal

What a registry holds, and what it tells hooks, can be read off the calls that were made on it: a
hook is live from its registration to the next call that removes its name.

* `registered calls` and `live calls` are the hooks that calls register and do not remove again;
* `HookRegistry.Holds` says that a registry holds the live hooks, by their names;
* `Tells` says whom one more call tells what, `Balanced` whom all calls have told;
* `Keeps.perform` adds a call, and `HookRegistry.lifecycle` states all of it of every sequence.
-/

namespace Assay

/-- A call on a registry. -/
inductive RegistryCall where
  | register (name : String) (hook : Hook)
  | unregister (name : String)
  | shutdown
  /-- Asks the hooks of a name, which come to such a normalizer and store. -/
  | invoke (name : String) (value : Value) (arguments : List Value) (rule : Rule)
    (normalizer : Option Normalizer) (store : Option EntityStore)

namespace HookRegistry

/-- What a call makes of a registry, and what it tells hooks. -/
def perform (registry : HookRegistry) : RegistryCall → HookRegistry × List HookEvent
  | .register name hook => registry.register name hook
  | .unregister name => (registry.unregister name).2
  | .shutdown => registry.shutdown
  | .invoke name value arguments rule normalizer store =>
    (registry, (registry.invoke name value arguments rule normalizer store).2)

/-- The registry after calls on an empty one, and all that hooks were told. -/
def after (calls : List RegistryCall) : HookRegistry × List HookEvent :=
  calls.foldl (fun (registry, journal) call =>
    let (next, events) := registry.perform call
    (next, journal ++ events)) (.empty, [])

end HookRegistry

/-! ## What the calls say -/

section Turns

variable (value : Value) (arguments : List Value) (rule : Rule) (normalizer : Option Normalizer)

/-- The hooks in turn, each with the store as it finds it if all before it have declined. -/
def turns (store : Option EntityStore) : List Registration → List (Registration × Option EntityStore)
  | [] => []
  | registration :: rest =>
    (registration, store) ::
      turns (registration.hook.answer value arguments rule normalizer store).2 rest

/-- What a hook answers in its turn. -/
def answerOf (turn : Registration × Option EntityStore) : Option Outcome :=
  (turn.1.hook.answer value arguments rule normalizer turn.2).1

/-- The hooks that decline, before the first that answers, and this one. -/
def untilAnswer (store : Option EntityStore) (hooks : List Registration) : List Registration :=
  let asked := turns value arguments rule normalizer store hooks
  let declines := fun turn => (answerOf value arguments rule normalizer turn).isNone
  (asked.takeWhile declines ++ (asked.dropWhile declines).take 1).map (·.1)

end Turns

namespace RegistryCall

/-- The call takes away the hooks of the name. -/
def removes : RegistryCall → String → Bool
  | unregister removed, name => removed == name
  | shutdown, _ => true
  | _, _ => false

/-- What the call registers, with its serial number. -/
def adds (serial : Nat) : RegistryCall → List NamedHook
  | register name hook => [(name, ⟨serial, hook⟩)]
  | _ => []

/-- Whom of the live hooks the call asks. -/
def asks (hooks : List NamedHook) : RegistryCall → List Registration
  | invoke name value arguments rule normalizer store =>
    untilAnswer value arguments rule normalizer store (hooksNamed hooks name)
  | _ => []

/-- The hooks that calls register, which are numbered from `serial`. -/
def registeredFrom (serial : Nat) : List RegistryCall → List NamedHook
  | [] => []
  | call :: later =>
    call.adds serial ++ registeredFrom (serial + (call.adds serial).length) later

/-- The hooks that calls register and no later call removes. -/
def liveFrom (serial : Nat) : List RegistryCall → List NamedHook
  | [] => []
  | call :: later =>
    (call.adds serial).filter (fun hook => !later.any (·.removes hook.1)) ++
      liveFrom (serial + (call.adds serial).length) later

/-- All hooks that were registered. -/
def registered (calls : List RegistryCall) : List NamedHook := registeredFrom 0 calls

/-- The hooks that are still there. -/
def live (calls : List RegistryCall) : List NamedHook := liveFrom 0 calls

/-- A call adds its registrations behind those before it. -/
theorem registeredFrom_concat (serial : Nat) (calls : List RegistryCall) (call : RegistryCall) :
    registeredFrom serial (calls ++ [call]) =
      registeredFrom serial calls ++ call.adds (serial + (registeredFrom serial calls).length) := by
  induction calls generalizing serial with
  | nil => simp [registeredFrom]
  | cons first later ih => simp [registeredFrom, ih, Nat.add_assoc]

/-- A call removes live hooks, and then adds its own. -/
theorem liveFrom_concat (serial : Nat) (calls : List RegistryCall) (call : RegistryCall) :
    liveFrom serial (calls ++ [call]) =
      (liveFrom serial calls).filter (fun hook => !call.removes hook.1) ++
        call.adds (serial + (registeredFrom serial calls).length) := by
  induction calls generalizing serial with
  | nil => simp [liveFrom, registeredFrom]
  | cons first later ih =>
      simp [liveFrom, registeredFrom, ih, Nat.add_assoc, Bool.and_comm]

theorem registered_concat (calls : List RegistryCall) (call : RegistryCall) :
    registered (calls ++ [call]) = registered calls ++ call.adds (registered calls).length := by
  simpa [registered] using registeredFrom_concat 0 calls call

theorem live_concat (calls : List RegistryCall) (call : RegistryCall) :
    live (calls ++ [call]) =
      (live calls).filter (fun hook => !call.removes hook.1) ++
        call.adds (registered calls).length := by
  simpa [live, registered] using liveFrom_concat 0 calls call

end RegistryCall

open RegistryCall

/-! ## What hooks are told -/

/-- Those that were told of a stage, in order. -/
def told (stage : HookStage) (journal : List HookEvent) : List Registration :=
  (journal.filter (·.stage = stage)).map (·.registration)

theorem told_append (stage : HookStage) (journal events : List HookEvent) :
    told stage (journal ++ events) = told stage journal ++ told stage events := by
  simp [told]

theorem told_map (stage other : HookStage) (registrations : List Registration) :
    told stage (registrations.map fun registration => ⟨other, registration⟩) =
      if other = stage then registrations else [] := by
  by_cases hstage : other = stage
  · simp [told, hstage, List.filter_map, Function.comp_def]
  · simp [told, hstage, List.filter_map, Function.comp_def]

/-- Hooks are asked in turn, and the first answer counts. -/
theorem ask_eq (value : Value) (arguments : List Value) (rule : Rule)
    (normalizer : Option Normalizer) (store : Option EntityStore) (hooks : List Registration) :
    (HookRegistry.ask value arguments rule normalizer hooks store).1 =
      ((turns value arguments rule normalizer store hooks).findSome?
          (answerOf value arguments rule normalizer),
        (untilAnswer value arguments rule normalizer store hooks).map fun registration =>
          ⟨.call, registration⟩) := by
  induction hooks generalizing store with
  | nil => rfl
  | cons registration rest ih =>
      rw [HookRegistry.ask_cons]
      cases hanswer : registration.hook.answer value arguments rule normalizer store with
      | mk answer left =>
          cases answer with
          | none =>
              dsimp only
              rw [ih left]
              simp [untilAnswer, turns, answerOf, hanswer]
          | some outcome => simp [untilAnswer, turns, answerOf, hanswer]

/-! ## What a registry holds -/

namespace HookRegistry

/-- The registry holds the hooks, by their names. -/
structure Holds (registry : HookRegistry) (hooks : List NamedHook) : Prop where
  names : registry.names = (Entries.keys hooks).eraseDups
  named : ∀ name, name ∈ registry.names ↔ ∃ registration, (name, registration) ∈ hooks
  contains : ∀ name, registry.contains name = true ↔ name ∈ registry.names
  hooksOf : ∀ name, registry.hooksOf name = hooksNamed hooks name
  size : registry.size = hooks.length
  isEmpty : registry.isEmpty = true ↔ registry.names = []

/-- What the registry answers to calls, if it holds the hooks. -/
structure Answers (registry : HookRegistry) (hooks : List NamedHook) : Prop where
  unregister : ∀ name, (registry.unregister name).1 = (hooksNamed hooks name).length
  invoke : ∀ name value arguments rule normalizer store,
    (registry.invoke name value arguments rule normalizer store).1 =
        (turns value arguments rule normalizer store (hooksNamed hooks name)).findSome?
          (answerOf value arguments rule normalizer) ∧
      (registry.perform (.invoke name value arguments rule normalizer store)).1 = registry

end HookRegistry

/-- Whom a call tells what after other calls. -/
structure Tells (calls : List RegistryCall) (call : RegistryCall) (events : List HookEvent) :
    Prop where
  initialized : told .registered events = (call.adds (registered calls).length).map (·.2)
  asked : told .call events = call.asks (live calls)
  removed : (told .shutdown events).Perm
    (((live calls).filter fun hook => call.removes hook.1).map (·.2))

/-- All hooks were told of their registration, and of those that are not live any more each was told
of its removal. -/
structure Balanced (calls : List RegistryCall) (journal : List HookEvent) : Prop where
  initialized : told .registered journal = (registered calls).map (·.2)
  removed : (told .shutdown journal ++ (live calls).map (·.2)).Perm ((registered calls).map (·.2))

/-- The slots of a registry are the live hooks by their names. -/
structure Keeps (calls : List RegistryCall) (registry : HookRegistry) : Prop where
  slots : registry.slots = grouped (live calls)
  nextSerial : registry.nextSerial = (registered calls).length

namespace Keeps

variable {calls : List RegistryCall} {registry : HookRegistry}

theorem hooksOf (h : Keeps calls registry) (name : String) :
    registry.hooksOf name = hooksNamed (live calls) name := by
  unfold HookRegistry.hooksOf
  rw [h.slots, lookup_grouped]
  by_cases hmem : name ∈ Entries.keys (live calls)
  · simp [hmem]
  · simp [hmem, hooksNamed_of_not_mem hmem]

theorem registrations (h : Keeps calls registry) :
    registry.registrations.Perm ((live calls).map (·.2)) := by
  unfold HookRegistry.registrations
  rw [h.slots]
  exact perm_grouped (live calls)

theorem names (h : Keeps calls registry) :
    registry.names = (Entries.keys (live calls)).eraseDups := by
  simp [HookRegistry.names, h.slots, grouped, Entries.keys, Function.comp_def]

/-- The registry holds exactly the hooks that live. -/
theorem holds (h : Keeps calls registry) : registry.Holds (live calls) := by
  have hsize : registry.size = (live calls).length := by
    simpa [HookRegistry.size] using h.registrations.length_eq
  refine ⟨h.names, fun name => ?_, fun name => ?_, h.hooksOf, hsize, ?_⟩
  · rw [h.names]
    simp [Entries.keys]
  · rw [HookRegistry.contains, h.slots, h.names, lookup_grouped]
    by_cases hmem : name ∈ Entries.keys (live calls)
    · simp [hmem]
    · simp [hmem]
  · rw [h.names, HookRegistry.isEmpty, hsize]
    cases live calls with
    | nil => simp [Entries.keys]
    | cons hook rest => simp [Entries.keys, List.eraseDups_cons]

/-- The registry answers as the hooks that live. -/
theorem answers (h : Keeps calls registry) : registry.Answers (live calls) := by
  refine ⟨fun name => ?_, fun name value arguments rule normalizer store => ⟨?_, rfl⟩⟩
  · simp [HookRegistry.unregister, h.hooksOf]
  · simp [HookRegistry.invoke, HookRegistry.consult, h.hooksOf, ask_eq]

/-- One more call on a registry that holds the live hooks leaves one that does. -/
theorem perform (h : Keeps calls registry) (call : RegistryCall) :
    Keeps (calls ++ [call]) (registry.perform call).1 := by
  refine ⟨?_, ?_⟩
  · -- What the call removes leaves the list of live hooks, and what it adds comes at its end.
    rw [live_concat]
    cases call with
    | register name hook =>
        simp [HookRegistry.perform, HookRegistry.register, h.slots, h.nextSerial, alter_grouped,
          removes, adds]
    | unregister name =>
        simp [HookRegistry.perform, HookRegistry.unregister, h.slots, remove_grouped, removes, adds]
    | shutdown =>
        simp [HookRegistry.perform, HookRegistry.shutdown, removes, adds, grouped, Entries.keys]
    | invoke => simp [HookRegistry.perform, h.slots, removes, adds]
  · -- Only a registration takes a number.
    rw [registered_concat]
    cases call with
    | register name hook =>
        simp [HookRegistry.perform, HookRegistry.register, h.nextSerial, adds]
    | _ =>
        simp [HookRegistry.perform, HookRegistry.unregister, HookRegistry.shutdown, h.nextSerial,
          adds]

/-- A call tells those whom it adds, asks or removes. -/
theorem tells (h : Keeps calls registry) (call : RegistryCall) :
    Tells calls call (registry.perform call).2 := by
  cases call with
  | register name hook =>
      refine ⟨?_, ?_, ?_⟩
      · simp [HookRegistry.perform, HookRegistry.register, h.nextSerial, adds, told]
      · simp [HookRegistry.perform, HookRegistry.register, asks, told]
      · simp [HookRegistry.perform, HookRegistry.register, removes, told]
  | unregister name =>
      -- The hooks that the registry finds under the name are those that the call removes.
      have hnamed : hooksNamed (live calls) name =
          ((live calls).filter fun hook => (unregister name).removes hook.1).map (·.2) := by
        simp [hooksNamed, removes, BEq.comm]
      refine ⟨?_, ?_, ?_⟩
      · simp [HookRegistry.perform, HookRegistry.unregister, told_map, adds]
      · simp [HookRegistry.perform, HookRegistry.unregister, told_map, asks]
      · rw [← hnamed]
        simp [HookRegistry.perform, HookRegistry.unregister, told_map, h.hooksOf]
  | shutdown =>
      refine ⟨?_, ?_, ?_⟩
      · simp [HookRegistry.perform, HookRegistry.shutdown, told_map, adds]
      · simp [HookRegistry.perform, HookRegistry.shutdown, told_map, asks]
      · -- They are told name by name, and not in the order of their registration.
        simpa [HookRegistry.perform, HookRegistry.shutdown, told_map, removes] using h.registrations
  | invoke name value arguments rule normalizer store =>
      have hevents : (registry.perform (.invoke name value arguments rule normalizer store)).2 =
          (untilAnswer value arguments rule normalizer store (hooksNamed (live calls) name)).map
            fun registration => ⟨.call, registration⟩ := by
        simp [HookRegistry.perform, HookRegistry.invoke, HookRegistry.consult, h.hooksOf, ask_eq]
      rw [hevents]
      refine ⟨?_, ?_, ?_⟩
      · simp [told_map, adds]
      · simp [told_map, asks]
      · simp [told_map, removes]

end Keeps

/-! ## Sequences of calls -/

open HookRegistry

/-- A call is performed on what the calls before it left. -/
theorem after_concat (calls : List RegistryCall) (call : RegistryCall) :
    after (calls ++ [call]) =
      (((after calls).1.perform call).1, (after calls).2 ++ ((after calls).1.perform call).2) := by
  simp [after]

/-- By induction on the number of calls, from the last one. -/
theorem keeps_after (calls : List RegistryCall) : Keeps calls (after calls).1 := by
  induction calls using List.reverseRecOn with
  | nil => exact ⟨rfl, rfl⟩
  | append_singleton calls call ih =>
      rw [after_concat]
      exact ih.perform call

/-- Those whom a call removes were live, and all others stay so. -/
theorem Balanced.step {calls : List RegistryCall} {call : RegistryCall}
    {journal events : List HookEvent} (h : Balanced calls journal)
    (htells : Tells calls call events) : Balanced (calls ++ [call]) (journal ++ events) := by
  have hregistered : (registered (calls ++ [call])).map (·.2) =
      (registered calls).map (·.2) ++
        (call.adds (registered calls).length).map (·.2) := by
    rw [registered_concat, List.map_append]
  refine ⟨?_, ?_⟩
  · rw [told_append, h.initialized, htells.initialized, hregistered]
  · let removed := ((live calls).filter fun hook => call.removes hook.1).map (·.2)
    let kept := ((live calls).filter fun hook => !call.removes hook.1).map (·.2)
    let added := (call.adds (registered calls).length).map (·.2)
    have hlive : (live (calls ++ [call])).map (·.2) = kept ++ added := by
      rw [live_concat, List.map_append]
    have hsplit : (removed ++ kept).Perm ((live calls).map (·.2)) := by
      rw [← List.map_append]
      exact (List.filter_append_perm _ (live calls)).map (·.2)
    rw [told_append, hlive, hregistered]
    calc
      List.Perm ((told .shutdown journal ++ told .shutdown events) ++ (kept ++ added))
          ((told .shutdown journal ++ removed) ++ (kept ++ added)) :=
        (htells.removed.append_left _).append_right _
      List.Perm _ (told .shutdown journal ++ (removed ++ kept) ++ added) := by simp
      List.Perm _ (told .shutdown journal ++ (live calls).map (·.2) ++ added) :=
        (hsplit.append_left _).append_right _
      List.Perm _ ((registered calls).map (·.2) ++ added) := h.removed.append_right _

/-- Any calls leave a balanced journal. -/
theorem balanced_after (calls : List RegistryCall) : Balanced calls (after calls).2 := by
  induction calls using List.reverseRecOn with
  | nil => exact ⟨rfl, .refl []⟩
  | append_singleton calls call ih =>
      rw [after_concat]
      exact ih.step ((keeps_after calls).tells call)

/-- Registrations are numbered in order. -/
theorem serials_registered (calls : List RegistryCall) :
    (registered calls).map (·.2.serial) = List.range (registered calls).length := by
  induction calls using List.reverseRecOn with
  | nil => rfl
  | append_singleton calls call ih =>
      rw [registered_concat]
      cases call with
      | register name hook => simp [adds, ih, List.range_succ]
      | _ => simp [adds, ih]

/-- Every registration was told once that it was made, and it is live or was told once that it was
removed. -/
def Once (calls : List RegistryCall) (journal : List HookEvent) : Prop :=
  ∀ serial < (registered calls).length,
    ((told .registered journal).map (·.serial)).count serial = 1 ∧
      ((told .shutdown journal).map (·.serial)).count serial +
        ((live calls).map (·.2.serial)).count serial = 1

/-- In a balanced journal, no hook is told twice of its registration or its removal. -/
theorem Balanced.once {calls : List RegistryCall} {journal : List HookEvent}
    (h : Balanced calls journal) : Once calls journal := by
  intro serial hserial
  -- All numbers below the next one were given out, each once.
  have hcount : ((registered calls).map (·.2.serial)).count serial = 1 := by
    rw [serials_registered, List.count_range, if_pos hserial]
  have hremoved := (h.removed.map (·.serial)).count_eq serial
  refine ⟨?_, ?_⟩
  · rw [h.initialized]
    simpa [Function.comp_def] using hcount
  · rw [List.map_append, List.count_append] at hremoved
    simpa [Function.comp_def, hcount] using hremoved

/-- After any calls on an empty registry it holds and answers for the live hooks.  Every
registration was told once that it was made, and once that it was removed, if it was.  One more call
tells those whom it registers, asks or removes, and no others. -/
theorem HookRegistry.lifecycle (calls : List RegistryCall) :
    (after calls).1.Holds (live calls) ∧ (after calls).1.Answers (live calls) ∧
      Balanced calls (after calls).2 ∧ Once calls (after calls).2 ∧
      (told .registered (after calls).2).length =
        (told .shutdown (after calls).2).length + (after calls).1.size ∧
      ∀ call, Tells calls call ((after calls).1.perform call).2 := by
  have hkeeps : Keeps calls (after calls).1 := keeps_after calls
  have hbalanced : Balanced calls (after calls).2 := balanced_after calls
  have hlength : (told .registered (after calls).2).length =
      (told .shutdown (after calls).2).length + (after calls).1.size := by
    have hremoved := hbalanced.removed.length_eq
    rw [hbalanced.initialized, ← hremoved, hkeeps.holds.size, List.length_append, List.length_map]
  exact ⟨hkeeps.holds, hkeeps.answers, hbalanced, hbalanced.once, hlength, hkeeps.tells⟩

/-- A name that comes back comes last. -/
example (first second : Hook) :
    (after [.register "a" first, .register "b" first, .unregister "a",
      .register "a" second]).1.names = ["b", "a"] := by
  rfl

end Assay
