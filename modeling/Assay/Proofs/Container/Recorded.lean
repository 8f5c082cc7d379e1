import Assay.Hook.Stock
import Assay.Proofs.Checker.Contract
import Assay.Proofs.Container.Members
import Assay.Rule.Typed

/-!
# Recorded faults — when a container is refused

A container is refused as soon as anything is recorded for a member, whether that exists or not: its
own fault has a code from the start.  Only a hook can record a fault that does not exist.

* `arrays_refused_iff` states this, and what follows where hooks say why they refuse;
* `arrays_refused_silently` is a container that is refused for no existing reason.
-/

namespace Assay.Checker

variable {step : Step} {shape : Shape Rule} {whole : Rule}

/-- If the step to members is founded, so is whatever is recorded for them. -/
theorem memberFaults_present (hstep : ∀ rule value, Ensures (step rule value) Outcome.Founded)
    (entries : List (String × Value)) :
    Ensures (checkMembers step shape whole entries) fun members =>
      ∀ entry ∈ memberFaults members, entry.2.isPresent = true := by
  refine memberFaults_ensures (p := fun _ fault => fault.isPresent = true)
    (fun entry _ => ?_) (fun entry _ rule _ => hstep rule entry.2) (fun entry _ => ?_)
  · exact isPresent_of_code rfl
  · exact isPresent_of_code rfl

/-- A container is refused exactly if something was recorded for a member, and its fault, whose
children are what was recorded, exists in any case.  If hooks answer with faults that exist, this
means that something that exists was recorded. -/
theorem arrays_refused_iff {checker : Checker} {depth : Nat} {world : World} {value : Value}
    (whole : Rule) (shape : Shape Rule) (shallow : depth < checker.settings.maxDepth)
    (container : value.contents.isContainer = true) :
    let entries := memberEntries value.contents
    let members := (checkMembers (checker.runAt (depth + 1)) shape whole entries world).1
    let recorded := memberFaults members
    let outcome := (checker.applyAt depth whole (.arrays shape) value world).1
    (outcome.isOk = false ↔ recorded ≠ []) ∧
      (∀ fault, outcome.fault = some fault →
        fault.children = recorded ∧ fault.isPresent = true) ∧
      (checker.registry.AnswersFounded →
        (outcome.isOk = false ↔ ∃ entry ∈ recorded, entry.2.isPresent = true)) := by
  intro entries members recorded outcome
  have houtcome : outcome = containerOutcome (rebuilt value.contents) members := by
    change (checker.applyAt depth whole (.arrays shape) value world).1 = _
    rw [applyAt_arrays checker shallow, checkContainer_apply container]
  have hrefused : outcome.isOk = false ↔ recorded ≠ [] := by
    rw [houtcome, isOk_containerOutcome]
    exact List.isEmpty_eq_false_iff
  refine ⟨hrefused, ?_, ?_⟩
  · intro fault hsome
    rw [houtcome, containerOutcome_eq] at hsome
    change aggregate? recorded = some fault at hsome
    unfold aggregate? at hsome
    split at hsome
    · cases hsome
    · cases hsome
      exact ⟨rfl, isPresent_of_code rfl⟩
  · intro hhooks
    have hpresent : ∀ entry ∈ recorded, entry.2.isPresent = true :=
      memberFaults_present (fun rule value => run_founded hhooks _ rule value) entries world
    rw [hrefused]
    constructor
    · intro hne
      rcases List.exists_mem_of_ne_nil recorded hne with ⟨entry, hentry⟩
      exact ⟨entry, hentry, hpresent entry hentry⟩
    · rintro ⟨entry, hentry, _⟩ hnil
      rw [hnil] at hentry
      cases hentry

/-- A list in a `values` container is refused for its second member. -/
theorem arrays_refused_list :
    let whole := Rule.arraysOf Rule.int
    let shape : Shape Rule := ⟨[], some Rule.int, false⟩
    let input := Value.values none (.list [.int 1, .list []])
    let members := (checkMembers (Checker.bare.runAt 1) shape whole
      (memberEntries input.contents) World.bare).1
    let outcome := (Checker.bare.applyAt 0 whole (.arrays shape) input World.bare).1
    0 < Checker.bare.settings.maxDepth ∧ input.contents.isContainer = true ∧
      Checker.bare.registry.AnswersFounded ∧ outcome.isOk = false ∧
      ∃ entry ∈ memberFaults members, entry.2.isPresent = true := by
  intro whole shape input members outcome
  have hshallow : 0 < Checker.bare.settings.maxDepth := by decide
  have hhooks : Checker.bare.registry.AnswersFounded := by
    intro name value arguments rule normalizer store answer hanswer
    cases hanswer
  have hstated := @arrays_refused_iff Checker.bare 0 World.bare input whole shape hshallow rfl
  have hrefused : outcome.isOk = false := hstated.1.2 (List.cons_ne_nil _ _)
  exact ⟨hshallow, rfl, hhooks, hrefused, (hstated.2.2 hhooks).1 hrefused⟩

/-- A hook refuses a member without saying why.  What is recorded does not exist, and yet the
container is refused. -/
theorem arrays_refused_silently :
    let registry := (HookRegistry.empty.register "h" ⟨none, false, Hook.refuseSilently⟩).1
    let checker : Checker := { Checker.bare with registry := registry }
    let shape : Shape Rule := ⟨[("a", Rule.empty.custom "h" [])], none, false⟩
    let input := Value.map [("a", .int 1)]
    let step := checker.runAt 1
    memberFaults (checkMembers step shape Rule.empty (memberEntries input) World.bare).1 =
        [("a", Fault.empty)] ∧
      Fault.empty.isPresent = false ∧
      (checker.applyAt 0 Rule.empty (.arrays shape) input World.bare).1.isOk = false :=
  ⟨rfl, rfl, rfl⟩

end Assay.Checker
