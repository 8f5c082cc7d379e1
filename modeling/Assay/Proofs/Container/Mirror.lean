import Assay.Proofs.Checker.Contract
import Assay.Proofs.Container.Members
import Assay.Proofs.Fault.Leaves
import Assay.Proofs.Value.Place
import Assay.Rule.Typed

/-!
# Mirror — the faults of a value lie where its members do

The rules of a container record faults under the keys of its members.  So the keys of a leaf lead to
the member that is at fault, or to a place where one is missing.

* `Rule.Layered` is a rule for leaves, or one for containers and nothing else, at every level;
* `Fault.Mirrors` says of a tree of faults that its leaves lie at places of a value;
* `check_fault_mirrors` states it of the fault of a check.
-/

namespace Assay

/-- At every level the rule judges the value by itself, or it does nothing but to look into it. -/
inductive Rule.Layered : Rule → Prop where
  | simple {rule : Rule} (own : ∀ filter ∈ rule.filters, filter.isSimple = true) : Layered rule
  | container {rule : Rule} {shape : Shape Rule} (own : rule.filters = [.arrays shape])
      (held : ∀ below ∈ shape.rules, Layered below) : Layered rule

/-- A leaf lies at a place of the value, or it is for a key that is missing in a container there. -/
def Fault.Placed (value : Value) (keys : List String) (leaf : Fault) : Prop :=
  (∃ target, value.Leads keys target) ∨
    ∃ above key container, keys = above ++ [key] ∧ value.Leads above container ∧
      container.contents.isContainer = true ∧
      key ∉ Entries.keys (Checker.memberEntries container.contents) ∧
      leaf.code = some "required"

/-- Every leaf of the tree lies at a place of the value, or is for a missing key. -/
def Fault.Mirrors (fault : Fault) (value : Value) : Prop :=
  ∀ keys leaf, fault.LeafAt keys leaf → Fault.Placed value keys leaf

/-- Every fault of the outcome mirrors the value. -/
def Outcome.Mirrors (value : Value) (outcome : Outcome) : Prop :=
  ∀ fault, outcome.fault = some fault → fault.Mirrors value

/-! ## Trees of faults -/

/-- A leaf mirrors every value. -/
theorem Fault.mirrors_of_childless {fault : Fault} (h : fault.children = []) (value : Value) :
    fault.Mirrors value := by
  intro keys leaf hleaf
  cases hleaf with
  | root _ _ => exact .inl ⟨value, .self value⟩
  | child hentry _ =>
      rw [h] at hentry
      cases hentry

/-- What lies at a place of a member lies one key deeper in the container. -/
theorem Fault.Placed.into {value member : Value} {key : String} {keys : List String}
    {leaf : Fault} (hmem : (key, member) ∈ Checker.memberEntries value.contents)
    (h : Fault.Placed member keys leaf) : Fault.Placed value (key :: keys) leaf := by
  rcases h with ⟨target, hleads⟩ | ⟨above, last, container, rfl, hleads, hrest⟩
  · exact .inl ⟨target, .into hmem hleads⟩
  · exact .inr ⟨key :: above, last, container, rfl, .into hmem hleads, hrest⟩

namespace Checker

theorem mirrors_ok (value result : Value) : (Outcome.ok result).Mirrors value := by
  intro fault hfault
  cases hfault

/-- What is recorded under a key: a fault that mirrors a member there, or the fault for a member
that is missing. -/
def RecordedAt (container : Value) (key : String) (fault : Fault) : Prop :=
  (∃ member, (key, member) ∈ memberEntries container.contents ∧ fault.Mirrors member) ∨
    (key ∉ Entries.keys (memberEntries container.contents) ∧ fault = requiredFault)

/-- A container mirrors its value if every fault lies at a member of it. -/
theorem mirrors_containerFault {value : Value} (hcontainer : value.contents.isContainer = true)
    {faults : List (String × Fault)}
    (h : ∀ entry ∈ faults, RecordedAt value entry.1 entry.2) :
    (containerFault faults).Mirrors value := by
  intro keys leaf hleaf
  cases hleaf with
  | root _ _ => exact .inl ⟨value, .self value⟩
  | @child _ node _ key keys hentry hleaf =>
      rcases h (key, node) hentry with ⟨member, hmem, hmirrors⟩ | ⟨habsent, hrequired⟩
      · exact .into hmem (hmirrors keys leaf hleaf)
      · -- The fault for a missing member is a leaf itself.
        cases hrequired
        cases hleaf with
        | root _ _ => exact .inr ⟨[], key, value, rfl, .self value, hcontainer, habsent, rfl⟩
        | child hnone _ => cases hnone

variable {checker : Checker} {step : Option Step} {shape : Shape Rule} {whole : Rule}

/-- Containers mirror their value if their members do. -/
theorem checkContainer_mirrors {value : Value}
    (hstep : ∀ next ∈ step, ∀ rule, rule = whole ∨ rule ∈ shape.rules → ∀ member,
      Ensures (next rule member) (Outcome.Mirrors member)) :
    Ensures (checkContainer step shape whole value) (Outcome.Mirrors value) := by
  refine checkContainer_ensures (mirrors_ok value) (fun template => ?_)
    fun next hnext hcontainer => ?_
  · intro fault hfault
    cases hfault
    exact Fault.mirrors_of_childless rfl value
  · have hrecorded : Ensures (checkMembers next shape whole (memberEntries value.contents))
        fun members => ∀ entry ∈ memberFaults members, RecordedAt value entry.1 entry.2 := by
      refine memberFaults_ensures (fun entry hentry => ?_) (fun entry hentry rule hrule => ?_)
        (fun entry hentry => ?_)
      · exact .inl ⟨entry.2, hentry, Fault.mirrors_of_childless rfl entry.2⟩
      · refine (hstep next hnext rule hrule entry.2).mono fun outcome houtcome fault hfault => ?_
        exact .inl ⟨entry.2, hentry, houtcome fault hfault⟩
      · exact .inr ⟨not_mem_of_mem_missing hentry, rfl⟩
    refine hrecorded.mono fun members hmembers result fault hfault => ?_
    cases hfault
    exact mirrors_containerFault hcontainer hmembers

/-! ## Rules -/

/-- A filter that judges by itself reports a fault without children. -/
theorem apply_simple_mirrors {filter : Filter Rule} (simple : filter.isSimple = true)
    (value target : Value) :
    Ensures (checker.apply step whole filter value) (Outcome.Mirrors target) := by
  refine apply_simple simple (fun kind outcome _ _ hblames fault hfault => ?_) value
  rcases hblames fault hfault with ⟨message, rfl⟩
  exact Fault.mirrors_of_childless rfl target

/-- Members are checked by rules that are layered, so that the next level has to be known for these
only. -/
theorem runWith_mirrors {rule : Rule} (layered : rule.Layered)
    (hstep : ∀ next ∈ step, ∀ other : Rule, other.Layered → ∀ member,
      Ensures (next other member) (Outcome.Mirrors member)) (value : Value) :
    Ensures (checker.runWith step rule value) (Outcome.Mirrors value) := by
  cases layered with
  | simple own =>
      -- Earlier filters may change the value, but no fault of theirs has children.
      refine runWith_ensures (mirrors_ok value) (fun filter hfilter result => ?_) value
      exact apply_simple_mirrors (own filter hfilter) result value
  | @container rule shape own held =>
      -- The value is looked into as it came, since no filter was before.
      refine runWith_single own (mirrors_ok value) ?_
      refine checkContainer_mirrors fun next hnext other hother => ?_
      rcases hother with rfl | hmem
      · exact hstep next hnext _ (.container own held)
      · exact hstep next hnext other (held other hmem)

/-- By induction on the levels. -/
theorem run_mirrors (levels : Nat) {rule : Rule} (layered : rule.Layered) (value : Value) :
    Ensures (checker.run levels rule value) (Outcome.Mirrors value) := by
  induction levels generalizing rule value with
  | zero => exact runWith_mirrors layered (fun _ hnext => by cases hnext) value
  | succ levels ih =>
      refine runWith_mirrors layered (fun next hnext other hother => ?_) value
      cases hnext
      exact ih hother

/-- The keys of every leaf lead to a place in the value, through lists by indices, through maps by
keys and through `values` containers.  Or all but the last one lead to a container that has no
member at the last, and then the leaf says that one is required. -/
theorem check_fault_mirrors {checker : Checker} {rule : Rule} {value : Value} {world : World}
    {fault leaf : Fault} {keys : List String} (layered : rule.Layered)
    (refused : (checker.check value rule world).1.fault = some fault)
    (leafAt : fault.LeafAt keys leaf) :
    (∃ target, value.Leads keys target) ∨
      ∃ above key container, keys = above ++ [key] ∧ value.Leads above container ∧
        container.contents.isContainer = true ∧
        key ∉ Entries.keys (memberEntries container.contents) ∧ leaf.code = some "required" :=
  run_mirrors checker.settings.maxDepth layered value world fault refused keys leaf leafAt

/-- A list in a `values` container, which a tree reaches by its own rule, has no page. -/
theorem check_fault_mirrors_tree :
    let shape : Shape Rule := ⟨[("page", Rule.int.requiring)], some .int, true⟩
    let rule := Rule.ofFilter (.arrays shape)
    let rest := Value.values none (.list [.str "x"])
    let value := Value.map [("page", .int 1), ("rest", rest)]
    let below := containerFault
      [("0", Check.faultOf .int "Invalid integer"), ("page", requiredFault)]
    let fault := containerFault [("rest", below)]
    rule.Layered ∧ (Checker.bare.check value rule World.bare).1.fault = some fault ∧
      fault.LeafAt ["rest", "page"] requiredFault ∧
      ((∃ target, value.Leads ["rest", "page"] target) ∨
        ∃ above key container, ["rest", "page"] = above ++ [key] ∧ value.Leads above container ∧
          container.contents.isContainer = true ∧
          key ∉ Entries.keys (memberEntries container.contents) ∧
          requiredFault.code = some "required") := by
  intro shape rule rest value below fault
  have hsimple : ∀ held ∈ shape.rules, held.Layered := by
    intro held hheld
    have hint : held = Rule.int.requiring ∨ held = Rule.int := by
      simpa [shape, Shape.rules] using hheld
    rcases hint with rfl | rfl
    · exact .simple (by decide)
    · exact .simple (by decide)
  have hlayered : rule.Layered := .container rfl hsimple
  have hrefused : (Checker.bare.check value rule World.bare).1.fault = some fault := rfl
  have hleaf : requiredFault.LeafAt [] requiredFault := .root rfl rfl
  have hbelow : below.LeafAt ["page"] requiredFault := .child (.tail _ (.head _)) hleaf
  have hroot : fault.LeafAt ["rest", "page"] requiredFault := .child (.head _) hbelow
  exact ⟨hlayered, hrefused, hroot, check_fault_mirrors hlayered hrefused hroot⟩

end Checker

end Assay
