import Assay.Proofs.Checker.Plain
import Assay.Proofs.Container.Members
import Assay.Proofs.Value.Nesting
import Assay.Rule.Typed

/-!
# Trees — containers in containers, checked by a rule for their leaves

A rule for leaves refuses every container.  As the rule for all members of a tree it leaves the
containers in it to the rule of the tree, level by level.

* `TreeOutcome` says what the tree comes to, when there are so many levels;
* `treeOutcome_succ` builds it up from the members;
* `tree_exact` states it of a check, at any greatest depth.
-/

namespace Assay.Checker

/-! ## Entries and members -/

theorem map_memberEntries (value : Value) :
    (memberEntries value).map (·.2) = value.members := by
  cases value with
  | list items => exact List.map_snd_zip (by simp [Value.indexKeys])
  | _ => rfl

/-- Entries that are changed one by one give the container with changed members. -/
theorem rebuilt_map {value : Value} (h : value.isContainer = true) (f : Value → Value) :
    rebuilt value ((memberEntries value).map fun entry => (entry.1, f entry.2)) =
      value.withMembers (value.members.map f) := by
  cases value with
  | list items =>
      have hitems := map_memberEntries (.list items)
      simp only [rebuilt, Value.withMembers, ← hitems, List.map_map]
      rfl
  | map entries =>
      simp only [rebuilt, memberEntries, Value.withMembers, Value.members, Entries.keys,
        List.map_map, List.zip_map']
      rfl
  | _ => cases h

/-! ## What a tree comes to -/

/-- The outcome of a tree with so many levels, of which each leaf has its own outcome: leaves are
replaced down to the last level, and it is refused for a leaf or for too many levels. -/
def TreeOutcome (read : Value → Outcome) (levels : Nat) (value : Value) (outcome : Outcome) :
    Prop :=
  outcome.value = value.cut (fun leaf => (read leaf).value) levels ∧
    (outcome.isOk = false ↔
      levels < value.nesting ∨ ∃ leaf ∈ value.leaves, (read leaf).isOk = false)

section

variable {read : Value → Outcome} {levels : Nat} {value : Value}

theorem treeOutcome_of_leaf (h : value.isContainer = false) :
    TreeOutcome read levels value (read value) := by
  refine ⟨(Value.cut_of_leaf (fun leaf => (read leaf).value) levels h).symm, ?_⟩
  simp [Value.nesting_of_leaf h, Value.leaves_of_leaf h]

/-- With no level left, a container is refused as a whole. -/
theorem treeOutcome_zero (h : value.isContainer = true) (template : String) :
    TreeOutcome read 0 value (noContainer template) := by
  refine ⟨?_, ?_⟩
  · simp [noContainer, Outcome.fail, Value.cut, h]
  · have hnested : 0 < value.nesting := by
      rw [Value.nesting_of_container h]
      exact Nat.succ_pos _
    exact ⟨fun _ => .inl hnested, fun _ => rfl⟩

/-- A container with members that come to what they should does so one level above. -/
theorem treeOutcome_succ {answer : Value → Outcome} {outcome : Outcome}
    (hcontainer : value.isContainer = true)
    (hmembers : ∀ member ∈ value.members, TreeOutcome read levels member (answer member))
    (hvalue : outcome.value =
      value.withMembers (value.members.map fun member => (answer member).value))
    (hok : outcome.isOk = value.members.all fun member => (answer member).isOk) :
    TreeOutcome read (levels + 1) value outcome := by
  refine ⟨?_, ?_⟩
  · have hcut : value.members.map (fun member => (answer member).value) =
        value.members.map (Value.cut (fun leaf => (read leaf).value) levels) :=
      List.map_congr_left fun member hmember => (hmembers member hmember).1
    rw [hvalue, hcut]
    simp [Value.cut, hcontainer]
  · have hnesting : levels + 1 < value.nesting ↔
        ∃ member ∈ value.members, levels < member.nesting := by
      rw [← Nat.not_le, Value.nesting_le_succ_iff hcontainer]
      simp
    have hrefused : outcome.isOk = false ↔
        ∃ member ∈ value.members, (answer member).isOk = false := by
      rw [hok, List.all_eq_false]
      simp
    rw [hrefused, hnesting]
    -- A member is refused for a leaf in it, or because it is nested too deep itself.
    constructor
    · rintro ⟨member, hmember, hno⟩
      rcases (hmembers member hmember).2.1 hno with hdeep | ⟨leaf, hleaf, hfails⟩
      · exact .inl ⟨member, hmember, hdeep⟩
      · exact .inr ⟨leaf, (Value.mem_leaves_iff hcontainer).2 ⟨member, hmember, hleaf⟩, hfails⟩
    · rintro (⟨member, hmember, hdeep⟩ | ⟨leaf, hleaf, hfails⟩)
      · exact ⟨member, hmember, (hmembers member hmember).2.2 (.inl hdeep)⟩
      · rcases (Value.mem_leaves_iff hcontainer).1 hleaf with ⟨member, hmember, hbelow⟩
        exact ⟨member, hmember, (hmembers member hmember).2.2 (.inr ⟨leaf, hbelow, hfails⟩)⟩

end

/-! ## One level -/

/-- A tree with a rule for its leaves. -/
def treeShape (rule : Rule) : Shape Rule := ⟨[], some rule, true⟩

section

variable {visit : Visit} {rule whole : Rule}

/-- The rule of the tree governs containers, and the rule for leaves governs these. -/
theorem presentMember_treeShape (key : String) {member : Value}
    (hrefused : member.isContainer = true → (visit rule member).isOk = false)
    (hleaf : member.isContainer = false → isNested member = false) :
    presentMember visit (treeShape rule) whole key member =
      .ofOutcome key (visit (if member.isContainer then whole else rule) member) := by
  have hturns : turnsBack visit (treeShape rule) member = member.isContainer := by
    cases hcontainer : member.isContainer with
    | true =>
        -- It is refused at first, so the whole rule takes over.
        have hnested : isNested member = true := by
          cases member with
          | list _ => rfl
          | map _ => rfl
          | _ => cases hcontainer
        simp [turnsBack, treeShape, hnested, hrefused hcontainer]
    | false => simp [turnsBack, hleaf hcontainer]
  rw [presentMember_of_lookup_eq_none rfl, hturns]
  cases member.isContainer <;> rfl

/-- What members that all have an outcome make of their container. -/
theorem containerOutcome_map (build : List (String × Value) → Value) (answer : Value → Outcome)
    (entries : List (String × Value)) :
    let members := entries.map fun entry => Member.ofOutcome entry.1 (answer entry.2)
    let outcome := containerOutcome build members
    outcome.value = build (entries.map fun entry => (entry.1, (answer entry.2).value)) ∧
      outcome.isOk = (entries.map (·.2)).all fun member => (answer member).isOk := by
  intro members outcome
  refine ⟨?_, ?_⟩
  · change (containerOutcome build members).value = _
    have hkept : keptEntries members =
        entries.map fun entry => (entry.1, (answer entry.2).value) := by
      unfold keptEntries
      rw [List.filterMap_map]
      exact congrFun List.filterMap_eq_map entries
    rw [containerOutcome_eq, hkept]
  · change (containerOutcome build members).isOk = _
    rw [isOk_containerOutcome, isEmpty_memberFaults, List.all_map, List.all_map]
    rfl

end

/-! ## All levels -/

section

variable {checker : Checker} {rule : Rule}

/-- A tree over one rule is its container filter. -/
theorem runWith_tree (checker : Checker) (step : Option Step) (rule : Rule) (value : Value) :
    checker.runWith step (Rule.arraysOf rule).tree value =
      checkContainer step (treeShape rule) (Rule.arraysOf rule).tree value :=
  runWith_ofFilter checker step (.arrays (treeShape rule)) value

/-- A tree over a plain rule is a function of the value. -/
theorem run_tree_settles (hplain : rule.isPlain = true) (levels : Nat) (value : Value) :
    Settles (fun _ => True) (checker.run levels (Rule.arraysOf rule).tree value) := by
  have htree : (Rule.arraysOf rule).tree.Every (SettlesFilter (fun _ => True) checker) := by
    refine .intro (fun filter hfilter => ?_) (fun filter hfilter below hbelow => ?_)
    · cases List.mem_singleton.1 hfilter
      trivial
    · cases List.mem_singleton.1 hfilter
      cases List.mem_singleton.1 hbelow
      exact .of_isPlain hplain _ checker
  exact run_settles levels htree value

/-- With one more level, a container is checked by the tree rule or the rule for leaves, as its
members ask. -/
theorem run_tree_succ (hplain : rule.isPlain = true) {world : World}
    (hrefuses : ∀ container : Value, container.isContainer = true →
      (checker.check container rule world).1.isOk = false)
    (levels : Nat) {value : Value} (hcontainer : value.isContainer = true)
    (hleaves : ∀ leaf ∈ value.leaves, isNested leaf = false) :
    let tree := (Rule.arraysOf rule).tree
    (checker.run (levels + 1) tree value world).1 =
      containerOutcome (rebuilt value) ((memberEntries value).map fun entry =>
        .ofOutcome entry.1 (checker.run levels
          (if entry.2.isContainer then tree else rule) entry.2 world).1) := by
  intro tree
  let visit : Visit := fun rule member => (checker.run levels rule member world).1
  have hstep : StepSettled (fun _ => True) (checker.run levels) visit (treeShape rule) tree := by
    rintro _ (rfl | hmem) member
    · exact (run_tree_settles hplain levels member).settled trivial
    · cases List.mem_singleton.1 hmem
      exact (run_settles levels (.of_isPlain hplain _ checker) member).settled trivial
  have hrun : checker.run (levels + 1) tree value =
      checkContainer (some (checker.run levels)) (treeShape rule) tree value :=
    runWith_tree checker (some (checker.run levels)) rule value
  rw [hrun, checkContainer_apply (isContainer_contents hcontainer),
    contents_of_isContainer hcontainer,
    checkMembers_settled hstep (memberEntries value) world trivial]
  -- No key has a rule of its own, so nothing is missing, and every member is there.
  refine congrArg (containerOutcome (rebuilt value)) ((List.append_nil _).trans ?_)
  refine List.map_congr_left fun entry hentry => ?_
  have hmember : entry.2 ∈ value.members := by
    rw [← map_memberEntries]
    exact List.mem_map_of_mem hentry
  refine presentMember_treeShape entry.1 (fun hnested => ?_) (fun hleaf => ?_)
  · change (checker.run levels rule entry.2 world).1.isOk = false
    rw [run_of_isPlain hplain]
    exact hrefuses entry.2 hnested
  · refine hleaves entry.2 ((Value.mem_leaves_iff hcontainer).2 ⟨entry.2, hmember, ?_⟩)
    simp [Value.leaves_of_leaf hleaf]

/-- By induction on the levels: a tree comes to what it should, and so do the trees in it. -/
theorem run_tree (hplain : rule.isPlain = true) {world : World}
    (hrefuses : ∀ container : Value, container.isContainer = true →
      (checker.check container rule world).1.isOk = false)
    (levels : Nat) {value : Value} (hcontainer : value.isContainer = true)
    (hleaves : ∀ leaf ∈ value.leaves, isNested leaf = false) :
    TreeOutcome (fun leaf => (checker.check leaf rule world).1) levels value
      (checker.run levels (Rule.arraysOf rule).tree value world).1 := by
  induction levels generalizing value with
  | zero =>
      have hrun : checker.run 0 (Rule.arraysOf rule).tree value =
          checkContainer none (treeShape rule) (Rule.arraysOf rule).tree value :=
        runWith_tree checker none rule value
      rw [hrun]
      unfold checkContainer
      rw [entries?_eq (isContainer_contents hcontainer)]
      exact treeOutcome_zero hcontainer "Nesting is too deep"
  | succ levels ih =>
      let answer : Value → Outcome := fun member => (checker.run levels
        (if member.isContainer then (Rule.arraysOf rule).tree else rule) member world).1
      have hmembers : ∀ member ∈ value.members, TreeOutcome
          (fun leaf => (checker.check leaf rule world).1) levels member (answer member) := by
        -- Containers among the members are trees with one level less; leaves have no levels.
        intro member hmember
        cases hnested : member.isContainer with
        | true =>
            have hanswer : answer member =
                (checker.run levels (Rule.arraysOf rule).tree member world).1 := by
              simp [answer, hnested]
            rw [hanswer]
            refine ih hnested fun leaf hleaf => hleaves leaf ?_
            exact (Value.mem_leaves_iff hcontainer).2 ⟨member, hmember, hleaf⟩
        | false =>
            have hanswer : answer member = (checker.check member rule world).1 := by
              simp [answer, hnested, run_of_isPlain hplain]
            rw [hanswer]
            exact treeOutcome_of_leaf hnested
      rw [run_tree_succ hplain hrefuses levels hcontainer hleaves]
      have houtcome := containerOutcome_map (rebuilt value) answer (memberEntries value)
      refine treeOutcome_succ hcontainer hmembers (houtcome.1.trans ?_) (houtcome.2.trans ?_)
      · exact rebuilt_map hcontainer fun member => (answer member).value
      · rw [map_memberEntries]

end

/-- A container is checked by a rule for its leaves, which refuses every container.  Up to the
greatest depth the containers keep their kinds and keys, every leaf becomes what the rule makes of
it, and there is a fault exactly if the rule refuses a leaf.  Beyond that there is always a fault,
and the containers that lie too deep become empty maps.  The world stays as it is. -/
theorem tree_exact {checker : Checker} {rule : Rule} {value : Value} {world : World}
    (plain : rule.isPlain = true)
    (refuses : ∀ container : Value, container.isContainer = true →
      (checker.check container rule world).1.isOk = false)
    (container : value.isContainer = true)
    (leaves : ∀ leaf ∈ value.leaves, isNested leaf = false) :
    let read : Value → Outcome := fun leaf => (checker.check leaf rule world).1
    let result := checker.check value (Rule.arraysOf rule).tree world
    result.2 = world ∧
      (value.nesting ≤ checker.settings.maxDepth →
        result.1.value = value.mapLeaves (fun leaf => (read leaf).value) ∧
          (result.1.isOk = false ↔ ∃ leaf ∈ value.leaves, (read leaf).isOk = false)) ∧
      (checker.settings.maxDepth < value.nesting →
        result.1.value = value.cut (fun leaf => (read leaf).value) checker.settings.maxDepth ∧
          result.1.isOk = false) := by
  intro read result
  have hworld : result.2 = world := by
    rcases run_tree_settles plain checker.settings.maxDepth value with ⟨outcome, hsettled⟩
    exact congrArg Prod.snd (hsettled world trivial)
  rcases run_tree plain refuses checker.settings.maxDepth container leaves with ⟨hvalue, hrefused⟩
  refine ⟨hworld, fun hshallow => ⟨?_, ?_⟩, fun hdeep => ⟨hvalue, hrefused.2 (.inl hdeep)⟩⟩
  · exact hvalue.trans (Value.cut_of_nesting_le hshallow)
  · refine hrefused.trans (or_iff_right ?_)
    exact Nat.not_lt.2 hshallow

/-- With two levels, a tree of two levels is checked to its leaves, and one of three is cut off. -/
theorem tree_exact_two_levels :
    let settings : Settings := { Settings.standard with maxDepth := 2 }
    let checker : Checker := { Checker.bare with settings := settings }
    let shallow := Value.map [("a", .str "1"), ("b", .list [.str "x", .int 7])]
    let deep := Value.list [.list [.str "2", .map []], .str "1"]
    let check := fun value => (checker.check value (Rule.arraysOf Rule.int).tree World.bare).1
    Rule.int.isPlain = true ∧
      (∀ container : Value, container.isContainer = true →
        (checker.check container Rule.int World.bare).1.isOk = false) ∧
      shallow.isContainer = true ∧ (∀ leaf ∈ shallow.leaves, isNested leaf = false) ∧
      shallow.nesting ≤ checker.settings.maxDepth ∧
      (check shallow).value = .map [("a", .int 1), ("b", .list [.int 0, .int 7])] ∧
      (check shallow).isOk = false ∧
      deep.isContainer = true ∧ (∀ leaf ∈ deep.leaves, isNested leaf = false) ∧
      checker.settings.maxDepth < deep.nesting ∧
      (check deep).value = .list [.list [.int 2, .map []], .int 1] ∧ (check deep).isOk = false := by
  intro settings checker shallow deep check
  have hrefuses : ∀ container : Value, container.isContainer = true →
      (checker.check container Rule.int World.bare).1.isOk = false := by
    intro container hcontainer
    cases container with
    | list _ => rfl
    | map _ => rfl
    | _ => cases hcontainer
  have hshallow : shallow.nesting ≤ 2 := by decide
  have hdeep : 2 < deep.nesting := by decide
  have hleaves : ∀ leaf ∈ shallow.leaves, isNested leaf = false := by decide
  have hleaves' : ∀ leaf ∈ deep.leaves, isNested leaf = false := by decide
  rcases (tree_exact rfl hrefuses rfl hleaves).2.1 hshallow with ⟨hvalue, hrefused⟩
  rcases (tree_exact rfl hrefuses rfl hleaves').2.2 hdeep with ⟨hcut, hrefused'⟩
  refine ⟨rfl, hrefuses, rfl, hleaves, hshallow, hvalue.trans rfl, ?_, rfl, hleaves', hdeep,
    hcut.trans rfl, hrefused'⟩
  exact hrefused.2 ⟨.str "x", .tail _ (.head _), rfl⟩

end Assay.Checker
