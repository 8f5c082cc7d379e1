import Assay.Members
import Assay.Proofs.Checker.Agreement
import Assay.Proofs.Container.Members
import Assay.Proofs.Fault.Recording
import Assay.Proofs.Value.Place

/-!
# Demand — one member, checked alone or in its container

A member can be asked for alone, or its container is checked by a rule for just this key.  In the
container it lies one level deeper, so that one level more is allowed there.

* `checkContainer_single` gives the outcome of a container with a rule for one key;
* `check_on_demand` states that both ways come to the same.
-/

namespace Assay.Checker

/-! ## A rule for one key -/

section Single

variable {next : Step} {whole rule : Rule} {key : String}

/-- The shape that has a rule for one key and drops all others. -/
def singleShape (key : String) (rule : Rule) : Shape Rule := ⟨[(key, rule)], none, false⟩

/-- The members of entries that are dropped without a fault. -/
def droppedMembers (entries : List (String × Value)) : List Member :=
  entries.map fun entry => ⟨entry.1, none, none⟩

/-- Dropped members leave no entries. -/
theorem keptEntries_droppedMembers (entries : List (String × Value)) :
    keptEntries (droppedMembers entries) = [] := by
  unfold keptEntries droppedMembers
  rw [List.filterMap_map]
  exact List.filterMap_eq_nil_iff.2 fun _ _ => rfl

theorem memberFaults_droppedMembers (entries : List (String × Value)) :
    memberFaults (droppedMembers entries) = [] := by
  unfold memberFaults droppedMembers
  rw [List.filterMap_map]
  exact List.filterMap_eq_nil_iff.2 fun _ _ => rfl

/-- A member under another key is dropped. -/
theorem checkPresent_dropped {other : String} (different : other ≠ key) (member : Value) :
    checkPresent next (singleShape key rule) whole other member = pure ⟨other, none, none⟩ := by
  have hlookup : (singleShape key rule).members.lookup other = none := by
    simp [singleShape, different]
  unfold checkPresent
  rw [hlookup]
  rfl

/-- A shape with a single key drops all entries with other keys. -/
theorem mapM_dropped {entries : List (String × Value)} (absent : key ∉ Entries.keys entries) :
    (entries.mapM fun entry =>
        checkPresent next (singleShape key rule) whole entry.1 entry.2) =
      pure (droppedMembers entries) := by
  unfold droppedMembers
  rw [← List.mapM_pure]
  refine Agree.eq_iff.1 ((agreement Eq).mapM fun entry hentry => Agree.eq_iff.2 ?_)
  refine checkPresent_dropped (fun hsame => absent ?_) entry.2
  exact hsame ▸ List.mem_map_of_mem hentry

/-- Only the member under the key is checked, wherever it lies. -/
theorem checkMembers_single (allowed : rule.forbidden = false) {member : Value}
    {before after : List (String × Value)} (hbefore : key ∉ Entries.keys before)
    (hafter : key ∉ Entries.keys after) :
    checkMembers next (singleShape key rule) whole (before ++ (key, member) :: after) =
      next rule member >>= fun outcome =>
        pure (droppedMembers before ++ .ofOutcome key outcome :: droppedMembers after) := by
  have hmissing : missing (singleShape key rule)
      (Entries.keys (before ++ (key, member) :: after)) = [] := by
    simp [missing, singleShape, Entries.keys]
  have hown : checkPresent next (singleShape key rule) whole key member =
      next rule member >>= fun outcome => pure (.ofOutcome key outcome) := by
    simp [checkPresent, singleShape, allowed]
  unfold checkMembers
  rw [hmissing, List.mapM_append, List.mapM_cons]
  simp only [mapM_dropped hbefore, mapM_dropped hafter, hown, List.mapM_nil, pure_bind,
    bind_assoc, List.append_nil]

/-- The only member that is not dropped makes up the outcome. -/
theorem containerOutcome_single (build : List (String × Value) → Value)
    (before after : List (String × Value)) (outcome : Outcome) :
    containerOutcome build
        (droppedMembers before ++ .ofOutcome key outcome :: droppedMembers after) =
      ⟨build [(key, outcome.value)],
        outcome.fault.map fun fault => containerFault [(key, fault)]⟩ := by
  have hkept : keptEntries
      (droppedMembers before ++ .ofOutcome key outcome :: droppedMembers after) =
        [(key, outcome.value)] := by
    have hbefore := keptEntries_droppedMembers before
    have hafter := keptEntries_droppedMembers after
    unfold keptEntries at hbefore hafter ⊢
    rw [List.filterMap_append, hbefore, List.filterMap_cons, hafter]
    rfl
  have hfaults : memberFaults
      (droppedMembers before ++ .ofOutcome key outcome :: droppedMembers after) =
        (outcome.fault.map (key, ·)).toList := by
    have hbefore := memberFaults_droppedMembers before
    have hafter := memberFaults_droppedMembers after
    unfold memberFaults at hbefore hafter ⊢
    rw [List.filterMap_append, hbefore, List.filterMap_cons, hafter]
    cases hfault : outcome.fault <;> simp [Member.ofOutcome, hfault]
  rw [containerOutcome_eq, hkept, hfaults]
  cases outcome.fault <;> rfl

/-- The container keeps what the step makes of the member, and has its fault as the only child. -/
theorem checkContainer_single (allowed : rule.forbidden = false) {container member : Value}
    (isContainer : container.contents.isContainer = true)
    (distinct : (Entries.keys (memberEntries container.contents)).Nodup)
    (present : (key, member) ∈ memberEntries container.contents) :
    checkContainer (some next) (singleShape key rule) whole container =
      next rule member >>= fun outcome =>
        pure ⟨rebuilt container.contents [(key, outcome.value)],
          outcome.fault.map fun fault => containerFault [(key, fault)]⟩ := by
  rcases List.append_of_mem present with ⟨before, after, hsplit⟩
  rw [hsplit, Entries.keys, List.map_append, List.map_cons] at distinct
  -- Since the keys are distinct, the key is on neither side of its member.
  rcases List.nodup_append.1 distinct with ⟨_, hrest, hapart⟩
  have hbefore : key ∉ Entries.keys before := fun hmem =>
    hapart key hmem key List.mem_cons_self rfl
  have hafter : key ∉ Entries.keys after := (List.nodup_cons.1 hrest).1
  unfold checkContainer
  rw [entries?_eq isContainer, hsplit]
  dsimp only
  rw [checkMembers_single allowed hbefore hafter, bind_assoc]
  simp only [pure_bind, containerOutcome_single]

end Single

/-! ## On demand -/

/-- A list or map has a member under each of its keys. -/
theorem exists_mem_memberEntries {container : Value} {key : String}
    (present : key ∈ container.memberKeys) :
    container.isContainer = true ∧ ∃ member, (key, member) ∈ memberEntries container := by
  rw [← Value.keys_memberEntries] at present
  rcases List.mem_map.1 present with ⟨⟨_, member⟩, hmem, rfl⟩
  refine ⟨?_, member, hmem⟩
  cases container with
  | list _ => rfl
  | map _ => rfl
  | _ => cases hmem

/-- A member that is asked for alone has the value that its container keeps, and the fault that the
container records under its key, if the container is checked by a rule for this key and may be one
level deeper.  The world is left the same.  The fault of the container is what merging the fault of
the member under its key makes of a fault without children. -/
theorem check_on_demand {checker : Checker} {container : Value} {key : String} {rule : Rule}
    (addressable : container.Addressable) (present : key ∈ container.memberKeys)
    (allowed : rule.forbidden = false) (levels : Nat) (identity : Option Nat) (world : World) :
    let lazily := (checker.withDepth levels).checkMember (.values identity container) key rule world
    let eagerly := (checker.withDepth (levels + 1)).check container (.arrays [(key, rule)]) world
    eagerly.1.value = rebuilt container [(key, lazily.1.value)] ∧
      eagerly.1.fault.bind (·.child? key) = lazily.1.fault ∧
      eagerly.1.fault = lazily.1.fault.map (fun fault => containerFault [(key, fault)]) ∧
      (∀ fault, lazily.1.fault = some fault → fault.Keyed →
        eagerly.1.fault = some ((containerFault []).record key fault)) ∧
      eagerly.2 = lazily.2 := by
  intro lazily eagerly
  rcases exists_mem_memberEntries present with ⟨hcontainer, member, hmem⟩
  have hcontents : container.contents = container := contents_of_isContainer hcontainer
  -- Alone, the member is found at its key and checked with all levels.
  have hlazily : lazily = checker.run levels rule member world := by
    have hfound : (Value.values identity container).member? key = some member :=
      Value.member?_of_mem_memberEntries addressable hmem
    calc
      lazily = (checker.withDepth levels).run levels rule
          (((Value.values identity container).member? key).getD .null) world := rfl
      _ = (checker.withDepth levels).run levels rule member world := by
        rw [hfound, Option.getD_some]
      _ = checker.run levels rule member world := by rw [run_withDepth]
  -- In its container, one level is used up when it is reached.
  have heagerly : eagerly =
      (⟨rebuilt container [(key, lazily.1.value)],
        lazily.1.fault.map fun fault => containerFault [(key, fault)]⟩, lazily.2) := by
    have hrun : eagerly = checkContainer (some (checker.run levels)) (singleShape key rule)
        (.arrays [(key, rule)]) container world := by
      calc
        eagerly = checker.run (levels + 1) (.arrays [(key, rule)]) container world :=
          congrFun (run_withDepth checker (levels + 1) (levels + 1) _ container) world
        _ = checker.runWith (some (checker.run levels))
            (.ofFilter (.arrays (singleShape key rule))) container world := rfl
        _ = _ := congrFun (runWith_ofFilter checker _ (.arrays (singleShape key rule)) container)
          world
    have hdistinct : (Entries.keys (memberEntries container)).Nodup := addressable.nodup
    rw [← hcontents] at hcontainer hdistinct hmem
    rw [hrun, checkContainer_single allowed hcontainer hdistinct hmem, hcontents, hlazily]
    rfl
  have hfault : eagerly.1.fault =
      lazily.1.fault.map fun fault => containerFault [(key, fault)] := by rw [heagerly]
  refine ⟨by rw [heagerly], ?_, hfault, ?_, by rw [heagerly]⟩
  · rw [hfault]
    cases lazily.1.fault <;> simp [Fault.child?, containerFault]
  · intro fault hlazy hkeyed
    have hrecord : (containerFault []).record key fault = containerFault [(key, fault)] :=
      Fault.record_fresh (by simp [containerFault, Entries.keys]) hkeyed
    rw [hfault, hlazy, hrecord]
    rfl

/-- The member at the last index of a list, of which a part lies too deep for a single level, and
in the list for two. -/
theorem check_on_demand_deep :
    let rule := Rule.arrays [("a", Rule.arraysOf Rule.int)]
    let container := Value.list [.null, .map [("a", .list [.int 1])]]
    let checker := Checker.bare.withDepth 1
    let below := containerFault [("a", Check.faultOf .arrays "Nesting is too deep")]
    let lazily := checker.checkMember (.values (some 7) container) "1" rule World.bare
    let eagerly := (checker.withDepth 2).check container (.arrays [("1", rule)]) World.bare
    container.Addressable ∧ "1" ∈ container.memberKeys ∧ rule.forbidden = false ∧
      lazily.1 = ⟨.map [("a", .map [])], some below⟩ ∧ below.Keyed ∧
      eagerly.1.value = .list [.map [("a", .map [])]] ∧
      eagerly.1.fault.bind (·.child? "1") = some below ∧
      eagerly.1.fault = some ((containerFault []).record "1" below) := by
  intro rule container checker below lazily eagerly
  have haddressable : container.Addressable := by
    change 2 ≤ 2 ^ 64
    decide
  have hpresent : "1" ∈ container.memberKeys := by decide
  have hlazily : lazily.1 = ⟨.map [("a", .map [])], some below⟩ := rfl
  have hleaf : Fault.Keyed (Check.faultOf .arrays "Nesting is too deep") :=
    .intro List.nodup_nil fun _ hnone => by cases hnone
  have hkeyed : below.Keyed := by
    refine .intro (by decide) fun child hchild => ?_
    cases List.mem_singleton.1 hchild
    exact hleaf
  rcases @check_on_demand checker container "1" rule haddressable hpresent rfl 1 (some 7)
    World.bare with ⟨hvalue, hchild, _, hrecord, _⟩
  exact ⟨haddressable, hpresent, rfl, hlazily, hkeyed, hvalue, hchild, hrecord below rfl hkeyed⟩

end Assay.Checker
