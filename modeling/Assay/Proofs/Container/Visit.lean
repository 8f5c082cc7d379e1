import Assay.Proofs.Rule.Occurrence
import Assay.Proofs.World.Settled

/-!
# Visits — the rule that each member of a container meets

Where the world does not matter, a step to the next level is a function from rules and values to
outcomes, a visit.  Then a container can be read member by member.

* `governing?` is the rule that a member is checked by, `stays` tells whether there is one;
* `keptOf` and `faultsOf` list what a container keeps and what is wrong with it, by keys;
* `checkContainer_settled` states that checking a container comes to these lists.
-/

namespace Assay.Checker

/-- What rules make of values at the next level. -/
abbrev Visit := Rule → Value → Outcome

/-! ## The entries of a container -/

/-- The members of a list under their indices, or those of a map. -/
def memberEntries : Value → List (String × Value)
  | .list items => (Value.indexKeys items).zip items
  | .map entries => entries
  | _ => []

/-- A container of the same kind with other entries; a list drops their keys. -/
def rebuilt (container : Value) (entries : List (String × Value)) : Value :=
  match container with
  | .list _ => .list (entries.map (·.2))
  | _ => .map entries

/-- The entries of a container are those of its contents, and so is what is rebuilt. -/
theorem entries?_eq {value : Value} (h : value.contents.isContainer = true) :
    entries? value = some (memberEntries value.contents, rebuilt value.contents) := by
  unfold entries?
  cases hcontents : value.contents with
  | list items => rfl
  | map entries => rfl
  | _ => simp [hcontents, Value.isContainer] at h

theorem contents_of_isContainer {value : Value} (h : value.isContainer = true) :
    value.contents = value := by
  cases value with
  | values _ _ => cases h
  | _ => rfl

theorem isContainer_contents {value : Value} (h : value.isContainer = true) :
    value.contents.isContainer = true := by
  rw [contents_of_isContainer h, h]

/-! ## Members that are there -/

section Present

variable (visit : Visit) (shape : Shape Rule) (whole : Rule) (key : String) (member : Value)

def isForbidden : Bool := (shape.members.lookup key).any (·.forbidden)

/-- The member is checked by the whole rule: it is a container in a tree, and no rule for other
members accepts it. -/
def turnsBack : Bool :=
  shape.tree && isNested member && shape.others.all fun others => !(visit others member).isOk

/-- The rule that a member is checked by, if there is one. -/
def governing? : Option Rule :=
  match shape.members.lookup key with
  | some rule => if rule.forbidden then none else some rule
  | none => if turnsBack visit shape member then some whole else shape.others

/-- A member stays if its own rule allows it, or without one, if there is a rule for other members
or it is a container in a tree. -/
def stays : Bool :=
  match shape.members.lookup key with
  | some rule => !rule.forbidden
  | none => shape.others.isSome || (shape.tree && isNested member)

/-- What is wrong with a member that is there. -/
def presentFault? : Option Fault :=
  if isForbidden shape key then some (forbiddenFault key)
  else (governing? visit shape whole key member).bind fun rule => (visit rule member).fault

/-- The member as a visit leaves it. -/
def presentMember : Member :=
  ⟨key, (governing? visit shape whole key member).map fun rule => (visit rule member).value,
    presentFault? visit shape whole key member⟩

/-- A member stays exactly if a rule governs it. -/
theorem governing?_isSome :
    (governing? visit shape whole key member).isSome = stays shape key member := by
  unfold governing? stays
  cases shape.members.lookup key with
  | some rule => cases hforbidden : rule.forbidden <;> simp [hforbidden]
  | none =>
      unfold turnsBack
      cases shape.others with
      | none => cases shape.tree <;> cases isNested member <;> rfl
      | some others =>
          simp only [Option.isSome_some, Bool.true_or]
          split <;> rfl

end Present

/-! ## The container as a whole -/

section Whole

variable (visit : Visit) (shape : Shape Rule) (whole : Rule) (entries : List (String × Value))

/-- The entries that are kept: members that stay, and then those that were missing. -/
def keptOf : List (String × Value) :=
  (entries.filterMap fun entry =>
      (governing? visit shape whole entry.1 entry.2).map fun rule =>
        (entry.1, (visit rule entry.2).value)) ++
    (missing shape (Entries.keys entries)).map fun entry =>
      (entry.1, (visit entry.2 .null).value)

/-- The faults by keys, in the order of `keptOf`. -/
def faultsOf : List (String × Fault) :=
  (entries.filterMap fun entry =>
      (presentFault? visit shape whole entry.1 entry.2).map (entry.1, ·)) ++
    (missing shape (Entries.keys entries)).filterMap fun entry =>
      if (visit entry.2 .null).isOk then none else some (entry.1, requiredFault)

/-- The fault of a container, if a member has one. -/
def aggregate? (faults : List (String × Fault)) : Option Fault :=
  if faults.isEmpty then none else some (containerFault faults)

/-- A missing member as a visit to null leaves it. -/
def absentMember (key : String) (rule : Rule) : Member :=
  ⟨key, some (visit rule .null).value, (visit rule .null).fault.map fun _ => requiredFault⟩

def visitedMembers : List Member :=
  (entries.map fun entry => presentMember visit shape whole entry.1 entry.2) ++
    (missing shape (Entries.keys entries)).map fun entry => absentMember visit entry.1 entry.2

/-- The entries of the visited members are those that are kept. -/
theorem keptEntries_visitedMembers :
    keptEntries (visitedMembers visit shape whole entries) = keptOf visit shape whole entries := by
  simp [keptEntries, visitedMembers, keptOf, presentMember, absentMember, List.filterMap_append,
    Function.comp_def]

/-- The faults of the visited members are those that are recorded. -/
theorem memberFaults_visitedMembers :
    memberFaults (visitedMembers visit shape whole entries) =
      faultsOf visit shape whole entries := by
  have habsent : ∀ entry : String × Rule,
      ((absentMember visit entry.1 entry.2).fault.map (entry.1, ·)) =
        if (visit entry.2 .null).isOk then none else some (entry.1, requiredFault) := by
    intro entry
    cases hfault : (visit entry.2 .null).fault <;> simp [absentMember, Outcome.isOk, hfault]
  simp only [memberFaults, visitedMembers, faultsOf, List.filterMap_append, List.filterMap_map,
    Function.comp_def, presentMember, ← habsent]
  rfl

/-- The keys of what is kept are those of the members that stay, and then the missing ones. -/
theorem keys_keptOf :
    Entries.keys (keptOf visit shape whole entries) =
      (entries.filter fun entry => stays shape entry.1 entry.2).map (·.1) ++
        (missing shape (Entries.keys entries)).map (·.1) := by
  unfold keptOf
  rw [Entries.keys, List.map_append, List.map_map]
  congr 1
  induction entries with
  | nil => rfl
  | cons entry rest ih =>
      have hstays := governing?_isSome visit shape whole entry.1 entry.2
      rw [List.filterMap_cons, List.filter_cons, ← hstays]
      cases governing? visit shape whole entry.1 entry.2 with
      | none => exact ih
      | some rule => exact congrArg (entry.1 :: ·) ih

theorem containerOutcome_eq (build : List (String × Value) → Value) (members : List Member) :
    containerOutcome build members =
      ⟨build (keptEntries members), aggregate? (memberFaults members)⟩ := by
  unfold containerOutcome aggregate?
  cases hfaults : memberFaults members <;> rfl

end Whole

/-! ## Steps that settle -/

variable {admits : World → Prop} {step : Step} {visit : Visit} {shape : Shape Rule} {whole : Rule}

/-- The step settles, for the rules that members can meet. -/
def StepSettled (admits : World → Prop) (step : Step) (visit : Visit) (shape : Shape Rule)
    (whole : Rule) : Prop :=
  ∀ rule, rule = whole ∨ rule ∈ shape.rules → ∀ value,
    Settled admits (step rule value) (visit rule value)

/-- What the rule for other members leaves, before the whole rule may take over. -/
def firstAttempt (visit : Visit) (shape : Shape Rule) (key : String) (member : Value) : Member :=
  match shape.others with
  | some others => .ofOutcome key (visit others member)
  | none => ⟨key, none, none⟩

/-- The whole rule takes over for a container in a tree that no other rule accepts. -/
theorem turnsBack_eq (visit : Visit) (shape : Shape Rule) (key : String) (member : Value) :
    (shape.tree && isNested member &&
      (shape.others.isNone || (firstAttempt visit shape key member).fault.isSome)) =
      turnsBack visit shape member := by
  unfold firstAttempt turnsBack
  cases shape.others with
  | none => simp
  | some others => cases hfault : (visit others member).fault <;>
      simp [Member.ofOutcome, Outcome.isOk, hfault]

/-- A member without a rule of its own keeps what the whole rule or the first attempt leaves. -/
theorem presentMember_of_lookup_eq_none {key : String}
    (hkey : shape.members.lookup key = none) (member : Value) :
    presentMember visit shape whole key member =
      if turnsBack visit shape member then .ofOutcome key (visit whole member)
      else firstAttempt visit shape key member := by
  unfold presentMember presentFault? isForbidden governing? firstAttempt
  rw [hkey]
  cases turnsBack visit shape member with
  | true => rfl
  | false => cases shape.others <;> rfl

/-- A member for which no rule is named is settled by the visit. -/
theorem checkOther_settled (h : StepSettled admits step visit shape whole) {key : String}
    (hkey : shape.members.lookup key = none) (member : Value) :
    Settled admits (checkOther step shape whole key member)
      (presentMember visit shape whole key member) := by
  rw [presentMember_of_lookup_eq_none hkey]
  have hrest : Settled admits
      (if shape.tree && isNested member &&
          (shape.others.isNone || (firstAttempt visit shape key member).fault.isSome) then
        step whole member >>= fun outcome => pure (Member.ofOutcome key outcome)
      else pure (firstAttempt visit shape key member))
      (if turnsBack visit shape member then .ofOutcome key (visit whole member)
      else firstAttempt visit shape key member) := by
    rw [turnsBack_eq]
    cases turnsBack visit shape member with
    | true => exact .bind (h whole (.inl rfl) member) (.pure _)
    | false => exact .pure _
  -- The rule for other members, if there is one, is tried before the test for a second try.
  unfold checkOther
  unfold firstAttempt at hrest ⊢
  cases hothers : shape.others with
  | none =>
      rw [hothers] at hrest
      exact .bind (.pure _) hrest
  | some others =>
      rw [hothers] at hrest
      have hvisit := h others (.inr (Shape.mem_rules_of_others hothers)) member
      exact .bind hvisit (.bind (.pure _) hrest)

/-- A member that is there is settled by the visit. -/
theorem checkPresent_settled (h : StepSettled admits step visit shape whole) (key : String)
    (member : Value) :
    Settled admits (checkPresent step shape whole key member)
      (presentMember visit shape whole key member) := by
  unfold checkPresent
  cases hkey : shape.members.lookup key with
  | none => exact checkOther_settled h hkey member
  | some rule =>
      unfold presentMember presentFault? isForbidden governing?
      rw [hkey]
      cases hforbidden : rule.forbidden with
      | true =>
          simp only [Option.any_some, hforbidden, if_true, Option.map_none]
          exact .pure _
      | false =>
          have hvisit := h rule (.inr (Shape.mem_rules_of_lookup hkey)) member
          simp only [Option.any_some, hforbidden]
          exact .bind hvisit (.pure _)

/-- All members are settled by the visit. -/
theorem checkMembers_settled (h : StepSettled admits step visit shape whole)
    (entries : List (String × Value)) :
    Settled admits (checkMembers step shape whole entries)
      (visitedMembers visit shape whole entries) := by
  have hpresent : Settled admits
      (entries.mapM fun entry => checkPresent step shape whole entry.1 entry.2)
      (entries.map fun entry => presentMember visit shape whole entry.1 entry.2) :=
    .mapM fun entry _ => checkPresent_settled h entry.1 entry.2
  have habsent : Settled admits
      ((missing shape (Entries.keys entries)).mapM fun entry =>
        checkMissing step entry.1 entry.2)
      ((missing shape (Entries.keys entries)).map fun entry =>
        absentMember visit entry.1 entry.2) := by
    refine .mapM fun entry hentry => ?_
    have hmem := Shape.mem_rules_of_mem (List.mem_filter.1 hentry).1
    exact .bind (h entry.2 (.inr hmem) .null) (.pure _)
  exact .bind hpresent (.bind habsent (.pure _))

/-- A container of settled members settles at what its members leave. -/
theorem checkContainer_settled (h : StepSettled admits step visit shape whole) {value : Value}
    (hcontainer : value.contents.isContainer = true) :
    Settled admits (checkContainer (some step) shape whole value)
      ⟨rebuilt value.contents (keptOf visit shape whole (memberEntries value.contents)),
        aggregate? (faultsOf visit shape whole (memberEntries value.contents))⟩ := by
  rw [← keptEntries_visitedMembers, ← memberFaults_visitedMembers, ← containerOutcome_eq]
  unfold checkContainer
  rw [entries?_eq hcontainer]
  exact .bind (checkMembers_settled h _) (.pure _)

end Assay.Checker
