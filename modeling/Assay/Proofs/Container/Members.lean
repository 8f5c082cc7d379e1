import Assay.Proofs.Container.Visit

/-!
# Members — what is known of members in any world

A member is recorded under its key.  It comes from a rule, or it is forbidden, or it is dropped;
a missing one comes from its rule applied to null.

* `checkPresent_ensures` and `checkMissing_ensures` carry a property of outcomes over to members;
* `checkMembers_ensures` carries it over to all members of a container, and `memberFaults_ensures`
  to the faults that are recorded for them;
* `lookup_filterMap_key` finds what was recorded under a key.
-/

namespace Assay.Checker

variable {step : Step} {shape : Shape Rule} {whole : Rule} {post : Member → Prop}

/-! ## One member -/

theorem checkOther_ensures {key : String} {member : Value} (hdropped : post ⟨key, none, none⟩)
    (hstep : ∀ rule, rule = whole ∨ rule ∈ shape.rules →
      Ensures (step rule member) fun outcome => post (.ofOutcome key outcome)) :
    Ensures (checkOther step shape whole key member) post := by
  have hrest : ∀ first, post first → Ensures
      (if shape.tree && isNested member && (shape.others.isNone || first.fault.isSome) then
        step whole member >>= fun outcome => pure (Member.ofOutcome key outcome)
      else pure first) post := by
    intro first hfirst
    split
    · exact .bind (hstep whole (.inl rfl)) fun _ houtcome => .pure houtcome
    · exact .pure hfirst
  unfold checkOther
  cases hothers : shape.others with
  | none =>
      rw [hothers] at hrest
      exact hrest _ hdropped
  | some others =>
      rw [hothers] at hrest
      refine .bind (hstep others (.inr (Shape.mem_rules_of_others hothers))) ?_
      intro outcome houtcome
      exact hrest _ houtcome

/-- A member that is there is forbidden, dropped, or checked at the next level. -/
theorem checkPresent_ensures {key : String} {member : Value}
    (hforbidden : isForbidden shape key = true → post ⟨key, none, some (forbiddenFault key)⟩)
    (hdropped : post ⟨key, none, none⟩)
    (hstep : ∀ rule, rule = whole ∨ rule ∈ shape.rules →
      Ensures (step rule member) fun outcome => post (.ofOutcome key outcome)) :
    Ensures (checkPresent step shape whole key member) post := by
  unfold checkPresent
  cases hkey : shape.members.lookup key with
  | none => exact checkOther_ensures hdropped hstep
  | some rule =>
      have hown := hstep rule (.inr (Shape.mem_rules_of_lookup hkey))
      change Ensures (if rule.forbidden then _ else _) post
      by_cases hrefused : rule.forbidden = true
      · rw [if_pos hrefused]
        exact .pure (hforbidden (by simp [isForbidden, hkey, hrefused]))
      · rw [if_neg hrefused]
        exact .bind hown fun _ houtcome => .pure houtcome

/-- A missing member is what its rule makes of null. -/
theorem checkMissing_ensures {key : String} {rule : Rule}
    (hstep : Ensures (step rule .null) fun outcome =>
      post ⟨key, some outcome.value, outcome.fault.map fun _ => requiredFault⟩) :
    Ensures (checkMissing step key rule) post :=
  .bind hstep fun _ houtcome => .pure houtcome

theorem checkPresent_key (key : String) (member : Value) :
    Ensures (checkPresent step shape whole key member) (·.key = key) :=
  checkPresent_ensures (fun _ => rfl) rfl fun _ _ => .of_forall (fun _ => rfl) _

theorem checkMissing_key (key : String) (rule : Rule) :
    Ensures (checkMissing step key rule) (·.key = key) :=
  checkMissing_ensures (.of_forall (fun _ => rfl) _)

/-! ## All members -/

/-- A key that is missing is not among those that are there. -/
theorem not_mem_of_mem_missing {keys : List String} {entry : String × Rule}
    (h : entry ∈ missing shape keys) : entry.1 ∉ keys := by
  have hmissing := (List.mem_filter.1 h).2
  simp only [Bool.and_eq_true, Bool.not_eq_true'] at hmissing
  intro hmem
  rw [List.contains_iff_mem.2 hmem] at hmissing
  cases hmissing.2

/-- What holds of every present and every missing member holds of all members. -/
theorem checkMembers_ensures {entries : List (String × Value)}
    (hpresent : ∀ entry ∈ entries, Ensures (checkPresent step shape whole entry.1 entry.2) post)
    (habsent : ∀ entry ∈ missing shape (Entries.keys entries),
      Ensures (checkMissing step entry.1 entry.2) post) :
    Ensures (checkMembers step shape whole entries) fun members =>
      ∀ member ∈ members, post member := by
  refine .bind (.mapM hpresent) fun present hpost => ?_
  refine .bind (.mapM habsent) fun absent hpost' => ?_
  refine .pure fun member hmember => ?_
  rcases List.mem_append.1 hmember with hmem | hmem
  · exact hpost member hmem
  · exact hpost' member hmem

/-- What holds of the faults that the step reports for members, and of those for members that must
not or must be there, holds of all faults that are recorded. -/
theorem memberFaults_ensures {p : String → Fault → Prop} {entries : List (String × Value)}
    (hforbidden : ∀ entry ∈ entries, p entry.1 (forbiddenFault entry.1))
    (hstep : ∀ entry ∈ entries, ∀ rule, rule = whole ∨ rule ∈ shape.rules →
      Ensures (step rule entry.2) fun outcome =>
        ∀ fault, outcome.fault = some fault → p entry.1 fault)
    (hrequired : ∀ entry ∈ missing shape (Entries.keys entries), p entry.1 requiredFault) :
    Ensures (checkMembers step shape whole entries) fun members =>
      ∀ entry ∈ memberFaults members, p entry.1 entry.2 := by
  have hmembers : Ensures (checkMembers step shape whole entries) fun members =>
      ∀ member ∈ members, ∀ fault, member.fault = some fault → p member.key fault := by
    refine checkMembers_ensures (fun entry hentry => ?_) (fun entry hentry => ?_)
    · refine checkPresent_ensures (fun _ => ?_) ?_ (hstep entry hentry)
      · intro fault hfault
        cases hfault
        exact hforbidden entry hentry
      · intro fault hfault
        cases hfault
    · refine checkMissing_ensures (.of_forall (fun outcome => ?_) _)
      intro fault hfault
      rcases Option.map_eq_some_iff.1 hfault with ⟨_, _, rfl⟩
      exact hrequired entry hentry
  -- What is recorded for a container are the faults of its members.
  refine hmembers.mono fun members h entry hentry => ?_
  rcases List.mem_filterMap.1 hentry with ⟨member, hmember, hfault⟩
  rcases Option.map_eq_some_iff.1 hfault with ⟨fault, hsome, rfl⟩
  exact h member hmember fault hsome

/-- Only a container has entries, and they are those of its contents. -/
theorem isContainer_of_entries? {value : Value} {entries : List (String × Value)}
    {build : List (String × Value) → Value} (h : entries? value = some (entries, build)) :
    value.contents.isContainer = true ∧ entries = memberEntries value.contents := by
  have hcontainer : value.contents.isContainer = true := by
    unfold entries? at h
    cases hcontents : value.contents with
    | list items => rfl
    | map entries => rfl
    | _ => simp [hcontents] at h
  rw [entries?_eq hcontainer] at h
  cases h
  exact ⟨hcontainer, rfl⟩

/-- What a container ensures follows from what is recorded for its members: it is accepted, or it is
refused as a whole, or with the faults of its members. -/
theorem checkContainer_ensures {next : Option Step} {value : Value} {p : Outcome → Prop}
    (hok : ∀ result, p (.ok result)) (hrefused : ∀ template, p (noContainer template))
    (hmembers : ∀ step ∈ next, value.contents.isContainer = true →
      Ensures (checkMembers step shape whole (memberEntries value.contents)) fun members =>
        ∀ result, p (.fail result (containerFault (memberFaults members)))) :
    Ensures (checkContainer next shape whole value) p := by
  unfold checkContainer
  cases hentries : entries? value with
  | none => exact .pure (hrefused _)
  | some container =>
      rcases container with ⟨entries, build⟩
      rcases isContainer_of_entries? hentries with ⟨hcontainer, rfl⟩
      cases next with
      | none => exact .pure (hrefused _)
      | some step =>
          refine .bind (hmembers step rfl hcontainer) fun members hfaults => .pure ?_
          rw [containerOutcome_eq]
          unfold aggregate?
          split
          · exact hok _
          · exact hfaults _

/-- The outcome of a container in a world, given its members there. -/
theorem checkContainer_apply {value : Value} (hcontainer : value.contents.isContainer = true)
    (world : World) :
    (checkContainer (some step) shape whole value world).1 =
      containerOutcome (rebuilt value.contents)
        (checkMembers step shape whole (memberEntries value.contents) world).1 := by
  unfold checkContainer
  rw [entries?_eq hcontainer]
  rfl

/-! ## What is recorded under a key -/

variable {α : Type}

/-- Among members with other keys, what is selected of a member is found under its key. -/
theorem lookup_filterMap_key {select : Member → Option α} {before after : List Member}
    {member : Member} {key : String} (hkey : member.key = key)
    (hbefore : ∀ other ∈ before, other.key ≠ key) (hafter : ∀ other ∈ after, other.key ≠ key) :
    ((before ++ member :: after).filterMap fun other =>
      (select other).map (other.key, ·)).lookup key = select member := by
  have hnone : ∀ members : List Member, (∀ other ∈ members, other.key ≠ key) →
      (members.filterMap fun other => (select other).map (other.key, ·)).lookup key = none := by
    intro members hmembers
    rw [List.lookup_eq_none_iff]
    intro entry hentry
    rcases List.mem_filterMap.1 hentry with ⟨other, hother, hselect⟩
    rcases Option.map_eq_some_iff.1 hselect with ⟨_, _, rfl⟩
    simpa using Ne.symm (hmembers other hother)
  rw [List.filterMap_append, List.lookup_append, hnone before hbefore, Option.none_or,
    List.filterMap_cons]
  cases hselect : select member with
  | none => simpa using hnone after hafter
  | some a => simp [hkey]

/-- The child of an aggregate is the fault of its member. -/
theorem aggregate?_child? (faults : List (String × Fault)) (key : String) :
    (aggregate? faults).bind (·.child? key) = faults.lookup key := by
  unfold aggregate?
  cases faults <;> rfl

/-! ## Whether anything was recorded -/

/-- A container is accepted if none of its members has a fault. -/
theorem isOk_containerOutcome (build : List (String × Value) → Value) (members : List Member) :
    (containerOutcome build members).isOk = (memberFaults members).isEmpty := by
  unfold containerOutcome
  cases memberFaults members <;> rfl

theorem isEmpty_memberFaults (members : List Member) :
    (memberFaults members).isEmpty = members.all (·.fault.isNone) := by
  induction members with
  | nil => rfl
  | cons member rest ih =>
      unfold memberFaults at ih ⊢
      cases hfault : member.fault <;> simp [hfault, ih]

end Assay.Checker
