import Assay.Proofs.Checker.Depth
import Assay.Proofs.Container.Members
import Assay.Rule.Typed

/-!
# Required members — what stands in for a member that is missing

The rule of a missing member that has to be there is applied to null, in the world that the members
before it leave.  Only if it refuses null is the member reported.

* `probeWorld` is that world;
* `arrays_required_iff` states what is kept and what is reported under the missing key;
* `arrays_required_null` is a member that is missed by nobody.
-/

namespace Assay.Checker

variable {α β : Type}

/-- The first entry with a key parts its list in two. -/
theorem eq_append_of_lookup {entries : List (String × α)} {key : String} {a : α}
    (h : entries.lookup key = some a) :
    ∃ later, entries = entries.takeWhile (·.1 != key) ++ (key, a) :: later := by
  induction entries with
  | nil => simp at h
  | cons entry rest ih =>
      rcases entry with ⟨k, b⟩
      by_cases hkey : k = key
      · subst hkey
        have : b = a := by simpa using h
        subst this
        exact ⟨rest, by simp⟩
      · have hrest : rest.lookup key = some a := by
          rw [List.lookup_cons, beq_false_of_ne (Ne.symm hkey)] at h
          exact h
        rcases ih hrest with ⟨later, hlater⟩
        refine ⟨later, ?_⟩
        rw [List.takeWhile_cons_of_pos (by simpa using hkey), List.cons_append, ← hlater]

/-- A run over a list passes the world on at every element. -/
theorem mapM_split (f : α → StateM World β) (before after : List α) (a : α) (world : World) :
    ((before ++ a :: after).mapM f world).1 =
      (before.mapM f world).1 ++ (f a (before.mapM f world).2).1 ::
        (after.mapM f (f a (before.mapM f world).2).2).1 := by
  rw [List.mapM_append, List.mapM_cons]
  rfl

variable (step : Step) (shape : Shape Rule) (whole : Rule) (entries : List (String × Value))

/-- The world in which the rule of a missing key is applied to null: the members that are there, and
the missing ones before it, have been checked. -/
def probeWorld (key : String) (world : World) : World :=
  let present := entries.mapM fun entry => checkPresent step shape whole entry.1 entry.2
  let earlier := (missing shape (Entries.keys entries)).takeWhile (·.1 != key)
  (earlier.mapM (fun entry => checkMissing step entry.1 entry.2) (present world).2).2

variable {step shape whole entries}

/-- Among the missing keys, a required one has its rule. -/
theorem missing_lookup {key : String} {rule : Rule} (own : shape.members.lookup key = some rule)
    (required : rule.required = true) (allowed : rule.forbidden = false)
    (absent : key ∉ Entries.keys entries) :
    (missing shape (Entries.keys entries)).lookup key = some rule := by
  rcases List.lookup_eq_some_iff.1 own with ⟨before, after, hsplit, hbefore⟩
  refine List.lookup_eq_some_iff.2 ?_
  refine ⟨before.filter fun entry =>
      entry.2.required && !entry.2.forbidden && !(Entries.keys entries).contains entry.1,
    after.filter fun entry =>
      entry.2.required && !entry.2.forbidden && !(Entries.keys entries).contains entry.1, ?_, ?_⟩
  · unfold missing
    rw [hsplit, List.filter_append, List.filter_cons_of_pos (by simp [required, allowed, absent])]
  · intro entry hentry
    exact hbefore entry (List.mem_filter.1 hentry).1

/-- What a missing key leaves, between members with other keys. -/
theorem checkMembers_missing (step : Step) (whole : Rule) {key : String} {rule : Rule}
    (distinct : (Entries.keys shape.members).Nodup)
    (own : shape.members.lookup key = some rule) (required : rule.required = true)
    (allowed : rule.forbidden = false) (absent : key ∉ Entries.keys entries) (world : World) :
    ∃ before after, (checkMembers step shape whole entries world).1 =
        before ++
          (checkMissing step key rule (probeWorld step shape whole entries key world)).1 :: after ∧
      (∀ other ∈ before, other.key ≠ key) ∧ ∀ other ∈ after, other.key ≠ key := by
  let present := entries.mapM fun entry => checkPresent step shape whole entry.1 entry.2
  let check := fun entry : String × Rule => checkMissing step entry.1 entry.2
  -- The missing keys are parted at this one, which is checked after those before it.
  have hlookup := missing_lookup own required allowed absent
  rcases eq_append_of_lookup hlookup with ⟨later, hsplit⟩
  let earlier := (missing shape (Entries.keys entries)).takeWhile (·.1 != key)
  have hnodup : ((missing shape (Entries.keys entries)).map (·.1)).Nodup :=
    distinct.sublist ((List.filter_sublist (l := shape.members)).map (·.1))
  have hmembers : (checkMembers step shape whole entries world).1 =
      (present world).1 ++ ((earlier ++ (key, rule) :: later).mapM check (present world).2).1 := by
    rw [← hsplit]
    rfl
  rw [mapM_split, ← List.append_assoc] at hmembers
  refine ⟨_, _, hmembers, ?_, ?_⟩
  · intro other hother
    rcases List.mem_append.1 hother with hmem | hmem
    · -- A member that is there has the key of its entry.
      have hkeys : Ensures present fun members =>
          ∀ member ∈ members, member.key ∈ Entries.keys entries := by
        refine .mapM fun entry hentry => (checkPresent_key entry.1 entry.2).mono ?_
        intro member hkey
        rw [hkey]
        exact List.mem_map_of_mem hentry
      intro hkey
      exact absent (hkey ▸ hkeys world other hmem)
    · have hkeys : Ensures (earlier.mapM check) fun members =>
          ∀ member ∈ members, member.key ≠ key := by
        refine .mapM fun entry hentry => (checkMissing_key entry.1 entry.2).mono ?_
        intro member hkey
        rw [hkey]
        simpa using List.all_eq_true.1 List.all_takeWhile entry hentry
      exact hkeys _ other hmem
  · -- The keys of rules are distinct, so none of the later ones is this one.
    intro other hother
    have hkeys : Ensures (later.mapM check) fun members =>
        ∀ member ∈ members, member.key ≠ key := by
      refine .mapM fun entry hentry => (checkMissing_key entry.1 entry.2).mono ?_
      intro member hkey hsame
      rw [hsplit, List.map_append, List.map_cons] at hnodup
      have hfresh := (List.nodup_cons.1 (List.nodup_append.1 hnodup).2.1).1
      exact hfresh (List.mem_map.2 ⟨entry, hentry, hkey ▸ hsame⟩)
    exact hkeys _ other hother

/-- Under the key of a missing member that has to be there stands what its rule makes of null.  The
member is reported as required exactly if its rule refuses null, and otherwise not at all.  The keys
of the rules are distinct, as `Entries.ofPairs` leaves them. -/
theorem arrays_required_iff {checker : Checker} {depth : Nat} {world : World} {value : Value}
    {key : String} {rule : Rule} (whole : Rule) (shape : Shape Rule)
    (shallow : depth < checker.settings.maxDepth)
    (container : value.contents.isContainer = true)
    (distinct : (Entries.keys shape.members).Nodup)
    (own : shape.members.lookup key = some rule) (required : rule.required = true)
    (allowed : rule.forbidden = false)
    (absent : key ∉ Entries.keys (memberEntries value.contents)) :
    let step := checker.runAt (depth + 1)
    let entries := memberEntries value.contents
    let probe := (step rule .null (probeWorld step shape whole entries key world)).1
    let outcome := (checker.applyAt depth whole (.arrays shape) value world).1
    let reported := outcome.fault.bind (·.child? key)
    (reported.bind (·.code) = some "required" ↔ probe.isOk = false) ∧
      reported = (if probe.isOk then none else some requiredFault) ∧
      ∃ kept, outcome.value = rebuilt value.contents kept ∧
        kept.lookup key = some probe.value := by
  intro step entries probe outcome reported
  rcases checkMembers_missing step whole distinct own required allowed absent world with
    ⟨before, after, hmembers, hbefore, hafter⟩
  have hkey : (checkMissing step key rule (probeWorld step shape whole entries key world)).1.key =
      key := checkMissing_key key rule _
  have houtcome : outcome =
      ⟨rebuilt value.contents (keptEntries (checkMembers step shape whole entries world).1),
        aggregate? (memberFaults (checkMembers step shape whole entries world).1)⟩ := by
    change (checker.applyAt depth whole (.arrays shape) value world).1 = _
    rw [applyAt_arrays checker shallow, checkContainer_apply container, containerOutcome_eq]
  have hreported : reported = if probe.isOk then none else some requiredFault := by
    change outcome.fault.bind (·.child? key) = _
    rw [houtcome, aggregate?_child?, hmembers]
    refine (lookup_filterMap_key hkey hbefore hafter).trans ?_
    change probe.fault.map (fun _ => requiredFault) = _
    cases hfault : probe.fault <;> simp [Outcome.isOk, hfault]
  refine ⟨?_, hreported, _, congrArg Outcome.value houtcome, ?_⟩
  · rw [hreported]
    cases probe.isOk <;> simp [requiredFault, Fault.new]
  · rw [hmembers]
    exact lookup_filterMap_key hkey hbefore hafter

/-- In a list no index is the key `"b"`, and null is no integer. -/
theorem arrays_required_list :
    let whole := Rule.empty
    let required := Rule.int.requiring
    let members := Entries.ofPairs [("a", Rule.null.requiring), ("b", required)]
    let shape : Shape Rule := ⟨members, none, false⟩
    let input := Value.list [.int 1]
    let outcome := (Checker.bare.applyAt 0 whole (.arrays shape) input World.bare).1
    0 < Checker.bare.settings.maxDepth ∧ input.contents.isContainer = true ∧
      (Entries.keys shape.members).Nodup ∧ shape.members.lookup "b" = some required ∧
      required.required = true ∧ required.forbidden = false ∧
      "b" ∉ Entries.keys (memberEntries input.contents) ∧
      (outcome.fault.bind (·.child? "b")).bind (·.code) = some "required" := by
  intro whole required members shape input outcome
  have hshallow : 0 < Checker.bare.settings.maxDepth := by decide
  have hdistinct : (Entries.keys shape.members).Nodup := Entries.nodup_keys_ofPairs _
  have habsent : "b" ∉ Entries.keys (memberEntries input.contents) := by decide
  refine ⟨hshallow, rfl, hdistinct, rfl, rfl, rfl, habsent, ?_⟩
  have hstated := @arrays_required_iff Checker.bare 0 World.bare input "b" required whole shape
    hshallow rfl hdistinct rfl rfl rfl habsent
  exact hstated.1.2 rfl

/-- Null is kept for a missing member, and nothing is reported, if its rule accepts null. -/
theorem arrays_required_null :
    let rule := Rule.null.requiring
    let shape : Shape Rule := ⟨[("a", rule)], none, false⟩
    rule.required = true ∧ rule.forbidden = false ∧ rule.default = none ∧
      shape.members.lookup "a" = some rule ∧ "a" ∉ Entries.keys (memberEntries (.map [])) ∧
      Checker.bare.applyAt 0 (.ofFilter (.arrays shape)) (.arrays shape) (.map []) World.bare =
        (.ok (.map [("a", .null)]), World.bare) := by
  refine ⟨rfl, rfl, rfl, rfl, ?_, rfl⟩
  decide

end Assay.Checker
