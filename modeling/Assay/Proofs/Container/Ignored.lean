import Assay.Proofs.Checker.Suppression
import Assay.Proofs.Container.Required

/-!
# Ignored codes — what is reported under a key although its rule ignores it

A rule drops the faults whose codes it ignores, as far as they come from its own filters.  The fault
of a member that must not be there, and that of one that must be there, are recorded without asking
the rule of the member.

* `lookup_memberFaults_forbidden`, `unignored_of_allowed` and `lookup_memberFaults_missing` go
  through the three ways in which a fault gets under a key;
* `arrays_ignored_iff` states when an ignored code is reported, and that it is never by a run;
* `arrays_ignored_recorded` is a container with both exceptions.
-/

namespace Assay.Checker

variable {step : Step} {shape : Shape Rule} {whole : Rule} {entries : List (String × Value)}
variable {key : String} {rule : Rule}

/-! ## Keys of members -/

/-- The members are those that are there, and then those that are missing. -/
theorem keys_checkMembers (step : Step) (shape : Shape Rule) (whole : Rule)
    (entries : List (String × Value)) :
    Ensures (checkMembers step shape whole entries) fun members =>
      members.map (·.key) =
        Entries.keys entries ++ Entries.keys (missing shape (Entries.keys entries)) := by
  refine .bind (.map_mapM fun entry _ => checkPresent_key entry.1 entry.2) ?_
  intro present hpresent
  refine .bind (.map_mapM fun entry _ => checkMissing_key entry.1 entry.2) ?_
  intro absent habsent
  refine .pure ?_
  rw [List.map_append, hpresent, habsent]
  rfl

/-- A property of every check of a key that is there is one of all members under the key. -/
theorem checkMembers_at {p : Member → Prop} (present : key ∈ Entries.keys entries)
    (h : ∀ member, Ensures (checkPresent step shape whole key member) p) :
    Ensures (checkMembers step shape whole entries) fun members =>
      ∀ member ∈ members, member.key = key → p member := by
  refine checkMembers_ensures (fun entry _ => ?_) (fun entry hentry => ?_)
  · by_cases hkey : entry.1 = key
    · rw [hkey]
      exact (h entry.2).mono fun member hp _ => hp
    · refine (checkPresent_key entry.1 entry.2).mono fun member hmember hsame => ?_
      exact absurd (hmember.symm.trans hsame) hkey
  · -- A missing member has another key.
    refine (checkMissing_key entry.1 entry.2).mono fun member hmember hsame => ?_
    have habsent := not_mem_of_mem_missing hentry
    rw [← hmember, hsame] at habsent
    exact absurd present habsent

/-! ## What is recorded under a key -/

/-- A member with a rule of its own is refused as forbidden, or checked by that rule. -/
theorem checkPresent_own (own : shape.members.lookup key = some rule) (member : Value) :
    checkPresent step shape whole key member =
      if rule.forbidden then pure ⟨key, none, some (forbiddenFault key)⟩
      else step rule member >>= fun outcome => pure (.ofOutcome key outcome) := by
  unfold checkPresent
  rw [own]

theorem mem_of_lookup_memberFaults {members : List Member} {fault : Fault}
    (h : (memberFaults members).lookup key = some fault) :
    ∃ member ∈ members, member.key = key ∧ member.fault = some fault := by
  rcases List.lookup_eq_some_iff.1 h with ⟨before, after, hsplit, _⟩
  have hmem : (key, fault) ∈ memberFaults members := by simp [hsplit]
  rcases List.mem_filterMap.1 hmem with ⟨member, hmember, hfault⟩
  rcases Option.map_eq_some_iff.1 hfault with ⟨recorded, hrecorded, hpair⟩
  cases hpair
  exact ⟨member, hmember, rfl, hrecorded⟩

/-- The first member under a key that some member has is found. -/
theorem lookup_memberFaults_eq_some {members : List Member} {fault : Fault}
    (hkey : key ∈ members.map (·.key))
    (hfault : ∀ member ∈ members, member.key = key → member.fault = some fault) :
    (memberFaults members).lookup key = some fault := by
  cases hlookup : (memberFaults members).lookup key with
  | some recorded =>
      rcases mem_of_lookup_memberFaults hlookup with ⟨member, hmember, hsame, hrecorded⟩
      exact hrecorded.symm.trans (hfault member hmember hsame)
  | none =>
      rcases List.mem_map.1 hkey with ⟨member, hmember, hsame⟩
      have hmem : (key, fault) ∈ memberFaults members := by
        refine List.mem_filterMap.2 ⟨member, hmember, ?_⟩
        rw [hfault member hmember hsame, hsame]
        rfl
      have hother := List.lookup_eq_none_iff.1 hlookup (key, fault) hmem
      simp at hother

/-- A member that is there and must not be is recorded, whatever its rule ignores. -/
theorem lookup_memberFaults_forbidden (own : shape.members.lookup key = some rule)
    (forbidden : rule.forbidden = true) (present : key ∈ Entries.keys entries) (world : World) :
    (memberFaults (checkMembers step shape whole entries world).1).lookup key =
      some (forbiddenFault key) := by
  refine lookup_memberFaults_eq_some ?_ ?_
  · rw [keys_checkMembers step shape whole entries world]
    exact List.mem_append_left _ present
  · refine checkMembers_at (p := fun member => member.fault = some (forbiddenFault key)) present
      (fun member => ?_) world
    rw [checkPresent_own own, if_pos forbidden]
    exact .pure rfl

/-- What a rule lets through of a member that is there has no code that the rule ignores. -/
theorem unignored_of_allowed (own : shape.members.lookup key = some rule)
    (allowed : rule.forbidden = false) (present : key ∈ Entries.keys entries)
    (hstep : ∀ member, Ensures (step rule member) rule.Lets) {world : World} {fault : Fault}
    (recorded : (memberFaults (checkMembers step shape whole entries world).1).lookup key =
      some fault) {code : String} (hcode : fault.code = some code) : rule.ignores code = false := by
  have hmembers : Ensures (checkMembers step shape whole entries) fun members =>
      ∀ member ∈ members, member.key = key → rule.Lets ⟨.null, member.fault⟩ := by
    refine checkMembers_at present fun member => ?_
    rw [checkPresent_own own, if_neg (by simp [allowed])]
    exact .bind (hstep member) fun outcome houtcome => .pure houtcome
  rcases mem_of_lookup_memberFaults recorded with ⟨member, hmember, hkey, hfault⟩
  exact (hmembers world member hmember hkey fault hfault).2 code hcode

/-- No member has a missing key that need not be there. -/
theorem lookup_memberFaults_needless (distinct : (Entries.keys shape.members).Nodup)
    (own : shape.members.lookup key = some rule) (absent : key ∉ Entries.keys entries)
    (needless : ¬(rule.required = true ∧ rule.forbidden = false)) (world : World) :
    (memberFaults (checkMembers step shape whole entries world).1).lookup key = none := by
  have hnone : key ∉ (checkMembers step shape whole entries world).1.map (·.key) := by
    rw [keys_checkMembers step shape whole entries world]
    intro hmem
    rcases List.mem_append.1 hmem with hpresent | hmissing
    · exact absent hpresent
    · rcases List.mem_map.1 hmissing with ⟨⟨k, other⟩, hentry, rfl⟩
      have hneeded := List.mem_filter.1 hentry
      have hrule : other = rule :=
        Option.some.inj (((Entries.lookup_eq_some_iff_mem distinct).2 hneeded.1).symm.trans own)
      rw [hrule] at hneeded
      simp only [Bool.and_eq_true, Bool.not_eq_true'] at hneeded
      exact needless hneeded.2.1
  cases hlookup : (memberFaults (checkMembers step shape whole entries world).1).lookup key with
  | none => rfl
  | some fault =>
      rcases mem_of_lookup_memberFaults hlookup with ⟨member, hmember, hsame, _⟩
      exact absurd (List.mem_map.2 ⟨member, hmember, hsame⟩) hnone

/-- A missing member that must be there is recorded if its rule refuses null, whatever the rule
ignores. -/
theorem lookup_memberFaults_missing (distinct : (Entries.keys shape.members).Nodup)
    (own : shape.members.lookup key = some rule) (required : rule.required = true)
    (allowed : rule.forbidden = false) (absent : key ∉ Entries.keys entries) (world : World) :
    let probe := (step rule .null (probeWorld step shape whole entries key world)).1
    (memberFaults (checkMembers step shape whole entries world).1).lookup key =
      if probe.isOk then none else some requiredFault := by
  intro probe
  rcases checkMembers_missing step whole distinct own required allowed absent world with
    ⟨before, after, hmembers, hbefore, hafter⟩
  have hkey : (checkMissing step key rule (probeWorld step shape whole entries key world)).1.key =
      key := checkMissing_key key rule _
  rw [hmembers]
  refine (lookup_filterMap_key hkey hbefore hafter).trans ?_
  change probe.fault.map (fun _ => requiredFault) = _
  cases hfault : probe.fault <;> simp [Outcome.isOk, hfault]

/-! ## What is reported under a key -/

/-- Above the greatest depth, a container reports what was recorded for its members. -/
theorem child?_applyAt_arrays {checker : Checker} {depth : Nat} {value : Value}
    (shallow : depth < checker.settings.maxDepth) (whole : Rule) (shape : Shape Rule)
    (container : value.contents.isContainer = true) (key : String) (world : World) :
    (checker.applyAt depth whole (.arrays shape) value world).1.fault.bind (·.child? key) =
      (memberFaults (checkMembers (checker.runAt (depth + 1)) shape whole
        (memberEntries value.contents) world).1).lookup key := by
  rw [applyAt_arrays checker shallow, checkContainer_apply container, containerOutcome_eq,
    aggregate?_child?]

/-- At the greatest depth, nothing is reported of the members of a container. -/
theorem child?_applyAt_arrays_of_le {checker : Checker} {depth : Nat}
    (deep : checker.settings.maxDepth ≤ depth) (whole : Rule) (shape : Shape Rule) (value : Value)
    (key : String) (world : World) :
    (checker.applyAt depth whole (.arrays shape) value world).1.fault.bind (·.child? key) =
      none := by
  have hstep : checker.stepAt depth = none := if_neg (Nat.not_lt.2 deep)
  have happly : checker.applyAt depth whole (.arrays shape) value =
      checkContainer none shape whole value := by
    unfold applyAt
    rw [hstep]
    rfl
  rw [happly]
  unfold checkContainer
  cases entries? value <;> rfl

/-- The code that is reported under a key with a rule of its own is one that the rule ignores in two
cases only: the member is there, must not be, and the rule ignores this; or it is missing, must be
there, its rule refuses null and ignores that.  In particular a run of the rule never reports such a
code.  The keys of the rules are distinct, as `Entries.ofPairs` leaves them. -/
theorem arrays_ignored_iff {checker : Checker} {depth : Nat} {world : World} {value : Value}
    {key : String} {rule : Rule} (whole : Rule) (shape : Shape Rule)
    (container : value.contents.isContainer = true)
    (distinct : (Entries.keys shape.members).Nodup)
    (own : shape.members.lookup key = some rule) :
    let step := checker.runAt (depth + 1)
    let entries := memberEntries value.contents
    let probe := (step rule .null (probeWorld step shape whole entries key world)).1
    let outcome := (checker.applyAt depth whole (.arrays shape) value world).1
    let reported := outcome.fault.bind (·.child? key)
    (∃ code, reported.bind (·.code) = some code ∧ rule.ignores code = true) ↔
      depth < checker.settings.maxDepth ∧
        ((key ∈ Entries.keys entries ∧ rule.forbidden = true ∧
            rule.ignores "forbidden" = true) ∨
          (key ∉ Entries.keys entries ∧ rule.required = true ∧ rule.forbidden = false ∧
            probe.isOk = false ∧ rule.ignores "required" = true)) := by
  intro step entries probe outcome reported
  rcases Nat.lt_or_ge depth checker.settings.maxDepth with hdepth | hdeep
  case inr =>
    -- The container is refused without looking at its members.
    have hreported : reported = none :=
      child?_applyAt_arrays_of_le hdeep whole shape value key world
    simp [hreported, Nat.not_lt.2 hdeep]
  have hreported : reported = (memberFaults (checkMembers step shape whole entries world).1).lookup
      key := child?_applyAt_arrays hdepth whole shape container key world
  by_cases hpresent : key ∈ Entries.keys entries
  · cases hforbidden : rule.forbidden with
    | true =>
        have hfault : reported = some (forbiddenFault key) :=
          hreported.trans (lookup_memberFaults_forbidden own hforbidden hpresent world)
        simp [hfault, hdepth, hpresent, forbiddenFault, Fault.new, Fault.withArgument]
    | false =>
        -- What is reported comes from a run of the rule, which suppresses what it ignores.
        have hlets : ∀ member, Ensures (step rule member) rule.Lets := run_lets _ rule
        have hnever : ¬∃ code, reported.bind (·.code) = some code ∧ rule.ignores code = true := by
          rintro ⟨code, hcode, hignored⟩
          rcases Option.bind_eq_some_iff.1 hcode with ⟨fault, hfault, hown⟩
          have hunignored := unignored_of_allowed own hforbidden hpresent hlets
            (hreported.symm.trans hfault) hown
          rw [hunignored] at hignored
          cases hignored
        simp [hnever, hpresent]
  · -- Of a missing member, only the outcome of its rule on null is looked at, not its code.
    by_cases hneeded : rule.required = true ∧ rule.forbidden = false
    · have hfault : reported = if probe.isOk then none else some requiredFault :=
        hreported.trans
          (lookup_memberFaults_missing distinct own hneeded.1 hneeded.2 hpresent world)
      rw [hfault]
      cases hprobe : probe.isOk <;>
        simp [hdepth, hpresent, hneeded, requiredFault, Fault.new]
    · have hfault : reported = none :=
        hreported.trans (lookup_memberFaults_needless distinct own hpresent hneeded world)
      have hneedless : ¬(rule.required = true ∧ rule.forbidden = false ∧ probe.isOk = false ∧
          rule.ignores "required" = true) := fun h => hneeded ⟨h.1, h.2.1⟩
      simp [hfault, hpresent, hneedless]

/-- In a list no index is the key `"page"`, which is reported as required although its rule ignores
the code.  The index `"0"` must not be there, but the code that its rule ignores is another. -/
theorem arrays_ignored_list :
    let page := Rule.int.requiring.ignoring ["required"]
    let first := Rule.int.forbidding.ignoring ["required"]
    let shape : Shape Rule := ⟨Entries.ofPairs [("0", first), ("page", page)], none, false⟩
    let input := Value.values none (.list [.int 1])
    let outcome := (Checker.bare.applyAt 0 .empty (.arrays shape) input World.bare).1
    input.contents.isContainer = true ∧ (Entries.keys shape.members).Nodup ∧
      shape.members.lookup "page" = some page ∧ shape.members.lookup "0" = some first ∧
      (∃ code, (outcome.fault.bind (·.child? "page")).bind (·.code) = some code ∧
        page.ignores code = true) ∧
      ¬∃ code, (outcome.fault.bind (·.child? "0")).bind (·.code) = some code ∧
        first.ignores code = true := by
  intro page first shape input outcome
  have hdistinct : (Entries.keys shape.members).Nodup := Entries.nodup_keys_ofPairs _
  have habsent : "page" ∉ Entries.keys (memberEntries input.contents) := by decide
  have hshallow : 0 < Checker.bare.settings.maxDepth := by decide
  have hpage := @arrays_ignored_iff Checker.bare 0 World.bare input "page" page .empty shape rfl
    hdistinct rfl
  have hfirst := @arrays_ignored_iff Checker.bare 0 World.bare input "0" first .empty shape rfl
    hdistinct rfl
  refine ⟨rfl, hdistinct, rfl, rfl, ?_, ?_⟩
  · exact hpage.2 ⟨hshallow, .inr ⟨habsent, rfl, rfl, rfl, rfl⟩⟩
  · intro hsurfaces
    rcases hfirst.1 hsurfaces with ⟨_, ⟨_, _, hignored⟩ | ⟨_, hrequired, _⟩⟩
    · exact absurd hignored (by decide)
    · cases hrequired

/-- Both structural codes are reported under keys whose rules ignore them. -/
theorem arrays_ignored_recorded :
    let id := Rule.int.forbidding.ignoring ["forbidden"]
    let page := Rule.int.requiring.ignoring ["required"]
    let shape : Shape Rule := ⟨[("id", id), ("page", page)], none, false⟩
    let outcome :=
      (Checker.bare.applyAt 0 .empty (.arrays shape) (.map [("id", .int 5)]) World.bare).1
    id.ignores "forbidden" = true ∧
      (outcome.fault.bind (·.child? "id")).bind (·.code) = some "forbidden" ∧
      page.ignores "required" = true ∧
      (outcome.fault.bind (·.child? "page")).bind (·.code) = some "required" :=
  ⟨by decide, rfl, by decide, rfl⟩

end Assay.Checker
