import Assay.Proofs.Checker.Agreement
import Assay.Proofs.Checker.Suppression
import Assay.Proofs.Container.Members
import Assay.Rule.Typed

/-!
# Headroom — levels that a check does not need

A container that lies too deep has a fault.  In a strict rule no fault is lost on the way up, so
that a check without a fault has met no such container, and more levels make no difference to it.

* `Rule.Strict` says that a rule has no means to lose a fault;
* `Checker.Carries accepts` says of two computations that the second repeats the accepted answers of
  the first;
* `run_carries` states it of a run and a run with more levels;
* `check_withDepth_of_isOk` is the case of two checks.
-/

namespace Assay

/-- The faults of the rules that the filter holds are faults of the filter: it offers no
alternatives, and where it is a tree, its members have no second rule. -/
def Filter.isStrict {ρ : Type} : Filter ρ → Bool
  | .any _ => false
  | .arrays shape => !(shape.tree && shape.others.isSome)
  | _ => true

/-- At every level the filters are strict, no code is ignored, and there is no default. -/
inductive Rule.Strict : Rule → Prop where
  | intro {rule : Rule} (own : ∀ filter ∈ rule.filters, filter.isStrict = true)
      (ignored : rule.ignored = []) (default : rule.default = none)
      (held : ∀ filter ∈ rule.filters, ∀ below ∈ filter.rules, Strict below) : Strict rule

namespace Checker

variable {α β : Type}

/-! ## Computations that repeat accepted answers -/

/-- Wherever the first computation comes to an accepted answer, the second comes to the same one,
and leaves the same world. -/
def Carries (accepts : α → Prop) (first second : StateM World α) : Prop :=
  ∀ world, accepts (first world).1 → second world = first world

namespace Carries

variable {accepts : α → Prop}

theorem refl (computation : StateM World α) : Carries accepts computation computation := by
  intro _ _
  rfl

/-- Nothing is asked of the second computation where the first is never accepted. -/
theorem of_refused {first second : StateM World α} (h : Ensures first fun a => ¬accepts a) :
    Carries accepts first second := by
  intro world haccepted
  exact absurd haccepted (h world)

/-- In sequence, what is not accepted at first must not be accepted in the end. -/
theorem bind {final : β → Prop} {first second : StateM World α} {next next' : α → StateM World β}
    (hfirst : Carries accepts first second)
    (hnext : ∀ a, accepts a → Carries final (next a) (next' a))
    (hkept : ∀ a, ¬accepts a → Ensures (next a) fun b => ¬final b) :
    Carries final (first >>= next) (second >>= next') := by
  intro world hfinal
  have haccepted : accepts (first world).1 := by
    refine Classical.byContradiction fun hrefused => ?_
    exact hkept (first world).1 hrefused (first world).2 hfinal
  calc
    (second >>= next') world = next' (second world).1 (second world).2 := rfl
    _ = next' (first world).1 (first world).2 := by rw [hfirst world haccepted]
    _ = next (first world).1 (first world).2 := hnext (first world).1 haccepted _ hfinal
    _ = (first >>= next) world := rfl

theorem mapM {f g : α → StateM World β} {each : β → Prop} {xs : List α}
    (h : ∀ x ∈ xs, Carries each (f x) (g x)) :
    Carries (fun ys => ∀ y ∈ ys, each y) (xs.mapM f) (xs.mapM g) := by
  induction xs with
  | nil => exact refl _
  | cons x xs ih =>
      have hrest := ih fun z hz => h z (by simp [hz])
      rw [List.mapM_cons, List.mapM_cons]
      refine bind (h x (by simp)) (fun y _ => ?_) (fun y hy => ?_)
      · refine bind hrest (fun ys _ => refl _) fun ys hys => .pure fun hall => hys ?_
        exact fun z hz => hall z (by simp [hz])
      · refine .bind (.of_forall (fun _ => trivial) _) fun ys _ => .pure fun hall => hy ?_
        exact hall y (by simp)

end Carries

/-! ## Members of containers -/

section Members

variable {next next' : Step} {shape : Shape Rule} {whole : Rule}

/-- The second step repeats what the first one accepts, for the rules that members can meet. -/
def StepsCarry (next next' : Step) (shape : Shape Rule) (whole : Rule) : Prop :=
  ∀ rule, rule = whole ∨ rule ∈ shape.rules → ∀ value,
    Carries (·.isOk = true) (next rule value) (next' rule value)

/-- The member of an outcome has a fault if the outcome has one. -/
theorem ofOutcome_carries {first second : Check} (h : Carries (·.isOk = true) first second)
    (key : String) :
    Carries (·.fault = none) (first >>= fun outcome => pure (Member.ofOutcome key outcome))
      (second >>= fun outcome => pure (Member.ofOutcome key outcome)) := by
  refine h.bind (fun outcome _ => .refl _) fun outcome hrefused => .pure fun hfault => hrefused ?_
  have hnone : outcome.fault = none := hfault
  simp [Outcome.isOk, hnone]

/-- A member for which no rule is named, and that has no fault, is the same with more depth. -/
theorem checkOther_carries (strict : (Filter.arrays shape).isStrict = true)
    (h : StepsCarry next next' shape whole) (key : String) (member : Value) :
    Carries (·.fault = none) (checkOther next shape whole key member)
      (checkOther next' shape whole key member) := by
  unfold checkOther
  cases hothers : shape.others with
  | none =>
      -- Without a rule for other members, the whole rule is the only one that is tried.
      simp only [pure_bind]
      split
      · exact ofOutcome_carries (h whole (.inl rfl) member) key
      · exact .refl _
  | some others =>
      -- In a strict shape with such a rule, nothing is tried after it.
      have hflat : shape.tree = false := by simpa [Filter.isStrict, hothers] using strict
      have hfirst := h others (.inr (Shape.mem_rules_of_others hothers)) member
      simp only [hflat, Bool.false_and]
      simpa using ofOutcome_carries hfirst key

theorem checkPresent_carries (strict : (Filter.arrays shape).isStrict = true)
    (h : StepsCarry next next' shape whole) (key : String) (member : Value) :
    Carries (·.fault = none) (checkPresent next shape whole key member)
      (checkPresent next' shape whole key member) := by
  unfold checkPresent
  cases hkey : shape.members.lookup key with
  | none => exact checkOther_carries strict h key member
  | some rule =>
      dsimp only
      split
      · exact .refl _
      · have hown := h rule (.inr (Shape.mem_rules_of_lookup hkey)) member
        exact ofOutcome_carries hown key

/-- A missing member has a fault if null has one in its place. -/
theorem checkMissing_carries {rule : Rule} (key : String)
    (h : Carries (·.isOk = true) (next rule .null) (next' rule .null)) :
    Carries (·.fault = none) (checkMissing next key rule) (checkMissing next' key rule) := by
  refine h.bind (fun outcome _ => .refl _) fun outcome hrefused => .pure fun hfault => hrefused ?_
  have hnone : outcome.fault = none := Option.map_eq_none_iff.1 hfault
  simp [Outcome.isOk, hnone]

/-- If no member has a fault, each is what it would be with more depth. -/
theorem checkMembers_carries (strict : (Filter.arrays shape).isStrict = true)
    (h : StepsCarry next next' shape whole) (entries : List (String × Value)) :
    Carries (fun members => ∀ member ∈ members, member.fault = none)
      (checkMembers next shape whole entries) (checkMembers next' shape whole entries) := by
  have habsent : Carries (fun members => ∀ member ∈ members, member.fault = none)
      ((missing shape (Entries.keys entries)).mapM fun entry =>
        checkMissing next entry.1 entry.2)
      ((missing shape (Entries.keys entries)).mapM fun entry =>
        checkMissing next' entry.1 entry.2) := by
    refine .mapM fun entry hentry => checkMissing_carries entry.1 ?_
    have hmem := Shape.mem_rules_of_mem (List.mem_filter.1 hentry).1
    exact h entry.2 (.inr hmem) .null
  refine .bind (.mapM fun entry _ => checkPresent_carries strict h entry.1 entry.2)
    (fun present _ => ?_) (fun present hfaulty => ?_)
  · refine habsent.bind (fun absent _ => .refl _) fun absent hfaulty => .pure fun hall => ?_
    exact hfaulty fun member hmember => hall member (List.mem_append_right _ hmember)
  · refine .bind (.of_forall (fun _ => trivial) _) fun absent _ => .pure fun hall => ?_
    exact hfaulty fun member hmember => hall member (List.mem_append_left _ hmember)

end Members

/-! ## Rules -/

variable {checker : Checker} {step step' : Option Step} {whole : Rule}

/-- Where the first step leads to a next level, the second one does too, and repeats there what the
first one accepts by a strict rule. -/
def StepCarries (step step' : Option Step) : Prop :=
  ∀ next, step = some next → ∃ next', step' = some next' ∧
    ∀ rule : Rule, rule.Strict → ∀ value,
      Carries (·.isOk = true) (next rule value) (next' rule value)

/-- A container without a fault has a level below it, and members without faults. -/
theorem checkContainer_carries (hstep : StepCarries step step') {shape : Shape Rule}
    (strict : (Filter.arrays shape).isStrict = true)
    (hrules : ∀ rule, rule = whole ∨ rule ∈ shape.rules → rule.Strict) (value : Value) :
    Carries (·.isOk = true) (checkContainer step shape whole value)
      (checkContainer step' shape whole value) := by
  unfold checkContainer
  cases entries? value with
  | none => exact .refl _
  | some container =>
      rcases container with ⟨entries, build⟩
      cases step with
      | none =>
          -- The container lies too deep for the first run, which has a fault here.
          exact .of_refused (.pure (by simp [noContainer, Outcome.isOk, Outcome.fail]))
      | some next =>
          rcases hstep next rfl with ⟨next', rfl, hcarries⟩
          have hnext : StepsCarry next next' shape whole := fun rule hrule =>
            hcarries rule (hrules rule hrule)
          refine .bind (checkMembers_carries strict hnext entries) (fun members _ => .refl _) ?_
          intro members hfaulty
          refine .pure fun hok => hfaulty ?_
          rw [isOk_containerOutcome, isEmpty_memberFaults] at hok
          simpa using hok

/-- A filter of a strict rule that accepts a value accepts it with more depth. -/
theorem apply_carries (hstep : StepCarries step step') (hwhole : whole.Strict)
    {filter : Filter Rule} (hfilter : filter ∈ whole.filters) (value : Value) :
    Carries (·.isOk = true) (checker.apply step whole filter value)
      (checker.apply step' whole filter value) := by
  rcases hwhole with ⟨own, ignored, default, held⟩
  cases filter with
  | any _ => cases own _ hfilter
  | arrays shape =>
      refine checkContainer_carries hstep (own _ hfilter) (fun rule hrule => ?_) value
      -- Members meet rules of the shape, or in a tree this one again.
      rcases hrule with rfl | hmem
      · exact .intro own ignored default held
      · exact held _ hfilter rule hmem
  | _ => exact .refl _

theorem applyAll_carries (hstep : StepCarries step step') (hwhole : whole.Strict)
    {filters : List (Filter Rule)} (hfilters : ∀ filter ∈ filters, filter ∈ whole.filters)
    (value : Value) :
    Carries (·.isOk = true) (checker.applyAll step whole filters value)
      (checker.applyAll step' whole filters value) := by
  have hignored : whole.ignored = [] := by
    cases hwhole with
    | intro _ ignored _ _ => exact ignored
  induction filters generalizing value with
  | nil => exact .refl _
  | cons filter rest ih =>
      have hrest := ih fun later hlater => hfilters later (by simp [hlater])
      rw [applyAll_cons, applyAll_cons]
      simp only [continues_of_ignored_eq_nil hignored]
      refine .bind (apply_carries hstep hwhole (hfilters filter (by simp)) value)
        (fun outcome hok => ?_) (fun outcome hrefused => ?_)
      · simp only [if_pos hok]
        exact hrest outcome.value
      · rw [if_neg hrefused]
        exact .pure hrefused

/-- Acceptance passes from the next level to this one, for strict rules. -/
theorem runWith_carries (hstep : StepCarries step step') {rule : Rule} (strict : rule.Strict)
    (value : Value) :
    Carries (·.isOk = true) (checker.runWith step rule value)
      (checker.runWith step' rule value) := by
  have hdefault : rule.default = none := by
    cases strict with
    | intro _ _ default _ => exact default
  rw [runWith_eq, runWith_eq, hdefault]
  simp only [withDefault_none, bind_pure]
  exact applyAll_carries hstep strict (fun _ hmem => hmem) value

/-- A run by a strict rule that finds no fault goes the same way where more levels are left. -/
theorem run_carries {levels more : Nat} (hle : levels ≤ more) {rule : Rule} (strict : rule.Strict)
    (value : Value) :
    Carries (·.isOk = true) (checker.run levels rule value) (checker.run more rule value) := by
  induction levels generalizing more rule value with
  | zero =>
      have hnone : ∀ step', StepCarries none step' := fun _ _ hnext => by cases hnext
      cases more with
      | zero => exact runWith_carries (hnone _) strict value
      | succ more => exact runWith_carries (hnone _) strict value
  | succ levels ih =>
      cases more with
      | zero => omega
      | succ more =>
          refine runWith_carries (fun next hnext => ?_) strict value
          cases hnext
          exact ⟨_, rfl, fun below hbelow member => ih (by omega) hbelow member⟩

/-- A check by a strict rule that comes to no fault comes to the same outcome, and leaves the same
world, wherever containers may be nested deeper. -/
theorem check_withDepth_of_isOk {checker : Checker} {rule : Rule} (strict : rule.Strict)
    {greatest : Nat} (deeper : checker.settings.maxDepth ≤ greatest) {value : Value}
    {world : World} (accepted : (checker.check value rule world).1.isOk = true) :
    (checker.withDepth greatest).check value rule world = checker.check value rule world := by
  calc
    (checker.withDepth greatest).check value rule world
        = checker.run greatest rule value world :=
      congrFun (run_withDepth checker greatest greatest rule value) world
    _ = checker.check value rule world := run_carries deeper strict value world accepted

/-- Containers lie in each other as deep as the check allows, and in the innermost one a record is
made from a prototype.  With one level less the check has a fault. -/
theorem check_withDepth_of_isOk_nested :
    let rule := (Rule.arrays [("ref", Rule.entity), ("note", Rule.null.requiring)]).tree
    let checker := Checker.bare.withDepth 3
    let world : World := ⟨some (EntityStore.empty.insert "proto" "owner" true).2, []⟩
    let input := Value.map [("below", .list [.map [("ref", .map [("proto", .str "proto")])]])]
    let check := checker.check input rule world
    rule.Strict ∧ checker.settings.maxDepth ≤ 9 ∧ check.1.isOk = true ∧
      (checker.withDepth 9).check input rule world = check ∧
      check.2.store.map (·.derived) = some 1 ∧
      ((checker.withDepth 2).check input rule world).1.isOk = false := by
  intro rule checker world input check
  have hleaf : ∀ filter : Filter Rule, filter.rules = [] → filter.isStrict = true →
      ∀ required, Rule.Strict ⟨[filter], required, false, none, []⟩ := by
    intro filter hrules hstrict required
    refine .intro (fun other hother => ?_) rfl rfl (fun other hother below hbelow => ?_)
    · cases List.mem_singleton.1 hother
      exact hstrict
    · cases List.mem_singleton.1 hother
      rw [hrules] at hbelow
      cases hbelow
  have hstrict : rule.Strict := by
    refine .intro (by decide) rfl rfl fun filter hfilter below hbelow => ?_
    cases List.mem_singleton.1 hfilter
    -- The tree holds a rule for references and one for a note that must be there.
    rcases List.mem_cons.1 hbelow with rfl | hbelow
    · exact hleaf (.entity none) rfl rfl false
    · cases List.mem_singleton.1 hbelow
      exact hleaf .null rfl rfl true
  have haccepted : check.1.isOk = true := by rfl
  have hsame := check_withDepth_of_isOk hstrict (by decide : checker.settings.maxDepth ≤ 9)
    haccepted
  exact ⟨hstrict, by decide, haccepted, hsame, by rfl, by rfl⟩

end Checker

end Assay
