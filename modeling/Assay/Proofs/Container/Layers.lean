import Assay.Proofs.Check.Blame
import Assay.Proofs.Check.Normal
import Assay.Proofs.Checker.Suppression
import Assay.Proofs.Container.Tree

/-!
# Layers — containers of containers, checked twice

A rule for leaves is laid under rules for containers, layer by layer.  What such a rule leaves of a
value is a container wherever one is asked for, and in it lies what the rule for leaves left.

* `Rule.layered rule layers` is the rule under so many layers;
* `run_single` and `run_arraysOf_succ` state what a run comes to, without a layer and with one;
* `normalizes_judge` and `normalizes_layerOutcome` state that what is left is accepted as it is;
* `second_check_clean` goes through the layers.
-/

namespace Assay

/-- The rule for what lies so many containers deep. -/
def Rule.layered (rule : Rule) : Nat → Rule
  | 0 => rule
  | layers + 1 => .arraysOf (rule.layered layers)

theorem Outcome.eq_ok_of_isOk {outcome : Outcome} (h : outcome.isOk = true) :
    outcome = .ok outcome.value := by
  rcases outcome with ⟨value, fault⟩
  cases fault with
  | none => rfl
  | some _ => cases h

namespace Checker

open Check

variable {checker : Checker} {rule : Rule} {filter : Filter Rule}

/-! ## The rule for leaves -/

/-- What a rule with a single filter makes of the outcome of the filter. -/
def judge (rule : Rule) (outcome : Outcome) : Outcome :=
  withDefault rule.default (if continues rule outcome then .ok outcome.value else outcome)

/-- A rule of one plain filter judges what the filter makes of the value. -/
theorem run_single (own : rule.filters = [filter]) (plain : filter.isPlain = true) (levels : Nat)
    (value : Value) :
    checker.run levels rule value = pure (judge rule (checker.applyPlain filter value)) := by
  have hrunWith : ∀ step, checker.runWith step rule value =
      pure (judge rule (checker.applyPlain filter value)) := by
    intro step
    rw [runWith_eq, own, applyAll_cons, apply_of_isPlain plain]
    simp only [pure_bind, judge]
    cases continues rule (checker.applyPlain filter value) <;> rfl
  cases levels with
  | zero => exact hrunWith none
  | succ levels => exact hrunWith (some (checker.run levels))

theorem judge_ok (rule : Rule) (value : Value) : judge rule (.ok value) = .ok value := by
  cases rule
  rfl

/-- The value of the outcome is kept, or the default takes its place. -/
theorem judge_value (rule : Rule) (outcome : Outcome) :
    (judge rule outcome).value = outcome.value ∨
      ∃ default ∈ rule.default, judge rule outcome = .ok default ∧
        continues rule outcome = false := by
  unfold judge
  cases hcontinues : continues rule outcome with
  | true => exact .inl (by cases rule.default <;> rfl)
  | false =>
      rcases outcome with ⟨value, fault⟩
      cases hdefault : rule.default with
      | none => exact .inl (by rw [withDefault_none]; rfl)
      | some default =>
          cases fault with
          | none => exact .inl rfl
          | some fault => exact .inr ⟨default, rfl, rfl, rfl⟩

/-- Whether a rule goes on after a fault is a question of its kind. -/
theorem continues_of_blames {kind : Kind} {outcome : Outcome} (h : outcome.Blames kind)
    (hrefused : outcome.isOk = false) : continues rule outcome = rule.ignores kind.name := by
  cases hfault : outcome.fault with
  | none => simp [Outcome.isOk, hfault] at hrefused
  | some fault =>
      rcases h fault hfault with ⟨message, rfl⟩
      simp [continues, hfault]

/-- The default takes the place of what is refused. -/
theorem judge_of_not_continues {outcome : Outcome} {default : Value}
    (hdefault : rule.default = some default) (hstops : continues rule outcome = false) :
    judge rule outcome = .ok default := by
  rcases outcome with ⟨value, fault⟩
  cases fault with
  | none => cases hstops
  | some fault => simp [judge, hstops, hdefault, withDefault]

/-- A rule leaves what it accepts if its filter does, and if the filter does not accept the default
in another form. -/
theorem normalizes_judge {check : Value → Outcome} {kind : Kind} (hnormal : Normalizes check)
    (hblames : ∀ value, (check value).Blames kind)
    (kept : ∀ default ∈ rule.default, (check default).isOk = true →
      (check default).value = default) :
    Normalizes fun value => judge rule (check value) := by
  intro value
  dsimp only
  rcases judge_value rule (check value) with hvalue | ⟨default, hdefault, hjudged, hstops⟩
  · rw [hvalue, hnormal, judge_ok]
  · rw [hjudged]
    change judge rule (check default) = .ok default
    cases hok : (check default).isOk with
    | true =>
        have haccepted : check default = .ok default := by
          rw [Outcome.eq_ok_of_isOk hok, kept default hdefault hok]
        rw [haccepted, judge_ok]
    | false =>
        -- The default is refused for the same reason as the value, and replaced by itself.
        have hrefused : (check value).isOk = false := by
          cases hfault : (check value).fault with
          | none => simp [continues, hfault] at hstops
          | some _ => simp [Outcome.isOk, hfault]
        have hignores : rule.ignores kind.name = false := by
          rw [← continues_of_blames (hblames value) hrefused]
          exact hstops
        refine judge_of_not_continues hdefault ?_
        rw [continues_of_blames (hblames default) hok, hignores]

/-! ## Layers -/

/-- What a layer of containers makes of the outcomes of its members. -/
def layerOutcome (answer : Value → Outcome) (value : Value) : Outcome :=
  if value.contents.isContainer then
    containerOutcome (rebuilt value.contents) ((memberEntries value.contents).map fun entry =>
      .ofOutcome entry.1 (answer entry.2))
  else noContainer "Must be an array"

/-- Wrapping a rule in containers leaves it a function of the value. -/
theorem arraysOf_every (hrule : rule.Every (SettlesFilter (fun _ => True) checker)) :
    (Rule.arraysOf rule).Every (SettlesFilter (fun _ => True) checker) := by
  refine .intro (fun filter hfilter => ?_) (fun filter hfilter below hbelow => ?_)
  · cases List.mem_singleton.1 hfilter
    trivial
  · cases List.mem_singleton.1 hfilter
    cases List.mem_singleton.1 hbelow
    exact hrule

/-- With one more level, the members of a container meet the rule for them. -/
theorem run_arraysOf_succ (hrule : rule.Every (SettlesFilter (fun _ => True) checker))
    (levels : Nat) (value : Value) (world : World) :
    (checker.run (levels + 1) (.arraysOf rule) value world).1 =
      layerOutcome (fun member => (checker.run levels rule member world).1) value := by
  let shape : Shape Rule := ⟨[], some rule, false⟩
  let visit : Visit := fun rule member => (checker.run levels rule member world).1
  have hrun : checker.run (levels + 1) (.arraysOf rule) value =
      checkContainer (some (checker.run levels)) shape (.arraysOf rule) value :=
    runWith_ofFilter checker (some (checker.run levels)) (.arrays shape) value
  rw [hrun]
  unfold layerOutcome
  cases hcontainer : value.contents.isContainer with
  | false =>
      have hentries : entries? value = none := by
        cases hfound : entries? value with
        | none => rfl
        | some found =>
            rw [(isContainer_of_entries? hfound).1] at hcontainer
            cases hcontainer
      unfold checkContainer
      rw [hentries]
      rfl
  | true =>
      have hstep : StepSettled (fun _ => True) (checker.run levels) visit shape
          (.arraysOf rule) := by
        rintro _ (rfl | hmem) member
        · exact (run_settles levels (arraysOf_every hrule) member).settled trivial
        · cases List.mem_singleton.1 hmem
          exact (run_settles levels hrule member).settled trivial
      rw [checkContainer_apply hcontainer,
        checkMembers_settled hstep (memberEntries value.contents) world trivial]
      -- No key has a rule of its own, so nothing is missing, and no container turns back.
      exact congrArg (containerOutcome (rebuilt value.contents)) (List.append_nil _)

theorem isContainer_rebuilt (container : Value) (entries : List (String × Value)) :
    (rebuilt container entries).isContainer = true := by
  cases container <;> rfl

/-- Only the last rebuilding counts. -/
theorem rebuilt_rebuilt (container : Value) (entries others : List (String × Value)) :
    rebuilt (rebuilt container entries) others = rebuilt container others := by
  cases container <;> rfl

/-- A container that is rebuilt of changed members has these members under the same keys. -/
theorem memberEntries_rebuilt {container : Value} (h : container.isContainer = true)
    (f : Value → Value) :
    let changed := (memberEntries container).map fun entry => (entry.1, f entry.2)
    memberEntries (rebuilt container changed) = changed := by
  cases container with
  | list items =>
      intro changed
      have hkeys : changed.map (·.1) = Value.indexKeys items := by
        simp [changed, memberEntries, Value.indexKeys, List.map_fst_zip, Function.comp_def]
      have hlength : (changed.map (·.2)).length = items.length := by
        simp [changed, memberEntries, Value.indexKeys]
      have hindices : Value.indexKeys (changed.map (·.2)) = Value.indexKeys items := by
        rw [Value.indexKeys, hlength]
        rfl
      change (Value.indexKeys (changed.map (·.2))).zip (changed.map (·.2)) = changed
      rw [hindices, ← hkeys]
      exact (List.zip_of_prod rfl rfl).symm
  | map entries => exact rfl
  | _ => cases h

/-- If members are accepted as they are left, the container is. -/
theorem normalizes_layerOutcome {answer : Value → Outcome} (hanswer : Normalizes answer) :
    Normalizes (layerOutcome answer) := by
  intro value
  cases hcontainer : value.contents.isContainer with
  | false =>
      have hleft : (layerOutcome answer value).value = .map [] := by
        simp [layerOutcome, hcontainer, noContainer, Outcome.fail]
      rw [hleft]
      rfl
  | true =>
      let entries := memberEntries value.contents
      let changed := entries.map fun entry => (entry.1, (answer entry.2).value)
      let left := rebuilt value.contents changed
      -- The container that is left has the members that are left, and is no `values` container.
      have hleft : (layerOutcome answer value).value = left := by
        rw [layerOutcome, if_pos hcontainer]
        exact (containerOutcome_map (rebuilt value.contents) answer entries).1
      have hentries : memberEntries left = changed :=
        memberEntries_rebuilt hcontainer fun member => (answer member).value
      have hnested : left.contents.isContainer = true :=
        isContainer_contents (isContainer_rebuilt _ _)
      have hcontents : left.contents = left := contents_of_isContainer (isContainer_rebuilt _ _)
      have hagain : layerOutcome answer left = containerOutcome (rebuilt left)
          (changed.map fun entry => .ofOutcome entry.1 (answer entry.2)) := by
        rw [layerOutcome, if_pos hnested, hcontents, hentries]
      have houtcome := containerOutcome_map (rebuilt left) answer changed
      -- So they meet the rule a second time, and stay as they are.
      have haccepted : ∀ member, answer (answer member).value = .ok (answer member).value := hanswer
      have hsame : (changed.map fun entry => (entry.1, (answer entry.2).value)) = changed := by
        simp [changed, haccepted, Outcome.ok, Function.comp_def]
      have hvalue : (layerOutcome answer left).value = left := by
        rw [hagain]
        refine houtcome.1.trans ?_
        rw [hsame]
        exact rebuilt_rebuilt _ _ _
      have hok : (layerOutcome answer left).isOk = true := by
        rw [hagain]
        refine houtcome.2.trans (List.all_eq_true.2 fun member hmember => ?_)
        simp only [changed, List.map_map, List.mem_map] at hmember
        rcases hmember with ⟨entry, _, rfl⟩
        simp [haccepted, Outcome.ok, Outcome.isOk]
      rw [hleft, Outcome.eq_ok_of_isOk hok, hvalue]

/-! ## All layers -/

theorem layered_every (hplain : rule.isPlain = true) (layers : Nat) :
    (rule.layered layers).Every (SettlesFilter (fun _ => True) checker) := by
  induction layers with
  | zero => exact .of_isPlain hplain _ checker
  | succ layers ih => exact arraysOf_every ih

/-- A filter that accepts what it leaves is plain, and has a kind to blame. -/
theorem kind_of_normalizes (h : filter.normalizes = true) :
    filter.isPlain = true ∧ ∃ kind, filter.kind? = some kind := by
  cases filter with
  | arrays _ => cases h
  | any _ => cases h
  | entity _ => cases h
  | custom _ _ => cases h
  | _ => exact ⟨rfl, _, rfl⟩

/-- By induction on the layers: as long as there are levels for them, what a run leaves is accepted
as it is. -/
theorem normalizes_run (own : rule.filters = [filter]) (normalizes : filter.normalizes = true)
    (kept : ∀ default ∈ rule.default, (checker.applyPlain filter default).isOk = true →
      (checker.applyPlain filter default).value = default)
    {layers levels : Nat} (hlevels : layers ≤ levels) (world : World) :
    Normalizes fun value => (checker.run levels (rule.layered layers) value world).1 := by
  rcases kind_of_normalizes normalizes with ⟨hplain, kind, hkind⟩
  induction layers generalizing levels with
  | zero =>
      have hrun : (fun value => (checker.run levels rule value world).1) =
          fun value => judge rule (checker.applyPlain filter value) := by
        funext value
        rw [run_single own hplain]
        rfl
      change Normalizes fun value => (checker.run levels rule value world).1
      rw [hrun]
      exact normalizes_judge (applyPlain_normalizes checker normalizes)
        (applyPlain_blames checker hkind) kept
  | succ layers ih =>
      cases levels with
      | zero => exact absurd hlevels (Nat.not_succ_le_zero layers)
      | succ levels =>
          have hrule : rule.isPlain = true := by simp [Rule.isPlain, own, hplain]
          have hrun : (fun value =>
              (checker.run (levels + 1) (rule.layered (layers + 1)) value world).1) =
              layerOutcome fun member =>
                (checker.run levels (rule.layered layers) member world).1 := by
            funext value
            exact run_arraysOf_succ (layered_every hrule layers) levels value world
          rw [hrun]
          exact normalizes_layerOutcome (ih (Nat.le_of_succ_le_succ hlevels))

/-- A rule with one of the filters that accept what they leave is laid under as many layers of
containers as the depth allows.  Unless its default is one that the filter accepts in another form,
the value that a check leaves, with or without a fault, is accepted as it is by a second check. -/
theorem second_check_clean {checker : Checker} {rule : Rule} {filter : Filter Rule} {layers : Nat}
    (own : rule.filters = [filter]) (normalizes : filter.normalizes = true)
    (kept : ∀ default ∈ rule.default, (checker.applyPlain filter default).isOk = true →
      (checker.applyPlain filter default).value = default)
    (levels : layers ≤ checker.settings.maxDepth) (value : Value) (world : World) :
    let layered := rule.layered layers
    let first := checker.check value layered world
    first.2 = world ∧
      ∀ other, checker.check first.1.value layered other = (.ok first.1.value, other) := by
  intro layered first
  have hplain : rule.isPlain = true := by
    simp [Rule.isPlain, own, (kind_of_normalizes normalizes).1]
  have hsettles : ∀ value, Settles (fun _ => True) (checker.check value layered) :=
    fun value => run_settles checker.settings.maxDepth (layered_every hplain layers) value
  have hclean : (checker.check first.1.value layered world).1 = .ok first.1.value :=
    normalizes_run own normalizes kept levels world value
  refine ⟨?_, fun other => ?_⟩
  · rcases hsettles value with ⟨outcome, hsettled⟩
    exact congrArg Prod.snd (hsettled world trivial)
  · rcases hsettles first.1.value with ⟨outcome, hsettled⟩
    have houtcome : outcome = .ok first.1.value :=
      (congrArg Prod.fst (hsettled world trivial)).symm.trans hclean
    rw [hsettled other trivial, houtcome]

/-- Two layers down there are texts.  What is no container where one belongs is an empty map the
second time, and what lay in a `values` container lies there bare. -/
theorem second_check_clean_nested :
    let rule := Rule.string.defaulting (.str "-")
    let input := Value.list
      [.map [("a", .int 5), ("b", .list [])], .bool true, .values none (.list [.null, .str "x"])]
    let left := Value.list [.map [("a", .str "5"), ("b", .str "-")], .map [],
      .list [.str "-", .str "x"]]
    let check := fun value => Checker.bare.check value (rule.layered 2) World.bare
    rule.filters = [.string] ∧ (Filter.string : Filter Rule).normalizes = true ∧
      (∀ default ∈ rule.default, (Checker.bare.applyPlain .string default).isOk = true →
        (Checker.bare.applyPlain .string default).value = default) ∧
      2 ≤ Checker.bare.settings.maxDepth ∧
      (check input).1.value = left ∧ (check input).1.isOk = false ∧
      check left = (.ok left, World.bare) := by
  intro rule input left check
  have hkept : ∀ default ∈ rule.default,
      (Checker.bare.applyPlain .string default).isOk = true →
      (Checker.bare.applyPlain .string default).value = default := by
    intro default hdefault _
    cases hdefault
    rfl
  have hlevels : 2 ≤ Checker.bare.settings.maxDepth := by decide
  have hleft : (check input).1.value = left := rfl
  refine ⟨rfl, rfl, hkept, hlevels, hleft, rfl, ?_⟩
  exact (second_check_clean rfl rfl hkept hlevels input World.bare).2 World.bare

/-- A default is not checked when it takes the place of a value, but it is the second time: here it
becomes a text. -/
theorem second_check_converts_default :
    let rule := Rule.string.defaulting (.int 1)
    let check := fun value => (Checker.bare.check value (rule.layered 0) World.bare).1
    rule.filters = [.string] ∧ (Filter.string : Filter Rule).normalizes = true ∧
      0 ≤ Checker.bare.settings.maxDepth ∧
      check (.list []) = .ok (.int 1) ∧ check (.int 1) ≠ .ok (.int 1) := by
  intro rule check
  have hconverted : check (.int 1) = .ok (.str "1") := rfl
  refine ⟨rfl, rfl, Nat.zero_le _, rfl, fun hsame => ?_⟩
  rw [hconverted] at hsame
  cases hsame

end Checker

end Assay
