import Assay.Proofs.Check.Blame
import Assay.Proofs.Checker.Depth
import Assay.Proofs.Rule.Occurrence
import Assay.Proofs.World.Settled

/-!
# Contract — what every run ensures

What the filters of a rule ensure of their outcomes, the rule ensures of its own, whatever the
world.

* `firstAccepted_ensures`, `applyAll_ensures` and `runWith_ensures` go through the interpreter;
* `apply_simple` does so for filters that judge by themselves;
* `run_founded` states that faults exist, if those that hooks answer with do.
-/

namespace Assay

/-- The filter judges the value by itself: it looks into no container, offers no alternatives and
asks no hook. -/
def Filter.isSimple {ρ : Type} : Filter ρ → Bool
  | .arrays _ | .any _ | .custom .. => false
  | _ => true

/-- The fault of the outcome, if there is one, exists. -/
def Outcome.Founded (outcome : Outcome) : Prop :=
  ∀ fault, outcome.fault = some fault → fault.isPresent = true

/-- Every answer of a hook is founded. -/
def HookRegistry.AnswersFounded (registry : HookRegistry) : Prop :=
  ∀ name value arguments rule normalizer store outcome,
    (registry.invoke name value arguments rule normalizer store).1 = some outcome →
      outcome.Founded

namespace Checker

variable {checker : Checker} {step : Option Step} {post : Outcome → Prop}

/-! ## Through the interpreter -/

/-- What all alternatives ensure holds for the accepted one. -/
theorem firstAccepted_ensures {last : Outcome} {alternatives : List Rule} {value : Value}
    (hlast : post last)
    (h : ∀ rule ∈ alternatives, Ensures (checker.runWith step rule value) post) :
    Ensures (checker.firstAccepted step last alternatives value) post := by
  induction alternatives generalizing last with
  | nil => exact .pure hlast
  | cons rule rest ih =>
      refine .bind (h rule (by simp)) fun outcome houtcome => ?_
      cases outcome.isOk with
      | true => exact .pure houtcome
      | false => exact ih houtcome fun other hother => h other (by simp [hother])

/-- What every filter ensures holds behind the last one. -/
theorem applyAll_ensures {whole : Rule} {filters : List (Filter Rule)}
    (hok : ∀ value, post (.ok value))
    (h : ∀ filter ∈ filters, ∀ value, Ensures (checker.apply step whole filter value) post)
    (value : Value) : Ensures (checker.applyAll step whole filters value) post := by
  induction filters generalizing value with
  | nil => exact .pure (hok value)
  | cons filter rest ih =>
      refine .bind (h filter (by simp) value) fun outcome houtcome => ?_
      cases continues whole outcome with
      | true => exact ih (fun other hother => h other (by simp [hother])) outcome.value
      | false => exact .pure houtcome

/-- A default does not harm what accepted values satisfy. -/
theorem runWith_of_applyAll {rule : Rule} {value : Value} (hok : ∀ value, post (.ok value))
    (h : Ensures (checker.applyAll step rule rule.filters value) post) :
    Ensures (checker.runWith step rule value) post := by
  rw [runWith_eq]
  refine .bind h fun outcome houtcome => .pure ?_
  unfold withDefault
  split
  · exact hok _
  · exact houtcome

theorem runWith_ensures {rule : Rule} (hok : ∀ value, post (.ok value))
    (h : ∀ filter ∈ rule.filters, ∀ value, Ensures (checker.apply step rule filter value) post)
    (value : Value) : Ensures (checker.runWith step rule value) post :=
  runWith_of_applyAll hok (applyAll_ensures hok h value)

/-- A rule with a single filter ensures what the filter does of this value. -/
theorem runWith_single {rule : Rule} {filter : Filter Rule} (own : rule.filters = [filter])
    {value : Value} (hok : ∀ value, post (.ok value))
    (h : Ensures (checker.apply step rule filter value) post) :
    Ensures (checker.runWith step rule value) post := by
  refine runWith_of_applyAll hok ?_
  rw [own]
  refine .bind h fun outcome houtcome => ?_
  cases continues rule outcome with
  | true => exact .pure (hok outcome.value)
  | false => exact .pure houtcome

/-! ## Filters that judge by themselves -/

/-- What a simple filter reports, it reports under its own name, whatever the world. -/
theorem apply_simple {whole : Rule} {filter : Filter Rule} (simple : filter.isSimple = true)
    (h : ∀ kind outcome, filter.kind? = some kind → kind ≠ .any → outcome.Blames kind →
      post outcome) (value : Value) : Ensures (checker.apply step whole filter value) post := by
  cases filter with
  | arrays _ => cases simple
  | any _ => cases simple
  | custom _ _ => cases simple
  | entity condition =>
      intro world
      exact h .entity _ rfl (by decide) (Check.entity_blames condition world.store value)
  | _ => exact .pure (h _ _ rfl (by decide) (applyPlain_blames checker rfl value))

/-! ## Faults that exist -/

theorem founded_ok (value : Value) : (Outcome.ok value).Founded := by
  intro fault hfault
  cases hfault

/-- A fault with a code is present. -/
theorem isPresent_of_code {fault : Fault} {code : String} (h : fault.code = some code) :
    fault.isPresent = true := by
  rcases fault with ⟨_, message, children⟩
  cases h
  rfl

/-- An outcome that blames a filter has a fault that is present. -/
theorem founded_of_blames {kind : Kind} {outcome : Outcome} (h : outcome.Blames kind) :
    outcome.Founded := by
  intro fault hfault
  rcases h fault hfault with ⟨message, rfl⟩
  exact isPresent_of_code rfl

/-- The fault of a container exists, whatever its members report. -/
theorem checkContainer_founded (shape : Shape Rule) (whole : Rule) (value : Value) :
    Ensures (checkContainer step shape whole value) Outcome.Founded := by
  have hempty : ∀ template, (noContainer template).Founded := by
    intro template
    have hblames : (noContainer template).Blames .arrays := Outcome.blames_faultOf
    exact founded_of_blames hblames
  unfold checkContainer
  cases entries? value with
  | none => exact .pure (hempty _)
  | some container =>
      cases step with
      | none => exact .pure (hempty _)
      | some next =>
          refine .bind (.of_forall (fun _ => trivial) _) fun members _ => .pure ?_
          unfold containerOutcome
          dsimp only
          split
          · exact founded_ok _
          · intro fault hfault
            cases hfault
            exact isPresent_of_code rfl

/-- Filters fail with faults that are present, provided that the hooks do. -/
theorem apply_founded (hhooks : checker.registry.AnswersFounded) {whole : Rule}
    {filter : Filter Rule}
    (hheld : ∀ rule ∈ filter.rules, ∀ value,
      Ensures (checker.runWith step rule value) Outcome.Founded) (value : Value) :
    Ensures (checker.apply step whole filter value) Outcome.Founded := by
  cases filter with
  | any alternatives =>
      exact firstAccepted_ensures (founded_ok value) fun rule hrule => hheld rule hrule value
  | arrays shape => exact checkContainer_founded shape whole value
  | custom name arguments =>
      intro world
      let answer := (checker.registry.invoke name value arguments whole checker.normalizer
        world.store).1
      change (answer.getD (.ok value)).Founded
      cases hanswer : answer with
      | none => exact founded_ok value
      | some outcome => exact hhooks _ _ _ _ _ _ outcome hanswer
  | _ => exact apply_simple rfl (fun _ _ _ _ hblames => founded_of_blames hblames) value

/-- If hooks answer with faults that exist, every fault of a run exists. -/
theorem run_founded (hhooks : checker.registry.AnswersFounded) (levels : Nat) (rule : Rule)
    (value : Value) : Ensures (checker.run levels rule value) Outcome.Founded := by
  have hrunWith : ∀ step rule value, Ensures (checker.runWith step rule value) Outcome.Founded := by
    -- The step to the next level is arbitrary: containers are founded whatever it answers.
    intro step rule
    induction rule using Rule.nested_induction with
    | step rule ih =>
        intro value
        refine runWith_ensures founded_ok (fun filter hfilter value => ?_) value
        exact apply_founded hhooks (fun held hheld => ih filter hfilter held hheld) value
  cases levels with
  | zero => exact hrunWith none rule value
  | succ levels => exact hrunWith (some (checker.run levels)) rule value

end Checker

end Assay
