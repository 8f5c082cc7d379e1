import Assay.Members
import Assay.Proofs.Rule.Occurrence

/-!
# Congruence — one container, checked in two ways

The way through a container is the same whatever the members are checked by.  So what two ways of
checking members have in common, their two ways of checking the container have in common as well, if
it is something that equal answers have and sequencing keeps.

* `Congruence` is such a relation between computations of two kinds;
* `Congruence.checkMembers` goes through the members;
* `Congruence.checkContainer` states it for the container.
-/

namespace Assay

/-- A relation between computations that are made alike: equal answers are related, and related
computations that go on alike are. -/
structure Congruence (m n : Type → Type) [Monad m] [Monad n] where
  Related {α : Type} : m α → n α → Prop
  of_pure {α : Type} (a : α) : Related (pure a) (pure a)
  of_bind {α β : Type} {first : m α} {second : n α} {next : α → m β} {next' : α → n β} :
    Related first second → (∀ a, Related (next a) (next' a)) →
      Related (first >>= next) (second >>= next')

namespace Congruence

open Checker

variable {m n : Type → Type} [Monad m] [Monad n] (congruence : Congruence m n)

/-- Runs over a list are related if their steps are. -/
theorem mapM [LawfulMonad m] [LawfulMonad n] {α β : Type} {f : α → m β} {g : α → n β}
    {xs : List α} (h : ∀ x ∈ xs, congruence.Related (f x) (g x)) :
    congruence.Related (xs.mapM f) (xs.mapM g) := by
  induction xs with
  | nil => exact congruence.of_pure []
  | cons x xs ih =>
      rw [List.mapM_cons, List.mapM_cons]
      refine congruence.of_bind (h x (by simp)) fun y => ?_
      refine congruence.of_bind (ih fun z hz => h z (by simp [hz])) fun ys => ?_
      exact congruence.of_pure _

/-! ## Members -/

variable {step : Rule → Value → m Outcome} {step' : Rule → Value → n Outcome} {shape : Shape Rule}
  {whole : Rule}

/-- The steps are related for the rules that members can meet. -/
def Steps (step : Rule → Value → m Outcome) (step' : Rule → Value → n Outcome) (shape : Shape Rule)
    (whole : Rule) : Prop :=
  ∀ rule, rule = whole ∨ rule ∈ shape.rules → ∀ value,
    congruence.Related (step rule value) (step' rule value)

/-- Members for which no rule is named are checked alike. -/
theorem checkOther (h : congruence.Steps step step' shape whole) (key : String) (member : Value) :
    congruence.Related (Checker.checkOther step shape whole key member)
      (Checker.checkOther step' shape whole key member) := by
  -- After the same first attempt, both try the whole rule or neither does.
  have hrest : ∀ first : Member, congruence.Related
      (if shape.tree && isNested member && (shape.others.isNone || first.fault.isSome) then
        step whole member >>= fun outcome => pure (Member.ofOutcome key outcome)
      else pure first)
      (if shape.tree && isNested member && (shape.others.isNone || first.fault.isSome) then
        step' whole member >>= fun outcome => pure (Member.ofOutcome key outcome)
      else pure first) := by
    intro first
    split
    · exact congruence.of_bind (h whole (.inl rfl) member) fun _ => congruence.of_pure _
    · exact congruence.of_pure _
  unfold Checker.checkOther
  cases hothers : shape.others with
  | none =>
      rw [hothers] at hrest
      exact congruence.of_bind (congruence.of_pure _) hrest
  | some others =>
      rw [hothers] at hrest
      have hfirst := h others (.inr (Shape.mem_rules_of_others hothers)) member
      exact congruence.of_bind hfirst fun _ => congruence.of_bind (congruence.of_pure _) hrest

theorem checkPresent (h : congruence.Steps step step' shape whole) (key : String)
    (member : Value) :
    congruence.Related (Checker.checkPresent step shape whole key member)
      (Checker.checkPresent step' shape whole key member) := by
  unfold Checker.checkPresent
  cases hkey : shape.members.lookup key with
  | none => exact congruence.checkOther h key member
  | some rule =>
      dsimp only
      split
      · exact congruence.of_pure _
      · have hmem := Shape.mem_rules_of_lookup hkey
        exact congruence.of_bind (h rule (.inr hmem) member) fun _ => congruence.of_pure _

/-- Present and missing members are checked alike. -/
theorem checkMembers [LawfulMonad m] [LawfulMonad n]
    (h : congruence.Steps step step' shape whole) (entries : List (String × Value)) :
    congruence.Related (Checker.checkMembers step shape whole entries)
      (Checker.checkMembers step' shape whole entries) := by
  refine congruence.of_bind (congruence.mapM fun entry _ => ?_) fun present => ?_
  · exact congruence.checkPresent h entry.1 entry.2
  refine congruence.of_bind (congruence.mapM fun entry hentry => ?_) fun absent => ?_
  · have hmem := Shape.mem_rules_of_mem (List.mem_filter.1 hentry).1
    exact congruence.of_bind (h entry.2 (.inr hmem) .null) fun _ => congruence.of_pure _
  · exact congruence.of_pure _

/-! ## Containers -/

/-- Both steps lead to a next level and are related for a rule there, or neither does. -/
def StepRelated (step : Option (Rule → Value → m Outcome))
    (step' : Option (Rule → Value → n Outcome)) (rule : Rule) : Prop :=
  Option.Rel (fun next next' => ∀ value, congruence.Related (next rule value) (next' rule value))
    step step'

/-- Containers are checked alike if their members are. -/
theorem checkContainer [LawfulMonad m] [LawfulMonad n]
    {step : Option (Rule → Value → m Outcome)} {step' : Option (Rule → Value → n Outcome)}
    (h : ∀ rule, rule = whole ∨ rule ∈ shape.rules → congruence.StepRelated step step' rule)
    (value : Value) :
    congruence.Related (Checker.checkContainer step shape whole value)
      (Checker.checkContainer step' shape whole value) := by
  unfold Checker.checkContainer
  cases entries? value with
  | none => exact congruence.of_pure _
  | some container =>
      rcases container with ⟨entries, build⟩
      cases h whole (.inl rfl) with
      | none =>
          -- No level is left on either side, and both refuse the container.
          exact congruence.of_pure _
      | @some next next' _ =>
          have hnext : congruence.Steps next next' shape whole := by
            intro rule hrule
            cases h rule hrule with
            | some hrelated => exact hrelated
          exact congruence.of_bind (congruence.checkMembers hnext entries) fun _ => congruence.of_pure _

end Congruence

end Assay
