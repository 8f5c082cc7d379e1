import Assay.Proofs.Rule.Occurrence
import Assay.Rule.Typed

/-!
# Reliance — the collaborators that a rule relies on

Most filters judge a value by themselves.  A few need a collaborator of the checker: hooks, the
store of entities, or the normalizer of search conditions.  A rule relies on those that its filters
need, at whatever depth.

* `Filter.collaborator?` is the collaborator that a filter needs;
* `Rule.ReliesOn` says that some filter in a rule needs it;
* `Rule.withoutCustom` leaves out all filters that need hooks, and changes nothing else.
-/

namespace Assay

/-- What a checker is given to answer for filters that it cannot judge by itself. -/
inductive Collaborator where
  | hooks
  | store
  | normalizer
  deriving DecidableEq

/-- The collaborator that a filter needs. -/
def Filter.collaborator? {ρ : Type} : Filter ρ → Option Collaborator
  | .custom .. => some .hooks
  | .entity _ => some .store
  | .condition => some .normalizer
  | _ => none

/-- Some filter in the rule, at whatever depth, needs the collaborator. -/
def Rule.ReliesOn (rule : Rule) (collaborator : Collaborator) : Prop :=
  ∃ filter, rule.Contains filter ∧ filter.collaborator? = some collaborator

/-- A rule relies on what its filters need, and on what the rules that they hold rely on. -/
theorem Rule.reliesOn_iff {rule : Rule} {collaborator : Collaborator} :
    rule.ReliesOn collaborator ↔
      ∃ filter ∈ rule.filters, filter.collaborator? = some collaborator ∨
        ∃ below ∈ filter.rules, below.ReliesOn collaborator := by
  constructor
  · rintro ⟨filter, hcontains, hneeds⟩
    cases hcontains with
    | own hmem => exact ⟨filter, hmem, .inl hneeds⟩
    | held hmem hheld hbelow => exact ⟨_, hmem, .inr ⟨_, hheld, filter, hbelow, hneeds⟩⟩
  · rintro ⟨filter, hmem, hneeds | ⟨below, hheld, inner, hbelow, hneeds⟩⟩
    · exact ⟨filter, .own hmem, hneeds⟩
    · exact ⟨inner, .held hmem hheld hbelow, hneeds⟩

/-- A rule of one filter relies on what the filter or a rule below it relies on. -/
theorem Rule.reliesOn_ofFilter {filter : Filter Rule} {collaborator : Collaborator} :
    (Rule.ofFilter filter).ReliesOn collaborator ↔
      filter.collaborator? = some collaborator ∨
        ∃ below ∈ filter.rules, below.ReliesOn collaborator := by
  rw [reliesOn_iff]
  have hfilters : (Rule.ofFilter filter).filters = [filter] := rfl
  simp [hfilters]

/-! ## Rules without the filters of hooks -/

/-- The shape with other rules in the same places. -/
def Shape.map {ρ σ : Type} (f : ρ → σ) (shape : Shape ρ) : Shape σ :=
  ⟨shape.members.map fun entry => (entry.1, f entry.2), shape.others.map f, shape.tree⟩

mutual

/-- The rule without the filters that hooks answer for, at every depth. -/
def Rule.withoutCustom : Rule → Rule
  | ⟨filters, required, forbidden, default, ignored⟩ =>
    ⟨filtersWithoutCustom filters, required, forbidden, default, ignored⟩
  termination_by structural rule => rule

def filtersWithoutCustom : List (Filter Rule) → List (Filter Rule)
  | [] => []
  | filter :: rest =>
    if filter.collaborator? = some .hooks then filtersWithoutCustom rest
    else filter.withoutCustom :: filtersWithoutCustom rest
  termination_by structural filters => filters

/-- The filter with such rules in the places of those that it holds. -/
def Filter.withoutCustom : Filter Rule → Filter Rule
  | .arrays ⟨members, none, tree⟩ => .arrays ⟨membersWithoutCustom members, none, tree⟩
  | .arrays ⟨members, some others, tree⟩ =>
    .arrays ⟨membersWithoutCustom members, some others.withoutCustom, tree⟩
  | .any alternatives => .any (rulesWithoutCustom alternatives)
  | other => other
  termination_by structural filter => filter

def membersWithoutCustom : List (String × Rule) → List (String × Rule)
  | [] => []
  | (key, rule) :: rest => (key, rule.withoutCustom) :: membersWithoutCustom rest
  termination_by structural members => members

def rulesWithoutCustom : List Rule → List Rule
  | [] => []
  | rule :: rest => rule.withoutCustom :: rulesWithoutCustom rest
  termination_by structural rules => rules

end

theorem membersWithoutCustom_eq (members : List (String × Rule)) :
    membersWithoutCustom members =
      members.map fun entry => (entry.1, entry.2.withoutCustom) := by
  induction members with
  | nil => rfl
  | cons entry rest ih => rw [membersWithoutCustom, ih, List.map_cons]

theorem rulesWithoutCustom_eq (rules : List Rule) :
    rulesWithoutCustom rules = rules.map Rule.withoutCustom := by
  induction rules with
  | nil => rfl
  | cons rule rest ih => rw [rulesWithoutCustom, ih, List.map_cons]

namespace Filter

theorem withoutCustom_arrays (shape : Shape Rule) :
    withoutCustom (.arrays shape) = .arrays (shape.map Rule.withoutCustom) := by
  rcases shape with ⟨members, others, tree⟩
  cases others <;> simp [withoutCustom, Shape.map, membersWithoutCustom_eq]

theorem withoutCustom_any (alternatives : List Rule) :
    withoutCustom (.any alternatives) = .any (alternatives.map Rule.withoutCustom) := by
  rw [withoutCustom, rulesWithoutCustom_eq]

/-- The rules below a filter lose their hooks as well. -/
theorem rules_withoutCustom (filter : Filter Rule) :
    filter.withoutCustom.rules = filter.rules.map Rule.withoutCustom := by
  cases filter with
  | arrays shape =>
      rw [withoutCustom_arrays]
      rcases shape with ⟨members, others, tree⟩
      cases others <;> simp [rules, Shape.rules, Shape.map]
  | any alternatives =>
      rw [withoutCustom_any]
      rfl
  | _ => rfl

/-- Leaving out the hooks below a filter does not change what it relies on itself. -/
theorem collaborator?_withoutCustom (filter : Filter Rule) :
    filter.withoutCustom.collaborator? = filter.collaborator? := by
  cases filter with
  | arrays shape => rw [withoutCustom_arrays]; rfl
  | _ => rfl

end Filter

namespace Rule

theorem filters_withoutCustom (rule : Rule) :
    rule.withoutCustom.filters = filtersWithoutCustom rule.filters := by
  cases rule
  rfl

theorem required_withoutCustom (rule : Rule) : rule.withoutCustom.required = rule.required := by
  cases rule
  rfl

theorem forbidden_withoutCustom (rule : Rule) :
    rule.withoutCustom.forbidden = rule.forbidden := by
  cases rule
  rfl

theorem default_withoutCustom (rule : Rule) : rule.withoutCustom.default = rule.default := by
  cases rule
  rfl

/-- The filters that need no hooks are left, in their order. -/
theorem filtersWithoutCustom_eq (filters : List (Filter Rule)) :
    filtersWithoutCustom filters =
      (filters.filter fun filter => filter.collaborator? ≠ some .hooks).map
        Filter.withoutCustom := by
  induction filters with
  | nil => rfl
  | cons filter rest ih =>
      rw [filtersWithoutCustom, ih]
      by_cases hhooks : filter.collaborator? = some .hooks
      · rw [if_pos hhooks, List.filter_cons_of_neg (by simpa using hhooks)]
      · rw [if_neg hhooks, List.filter_cons_of_pos (by simpa using hhooks), List.map_cons]

/-- Every filter that is left comes from one that asks no hooks. -/
theorem mem_filters_withoutCustom {rule : Rule} {filter : Filter Rule}
    (h : filter ∈ rule.withoutCustom.filters) :
    ∃ original ∈ rule.filters, original.collaborator? ≠ some .hooks ∧
      original.withoutCustom = filter := by
  rw [filters_withoutCustom, filtersWithoutCustom_eq] at h
  rcases List.mem_map.1 h with ⟨original, hmem, horiginal⟩
  rcases List.mem_filter.1 hmem with ⟨hfilter, hother⟩
  exact ⟨original, hfilter, of_decide_eq_true hother, horiginal⟩

/-- No filter that needs hooks is left, at any depth. -/
theorem not_reliesOn_withoutCustom (rule : Rule) : ¬rule.withoutCustom.ReliesOn .hooks := by
  induction rule using nested_induction with
  | step rule ih =>
      rw [reliesOn_iff]
      rintro ⟨filter, hmem, hneeds⟩
      rcases mem_filters_withoutCustom hmem with ⟨original, horiginal, hother, rfl⟩
      rcases hneeds with hown | ⟨below, hheld, hbelow⟩
      · rw [Filter.collaborator?_withoutCustom] at hown
        exact hother hown
      · -- The rule below comes from one that the original filter holds.
        rw [Filter.rules_withoutCustom] at hheld
        rcases List.mem_map.1 hheld with ⟨source, hsource, rfl⟩
        exact ih original horiginal source hsource hbelow

end Rule

end Assay
