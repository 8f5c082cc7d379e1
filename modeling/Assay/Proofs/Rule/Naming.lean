import Assay.Rule.Named

/-!
# Naming — filters report the names that they were made by

A filter is made from a name and arguments.  Many names have arguments of their own form, but
whatever is made of them, it reports the name.

* `Named.Makes kind` says that a result, if it is a filter, is one of the kind;
* `Named.filterOfKind_makes` goes through the kinds, and `Named.name_of_filter` is the result.
-/

namespace Assay

/-- A filter of a kind carries its name. -/
theorem Filter.name_of_kind? {ρ : Type} {filter : Filter ρ} {kind : Kind}
    (h : filter.kind? = some kind) : filter.name = kind.name := by
  cases filter with
  | custom name arguments => cases h
  | _ => cases h; rfl

/-- A kind is found under its own name. -/
theorem Kind.name_of_ofName? {name : String} {kind : Kind} (h : Kind.ofName? name = some kind) :
    kind.name = name := by
  have hfound := List.find?_some h
  exact beq_iff_eq.1 hfound

namespace Named

/-- The result is no filter, or a filter of the kind. -/
def Makes (kind : Kind) (result : Except RuleError (Filter Rule)) : Prop :=
  ∀ filter, result = .ok filter → filter.kind? = some kind

namespace Makes

variable {kind : Kind}

theorem pure {filter : Filter Rule} (h : filter.kind? = some kind) :
    Makes kind (Pure.pure filter) := by
  intro other hother
  cases hother
  exact h

theorem error (cause : RuleError) : Makes kind (.error cause) := by
  intro filter hfilter
  cases hfilter

/-- Arguments that are refused make no filter. -/
theorem bind {α : Type} {first : Except RuleError α} {next : α → Except RuleError (Filter Rule)}
    (h : ∀ a, Makes kind (next a)) : Makes kind (first >>= next) := by
  intro filter hfilter
  cases first with
  | error cause => cases hfilter
  | ok a => exact h a filter hfilter

end Makes

/-- The filter made for a kind is of that kind. -/
theorem filterOfKind_makes (named : String → Except RuleError Rule) (kind : Kind)
    (arguments : List Argument) : Makes kind (filterOfKind named kind arguments) := by
  cases kind with
  | object =>
      refine .bind fun values => ?_
      split
      · exact .pure rfl
      · exact .pure rfl
      · exact .pure rfl
      · exact .error _
  | entity =>
      refine .bind fun values => ?_
      split
      · exact .pure rfl
      · exact .pure rfl
      · exact .pure rfl
  | stripTags => exact .bind fun values => .bind fun tags => .pure rfl
  | regexp => exact .bind fun texts => .bind fun patterns => .pure rfl
  | ospatterns => exact .bind fun texts => .bind fun patterns => .pure rfl
  | _ => exact .bind fun _ => .pure rfl

/-- A filter that is made from a name reports this name. -/
theorem name_of_filter {named : String → Except RuleError Rule} {name : String}
    {arguments : List Argument} {made : Filter Rule}
    (h : filter named name arguments = .ok made) : made.name = name := by
  unfold filter at h
  split at h
  · rename_i kind hkind
    have hmade := filterOfKind_makes named kind arguments made h
    exact (Filter.name_of_kind? hmade).trans (Kind.name_of_ofName? hkind)
  · -- A name without a meaning is kept for the hooks.
    cases hvalues : plainValues name arguments with
    | error cause => rw [hvalues] at h; cases h
    | ok values => rw [hvalues] at h; cases h; rfl

end Named

end Assay
