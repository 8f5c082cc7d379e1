import Assay.Proofs.Joining
import Assay.Proofs.Rule.Construction

/-!
# Merging — two rules in one

To merge a second rule into a first one is to join their filters under their names, where the later
filter wins.  Either rule can require or forbid, and of defaults and codes the last ones count.

* `named` lists filters under their names; `joined_filters` states what a merge makes of them;
* `merge_assoc`, `empty_merge` and `merge_self` need that names are distinct, for the filters only;
* `merge_idempotent_monoid` states the laws for all rules that can be built.
-/

namespace Assay.Rule

variable {rule other first second third : Rule}

/-! ## Filters under their names -/

/-- The filters as entries under their names. -/
def named (filters : List (Filter Rule)) : List (String × Filter Rule) :=
  filters.map fun filter => (filter.name, filter)

/-- Filters are known by their entries. -/
theorem eq_of_named_eq {filters others : List (Filter Rule)} (h : named filters = named others) :
    filters = others := by
  have hvalues : ∀ filters : List (Filter Rule), (named filters).map (·.2) = filters := by
    intro filters
    simp [named, Function.comp_def]
  rw [← hvalues filters, h, hvalues]

theorem Distinct.keys_named (h : rule.Distinct) : (Entries.keys (named rule.filters)).Nodup := by
  have hkeys : Entries.keys (named rule.filters) = rule.filters.map Filter.name :=
    keys_names rule.filters
  rw [hkeys]
  exact h.names

/-- By induction on the later filters: each is joined to those that are there. -/
theorem joined_putFilters {earlier later : List (Filter Rule)}
    (hearlier : (Entries.keys (named earlier)).Nodup)
    (hlater : (Entries.keys (named later)).Nodup) :
    Entries.Joined (fun _ new => new) (named earlier) (named later)
      (named (later.foldl (fun filters filter => putFilter filter filters) earlier)) := by
  induction later generalizing earlier with
  | nil => exact .nil _ hearlier
  | cons filter rest ih =>
      rcases List.nodup_cons.1 hlater with ⟨hnew, hrest⟩
      have hput : named (putFilter filter earlier) =
          Entries.put filter.name filter (named earlier) := map_putFilter filter earlier
      have hfirst : Entries.Joined (fun _ new => new) (named earlier) [(filter.name, filter)]
          (named (putFilter filter earlier)) :=
        hput ▸ Entries.joined_put hearlier filter.name filter
      exact hfirst.cons (ih hfirst.nodup hrest) hnew

/-- The filters of a merged rule are those of both, where the second rule wins. -/
theorem joined_filters (h : rule.Distinct) (hother : other.Distinct) :
    Entries.Joined (fun _ new => new) (named rule.filters) (named other.filters)
      (named (rule.merge other).filters) :=
  joined_putFilters h.keys_named hother.keys_named

/-! ## Laws -/

/-- Rules are equal if their filters and modifiers are. -/
theorem eq_of_parts (hfilters : rule.filters = other.filters)
    (hrequired : rule.required = other.required) (hforbidden : rule.forbidden = other.forbidden)
    (hdefault : rule.default = other.default) (hignored : rule.ignored = other.ignored) :
    rule = other := by
  cases rule
  cases other
  simp_all

/-- Merging is associative for rules with distinct names. -/
theorem merge_assoc (hfirst : first.Distinct) (hsecond : second.Distinct)
    (hthird : third.Distinct) :
    (first.merge second).merge third = first.merge (second.merge third) := by
  have hfilters : ((first.merge second).merge third).filters =
      (first.merge (second.merge third)).filters := by
    have hleft := joined_filters (hfirst.merge hsecond) hthird
    have hright := joined_filters hfirst (hsecond.merge hthird)
    have hlast := joined_filters hsecond hthird
    exact eq_of_named_eq ((joined_filters hfirst hsecond).assoc hleft hlast hright
      fun _ _ _ _ _ _ _ => rfl)
  have hignored : ((first.merge second).merge third).ignored =
      (first.merge (second.merge third)).ignored := by
    cases hcodes : third.ignored <;> simp [merge, hcodes]
  refine eq_of_parts hfilters ?_ ?_ ?_ hignored
  · exact Bool.or_assoc _ _ _
  · exact Bool.or_assoc _ _ _
  · exact Option.or_assoc.symm

/-- The first filters stay as they are because their names are distinct. -/
theorem empty_merge (h : rule.Distinct) : empty.merge rule = rule := by
  have hfilters : (empty.merge rule).filters = rule.filters :=
    eq_of_named_eq ((joined_filters .empty h).of_nil h.keys_named)
  refine eq_of_parts hfilters ?_ ?_ ?_ ?_
  · exact Bool.false_or _
  · exact Bool.false_or _
  · exact Option.or_none
  · cases hignored : rule.ignored <;> simp [merge, empty, hignored]

/-- Merging with the empty rule changes nothing. -/
theorem merge_empty (rule : Rule) : rule.merge empty = rule := by
  refine eq_of_parts rfl ?_ ?_ ?_ rfl
  · exact Bool.or_false _
  · exact Bool.or_false _
  · exact Option.none_or

/-- A filter that comes again takes its own place. -/
theorem merge_self (h : rule.Distinct) : rule.merge rule = rule := by
  have hfilters : (rule.merge rule).filters = rule.filters :=
    eq_of_named_eq ((joined_filters h h).self h.keys_named fun _ _ _ => rfl)
  refine eq_of_parts hfilters ?_ ?_ ?_ ?_
  · exact Bool.or_self _
  · exact Bool.or_self _
  · exact Option.or_self
  · exact ite_self _

/-- The rules that can be built form an idempotent monoid: they can be merged from either side, the
empty rule changes nothing, and neither does a rule that comes again. -/
theorem merge_idempotent_monoid (hfirst : Assembled first) (hsecond : Assembled second)
    (hthird : Assembled third) :
    (first.merge second).merge third = first.merge (second.merge third) ∧
      empty.merge first = first ∧ first.merge empty = first ∧ first.merge first = first :=
  ⟨merge_assoc hfirst.distinct hsecond.distinct hthird.distinct, empty_merge hfirst.distinct,
    merge_empty first, merge_self hfirst.distinct⟩

/-- Filters of common names in different orders, a filter of hooks with the name of another filter,
and modifiers in each of the rules. -/
theorem merge_idempotent_monoid_reordered :
    let first := ((Rule.string.max (.int 9)).ignoring ["trim"]).requiring
    let second := ((Rule.empty.trim.max (.int 5)).custom "string" []).defaulting .null
    let third := ((Rule.empty.email.trim.max (.int 7)).ignoring ["max", "email"]).forbidding
    let merged : Rule :=
      ⟨[.custom "string" [], .max (.int 7), .trim, .email], true, true, some .null,
        ["max", "email"]⟩
    Assembled first ∧ Assembled second ∧ Assembled third ∧
      (first.merge second).merge third = merged ∧ first.merge (second.merge third) = merged ∧
      empty.merge first = first ∧ first.merge empty = first ∧ first.merge first = first := by
  intro first second third merged
  have hmax : ∀ {rule : Rule} (bound : Number), Assembled rule → Assembled (rule.max bound) :=
    fun bound h => h.withFilter (.max bound)
  have hrefined : ∀ {rule : Rule} (refiner : Refiner) {next : Rule}, Assembled rule →
      rule.refine refiner = .ok next → Assembled next := fun _ _ h made => h.refine made
  have hfirst : Assembled first := by
    refine hrefined .requiring (hrefined (.ignoring ["trim"]) ?_ rfl) rfl
    exact hmax (.int 9) (.withFilter .empty .string)
  have hsecond : Assembled second := by
    refine hrefined (.defaulting .null) (.withFilter ?_ (.custom "string" [])) rfl
    exact hmax (.int 5) (.withFilter .empty .trim)
  have hthird : Assembled third := by
    refine hrefined .forbidding (hrefined (.ignoring ["max", "email"]) ?_ rfl) rfl
    exact hmax (.int 7) (.withFilter (.withFilter .empty .email) .trim)
  rcases merge_idempotent_monoid hfirst hsecond hthird with ⟨hassoc, hleft, hright, hself⟩
  have hmerged : (first.merge second).merge third = merged := by rfl
  exact ⟨hfirst, hsecond, hthird, hmerged, hassoc.symm.trans hmerged, hleft, hright, hself⟩

end Assay.Rule
