import Assay.Proofs.Rule.Calls

/-!
# Construction — rules that are built in any way

Filters come into a rule by name, by a function of their own, with a second rule, or as a shape that
is found by its sort and not by its name.  On all ways they replace the filter of their name.

* `Refiner` lists the functions that refine a rule, `Rule.Assembled` the ways to build one;
* `Rule.Distinct` says that no two filters have one name and no code is ignored twice;
* `Rule.construction` states that calls by name mean what they say, and that every rule that was
  built is distinct.
-/

namespace Assay

/-- A function that refines a rule, with its arguments. -/
inductive Refiner where
  | max (bound : Number)
  | min (bound : Number)
  | less (bound : Number)
  | more (bound : Number)
  | eq (target : Value)
  | eqStrict (target : Value)
  | not (target : Value)
  | notStrict (target : Value)
  | oneOf (allowed : List Value)
  | noneOf (rejected : List Value)
  | trim
  | escape
  | escapeFull
  | stripTags (allowed : List String)
  | email
  | url
  | ip
  | uri
  | regexp (patterns : List String)
  | ospatterns (patterns : List String)
  | color
  | lowercase
  | uppercase
  | custom (name : String) (arguments : List Value)
  | requiring
  | forbidding
  | defaulting (value : Value)
  | ignoring (codes : List String)

namespace Rule

open RuleCall Named

/-- Calls a refiner; only patterns can be refused. -/
def refine (rule : Rule) : Refiner → Except RuleError Rule
  | .max bound => .ok (rule.max bound)
  | .min bound => .ok (rule.min bound)
  | .less bound => .ok (rule.less bound)
  | .more bound => .ok (rule.more bound)
  | .eq target => .ok (rule.eq target)
  | .eqStrict target => .ok (rule.eqStrict target)
  | .not target => .ok (rule.not target)
  | .notStrict target => .ok (rule.notStrict target)
  | .oneOf allowed => .ok (rule.oneOf allowed)
  | .noneOf rejected => .ok (rule.noneOf rejected)
  | .trim => .ok rule.trim
  | .escape => .ok rule.escape
  | .escapeFull => .ok rule.escapeFull
  | .stripTags allowed => .ok (rule.stripTags allowed)
  | .email => .ok rule.email
  | .url => .ok rule.url
  | .ip => .ok rule.ip
  | .uri => .ok rule.uri
  | .regexp patterns => rule.regexp patterns
  | .ospatterns patterns => rule.ospatterns patterns
  | .color => .ok rule.color
  | .lowercase => .ok rule.lowercase
  | .uppercase => .ok rule.uppercase
  | .custom name arguments => .ok (rule.custom name arguments)
  | .requiring => .ok rule.requiring
  | .forbidding => .ok rule.forbidding
  | .defaulting value => .ok (rule.defaulting value)
  | .ignoring codes => .ok (rule.ignoring codes)

/-- The rule was built from the empty one; a constructor of its own is the empty rule with a filter.
Rules inside of filters may be of any sort. -/
inductive Assembled : Rule → Prop where
  | empty : Assembled .empty
  | addFilter {rule next : Rule} {name : String} {arguments : List Argument} (h : Assembled rule)
      (made : rule.addFilter name arguments = .ok next) : Assembled next
  | withFilter {rule : Rule} (h : Assembled rule) (filter : Filter Rule) :
      Assembled (rule.withFilter filter)
  | refine {rule next : Rule} {refiner : Refiner} (h : Assembled rule)
      (made : rule.refine refiner = .ok next) : Assembled next
  | each {rule : Rule} (h : Assembled rule) (others : Rule) : Assembled (rule.each others)
  | tree {rule : Rule} (h : Assembled rule) : Assembled rule.tree
  | merge {rule other : Rule} (h : Assembled rule) (hother : Assembled other) :
      Assembled (rule.merge other)

/-- No two filters have one name, and no code is ignored twice. -/
structure Distinct (rule : Rule) : Prop where
  names : (rule.filters.map Filter.name).Nodup
  codes : rule.ignored.Nodup

/-! ## One step -/

/-- A shape is changed in its place. -/
theorem names_changeShape? {change : Shape Rule → Shape Rule} {filters changed : List (Filter Rule)}
    (h : changeShape? change filters = some changed) :
    changed.map Filter.name = filters.map Filter.name := by
  induction filters generalizing changed with
  | nil => cases h
  | cons filter rest ih =>
      unfold changeShape? at h
      split at h
      · rename_i hnil
        cases hnil
      · rename_i shape others hcons
        cases hcons
        cases h
        rfl
      · rename_i other others hother hcons
        cases hcons
        rcases Option.map_eq_some_iff.1 h with ⟨later, hlater, rfl⟩
        rw [List.map_cons, List.map_cons, ih hlater]

namespace Distinct

variable {rule other next : Rule}

theorem empty : Distinct .empty := ⟨List.nodup_nil, List.nodup_nil⟩

/-- A rule with another filter keeps its names distinct. -/
theorem withFilter (h : rule.Distinct) (filter : Filter Rule) : (rule.withFilter filter).Distinct :=
  ⟨nodup_putFilter h.names filter, h.codes⟩

theorem ignoring (h : rule.Distinct) (codes : List String) : (rule.ignoring codes).Distinct :=
  ⟨h.names, nodup_foldl_putCode codes h.codes⟩

/-- A shape that is missing comes like any other filter; it may replace a filter of hooks that has
taken its name. -/
theorem updateShape (h : rule.Distinct) (change : Shape Rule → Shape Rule) :
    (rule.updateShape change).Distinct := by
  unfold Rule.updateShape
  split
  · rename_i changed hchanged
    exact ⟨(names_changeShape? hchanged).symm ▸ h.names, h.codes⟩
  · exact h.withFilter _

/-- The filters of the second rule are put one by one, and its codes replace those of the first. -/
theorem merge (h : rule.Distinct) (hother : other.Distinct) : (rule.merge other).Distinct := by
  have hnames : ∀ (more filters : List (Filter Rule)), (filters.map Filter.name).Nodup →
      ((more.foldl (fun filters filter => putFilter filter filters) filters).map
        Filter.name).Nodup := by
    intro more
    induction more with
    | nil => exact fun filters hfilters => hfilters
    | cons filter rest ih => exact fun filters hfilters => ih _ (nodup_putFilter hfilters filter)
  refine ⟨hnames other.filters rule.filters h.names, ?_⟩
  unfold Rule.merge
  split
  · exact h.codes
  · exact hother.codes

/-- Each described step keeps the names distinct. -/
theorem adds {name : String} {arguments : List Argument} (h : rule.Distinct)
    (hadds : rule.Adds name arguments next) : next.Distinct := by
  cases hadds with
  | required given => exact ⟨h.names, h.codes⟩
  | forbidden given => exact ⟨h.names, h.codes⟩
  | default value => exact ⟨h.names, h.codes⟩
  | ignore given => exact h.ignoring _
  | filter other made => exact h.withFilter _

theorem refine {refiner : Refiner} (h : rule.Distinct) (made : rule.refine refiner = .ok next) :
    next.Distinct := by
  cases refiner with
  | regexp patterns =>
      rcases bind_eq_ok made with ⟨compiled, _, hnext⟩
      cases hnext
      exact h.withFilter _
  | ospatterns patterns =>
      rcases bind_eq_ok made with ⟨globs, _, hnext⟩
      cases hnext
      exact h.withFilter _
  | requiring => cases made; exact ⟨h.names, h.codes⟩
  | forbidding => cases made; exact ⟨h.names, h.codes⟩
  | defaulting value => cases made; exact ⟨h.names, h.codes⟩
  | ignoring codes => cases made; exact h.ignoring codes
  | _ => cases made; exact h.withFilter _

end Distinct

/-! ## Whole rules -/

/-- However a rule is assembled, its names are distinct. -/
theorem Assembled.distinct {rule : Rule} (h : Assembled rule) : rule.Distinct := by
  induction h with
  | empty => exact .empty
  | addFilter _ made ih => exact ih.adds (adds_of_addFilter made)
  | withFilter _ filter ih => exact ih.withFilter filter
  | refine _ made ih => exact ih.refine made
  | each _ others ih => exact ih.updateShape _
  | tree _ ih => exact ih.updateShape _
  | merge _ _ ih ihother => exact ih.merge ihother

/-- To call a filter by name is one of the ways to build. -/
theorem assembled_of_ofCalls {calls : List RuleCall} {rule : Rule} (h : ofCalls calls = .ok rule) :
    Assembled rule := by
  induction calls using List.reverseRecOn generalizing rule with
  | nil =>
      cases h
      exact .empty
  | append_singleton calls call ih =>
      rcases ofCalls_concat h with ⟨before, hbefore, hcall⟩
      exact .addFilter (ih hbefore) hcall

/-- Calls by name mean what they say: all of the rule is described by them, and their filters have
names of their own, none of which is that of a modifier.  However a rule is built, no two filters
have one name and no code is ignored twice. -/
theorem construction :
    (∀ calls rule, ofCalls calls = .ok rule →
      Described calls rule ∧ (rule.filters.map Filter.name).Nodup ∧
        ∀ filter ∈ rule.filters, filter.name ∉ modifierNames) ∧
      ∀ rule, Assembled rule → rule.Distinct := by
  refine ⟨fun calls rule hmade => ?_, fun rule hassembled => hassembled.distinct⟩
  have hdescribed : Described calls rule := described_of_ofCalls hmade
  have hdistinct : rule.Distinct := (assembled_of_ofCalls hmade).distinct
  exact ⟨hdescribed, hdistinct.names, fun filter hfilter => hdescribed.filters.not_modifier hfilter⟩

/-- A name comes again, codes come twice, a modifier is taken back, and a shape replaces the filter
of hooks that has its name. -/
theorem construction_again :
    let calls : List RuleCall :=
      [("max", [.value (.int 9)]), ("required", []), ("trim", []),
        ("ignore", [.value (.str "max"), .value (.str "trim"), .value (.str "max")]),
        ("slug", []), ("max", [.value (.int 5)]), ("required", [.value (.bool false)]),
        ("default", [.value .null]), ("ignore", [.value (.str "slug"), .value (.str "trim")])]
    let called : Rule :=
      ⟨[.max (.int 5), .trim, .custom "slug" []], false, false, some .null, ["max", "trim", "slug"]⟩
    let merged := ((Rule.empty.custom "arrays" []).tree.merge called).each .int
    (ofCalls calls = .ok called ∧ Described calls called ∧
      (called.filters.map Filter.name).Nodup ∧
        ∀ filter ∈ called.filters, filter.name ∉ modifierNames) ∧
      merged.filters.map Filter.name = ["arrays", "max", "trim", "slug"] ∧ merged.Distinct := by
  intro calls called merged
  have hmade : ofCalls calls = .ok called := by rfl
  have hassembled : Assembled merged :=
    .each (.merge (.tree (.withFilter .empty (.custom "arrays" [])))
      (assembled_of_ofCalls hmade)) .int
  refine ⟨⟨hmade, construction.1 calls called hmade⟩, by decide, construction.2 merged hassembled⟩

end Rule

end Assay
