import Assay.Rule

/-!
# Occurrence — the filters and rules that a rule holds

A filter may hold rules: those of the members of a container, or alternatives.  Rules are nested by
this, and facts about all rules follow by induction on the nesting.

* `Filter.rules` lists the rules that a filter holds;
* `Rule.nested_induction` gives a hypothesis for every rule that a rule holds;
* `Rule.height` is the greatest number of rules that lie in each other;
* `Rule.Every p` says that `p` holds of every filter in a rule, at whatever depth;
* `Rule.Contains` says of one filter that it is in a rule.
-/

namespace Assay

variable {ρ : Type}

/-! ## Rules that are held -/

/-- The rules for certain keys, and then the one for all others. -/
def Shape.rules (shape : Shape ρ) : List ρ := shape.members.map (·.2) ++ shape.others.toList

/-- The rules that a filter holds. -/
def Filter.rules : Filter ρ → List ρ
  | .arrays shape => shape.rules
  | .any alternatives => alternatives
  | _ => []

namespace Shape

theorem mem_rules_of_lookup {shape : Shape ρ} {key : String} {rule : ρ}
    (h : shape.members.lookup key = some rule) : rule ∈ shape.rules := by
  rcases List.lookup_eq_some_iff.1 h with ⟨before, after, hsplit, _⟩
  simp [rules, hsplit]

theorem mem_rules_of_others {shape : Shape ρ} {rule : ρ} (h : shape.others = some rule) :
    rule ∈ shape.rules := by
  simp [rules, h]

theorem mem_rules_of_mem {shape : Shape ρ} {key : String} {rule : ρ}
    (h : (key, rule) ∈ shape.members) : rule ∈ shape.rules := by
  refine List.mem_append_left _ ?_
  exact List.mem_map.2 ⟨(key, rule), h, rfl⟩

theorem sizeOf_lt_of_mem_rules {shape : Shape Rule} {rule : Rule} (h : rule ∈ shape.rules) :
    sizeOf rule < sizeOf shape := by
  rcases shape with ⟨members, others, tree⟩
  rcases List.mem_append.1 h with hmember | hother
  · rcases List.mem_map.1 hmember with ⟨⟨key, held⟩, hmem, rfl⟩
    have := List.sizeOf_lt_of_mem hmem
    simp at this ⊢
    omega
  · have : others = some rule := by simpa using hother
    subst this
    simp
    omega

end Shape

namespace Rule

theorem sizeOf_lt_of_mem_rules {rule held : Rule} {filter : Filter Rule}
    (hfilter : filter ∈ rule.filters) (hheld : held ∈ filter.rules) :
    sizeOf held < sizeOf rule := by
  -- Only two kinds of filters hold rules.
  have hlt : sizeOf held < sizeOf filter := by
    cases filter with
    | arrays shape =>
        have := Shape.sizeOf_lt_of_mem_rules hheld
        simp
        omega
    | any alternatives =>
        have hmem : held ∈ alternatives := hheld
        have := List.sizeOf_lt_of_mem hmem
        simp
        omega
    | _ => cases hheld
  rcases rule with ⟨filters, required, forbidden, default, ignored⟩
  have := List.sizeOf_lt_of_mem hfilter
  simp at this ⊢
  omega

/-- Induction on the nesting of rules. -/
theorem nested_induction {motive : Rule → Prop}
    (step : ∀ rule : Rule,
      (∀ filter ∈ rule.filters, ∀ held ∈ filter.rules, motive held) → motive rule)
    (rule : Rule) : motive rule := by
  refine step rule fun filter hfilter held hheld => ?_
  have hlt := sizeOf_lt_of_mem_rules hfilter hheld
  exact nested_induction step held
termination_by sizeOf rule

/-! ## Height -/

/-- The rules that the filters of a rule hold. -/
def held (rule : Rule) : List Rule := rule.filters.flatMap Filter.rules

/-- The rules that a rule holds are smaller than it. -/
theorem sizeOf_lt_of_mem_held {rule below : Rule} (h : below ∈ rule.held) :
    sizeOf below < sizeOf rule := by
  rcases List.mem_flatMap.1 h with ⟨filter, hfilter, hbelow⟩
  exact sizeOf_lt_of_mem_rules hfilter hbelow

/-- How many rules lie in each other: one more than in the highest rule that is held. -/
def height (rule : Rule) : Nat :=
  (rule.held.attach.map fun below => below.1.height).foldr max 0 + 1
termination_by sizeOf rule
decreasing_by exact sizeOf_lt_of_mem_held below.2

theorem height_pos (rule : Rule) : 0 < rule.height := by
  rw [height]
  exact Nat.succ_pos _

/-- The rules that a filter of a rule holds are lower than the rule. -/
theorem height_lt_of_mem_rules {rule below : Rule} {filter : Filter Rule}
    (hfilter : filter ∈ rule.filters) (hbelow : below ∈ filter.rules) :
    below.height < rule.height := by
  have hle : ∀ {heights : List Nat}, below.height ∈ heights →
      below.height ≤ heights.foldr max 0 := by
    intro heights hmem
    induction heights with
    | nil => cases hmem
    | cons first rest ih =>
        rcases List.mem_cons.1 hmem with hfirst | hrest
        · exact hfirst ▸ Nat.le_max_left _ _
        · exact Nat.le_trans (ih hrest) (Nat.le_max_right _ _)
  have hheld : below ∈ rule.held := List.mem_flatMap.2 ⟨filter, hfilter, hbelow⟩
  rw [height.eq_def rule]
  refine Nat.lt_succ_of_le (hle ?_)
  exact List.mem_map.2 ⟨⟨below, hheld⟩, List.mem_attach _ _, rfl⟩

/-! ## Filters at every depth -/

/-- `p` holds of the filters of a rule, and of those of the rules that it holds. -/
inductive Every (p : Filter Rule → Prop) : Rule → Prop where
  | intro {rule : Rule} (own : ∀ filter ∈ rule.filters, p filter)
      (held : ∀ filter ∈ rule.filters, ∀ below ∈ filter.rules, Every p below) : Every p rule

namespace Every

variable {p q : Filter Rule → Prop} {rule : Rule}

/-- What is true of every filter is true of the rule's own. -/
theorem own (h : Every p rule) : ∀ filter ∈ rule.filters, p filter := by
  cases h with
  | intro own _ => exact own

/-- What is true of every filter is true of those below. -/
theorem held (h : Every p rule) :
    ∀ filter ∈ rule.filters, ∀ below ∈ filter.rules, Every p below := by
  cases h with
  | intro _ held => exact held

theorem mono (h : Every p rule) (imp : ∀ filter, p filter → q filter) : Every q rule := by
  induction h with
  | intro own _ ih => exact .intro (fun filter hfilter => imp filter (own filter hfilter)) ih

/-- What holds of all filters holds of every one in a rule. -/
theorem of_forall (h : ∀ filter, p filter) (rule : Rule) : Every p rule := by
  induction rule using nested_induction with
  | step rule ih => exact .intro (fun filter _ => h filter) ih

end Every

/-- The filter is one of the rule, or of a rule that it holds. -/
inductive Contains : Rule → Filter Rule → Prop where
  | own {rule : Rule} {filter : Filter Rule} (mem : filter ∈ rule.filters) : Contains rule filter
  | held {rule below : Rule} {holder filter : Filter Rule} (mem : holder ∈ rule.filters)
      (memHeld : below ∈ holder.rules) (contains : Contains below filter) : Contains rule filter

/-- Where no filter holds rules, a rule contains its own filters only. -/
theorem contains_iff_mem {rule : Rule} {filter : Filter Rule}
    (h : ∀ holder ∈ rule.filters, holder.rules = []) :
    rule.Contains filter ↔ filter ∈ rule.filters := by
  constructor
  · intro hcontains
    cases hcontains with
    | own hmem => exact hmem
    | held hmem hheld _ =>
        rw [h _ hmem] at hheld
        cases hheld
  · exact .own

/-- What holds of all filters that a rule contains holds of every one in it. -/
theorem Every.of_contains {p : Filter Rule → Prop} {rule : Rule}
    (h : ∀ filter, rule.Contains filter → p filter) : Every p rule := by
  induction rule using nested_induction with
  | step rule ih =>
      refine .intro (fun filter hfilter => h filter (.own hfilter)) ?_
      intro holder hholder below hbelow
      exact ih holder hholder below hbelow fun filter hcontains =>
        h filter (.held hholder hbelow hcontains)

end Rule

end Assay
