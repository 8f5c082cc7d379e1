import Assay.Proofs.Rule.Construction

/-!
# Calling — the same rule by name and by function

What a function of its own does with typed arguments, a call by name does with untyped ones: these
are checked and converted first, and a single list is spread out.  Both ways lead to the same rule,
or to the same error, as long as the untyped arguments cannot be taken for something else.

* `Rule.addFilter_kind` states what a call by the name of a kind does, and
  `Rule.addFilter_foreign` what one by any other name does;
* `Named.counted_map`, `Named.bound_ofNumber`, `Named.mapM_spread_texts` state that arguments made
  of values, numbers and texts are taken as these;
* `Refiner.call` gives the call of a refiner, and `Refiner.IsCallable` tells where it is one;
* `Rule.calls_agree` states that refiners and constructors agree with their calls.
-/

namespace Assay

open RuleCall

/-- A kind is the one with its name. -/
theorem Kind.ofName?_name (kind : Kind) : Kind.ofName? kind.name = some kind := by
  cases kind <;> decide

/-- No kind has the name of a modifier. -/
theorem Kind.name_not_modifier (kind : Kind) : kind.name ∉ modifierNames := by
  cases kind <;> decide

namespace Named

/-! ## Arguments -/

variable {name : String} {values : List Value}

/-- What is accepted of each member is accepted of all. -/
theorem mapM_map_ok {α β γ : Type} {f : β → Except RuleError γ} {g : α → β} {k : α → γ}
    (h : ∀ a, f (g a) = .ok (k a)) (members : List α) :
    (members.map g).mapM f = .ok (members.map k) := by
  have hcomp : f ∘ g = fun a => pure (k a) := funext h
  rw [List.mapM_map, hcomp, List.mapM_pure]
  rfl

/-- Values are plain arguments. -/
theorem plainValues_map (name : String) (values : List Value) :
    plainValues name (values.map .value) = .ok values := by
  refine (mapM_map_ok (k := id) ?_ values).trans ?_
  · exact fun _ => rfl
  · rw [List.map_id]

/-- Values of an admitted number are taken as they are. -/
theorem counted_map (values : List Value) {arity : Arity} (h : arity.admits values.length = true) :
    counted name arity (values.map .value) = .ok values := by
  have hcount : expectCount name arity values = .ok () := if_pos h
  unfold counted
  rw [plainValues_map]
  change (expectCount name arity values >>= fun _ => .ok values) = .ok values
  rw [hcount]
  rfl

/-- A number is a bound. -/
theorem bound_ofNumber (name : String) (n : Number) :
    bound name [.value (.ofNumber n)] = .ok n := by
  have hvalues : counted name .one [.value (.ofNumber n)] = .ok [.ofNumber n] :=
    counted_map [.ofNumber n] rfl
  unfold bound
  rw [hvalues]
  cases n <;> rfl

/-- Values that are not a single list stand for themselves. -/
theorem spread_of_not_list (h : ∀ items, values ≠ [.list items]) : spread values = values := by
  unfold spread
  split
  · exact absurd rfl (h _)
  · rfl

/-- Texts are taken one by one. -/
theorem mapM_spread_texts {α : Type} {f : Value → Except RuleError α} {k : String → α}
    (h : ∀ text, f (.str text) = .ok (k text)) (texts : List String) :
    (spread (texts.map .str)).mapM f = .ok (texts.map k) := by
  have hspread : spread (texts.map .str) = texts.map .str := by
    refine spread_of_not_list fun items hsingle => ?_
    have hmem : Value.list items ∈ texts.map Value.str := hsingle ▸ List.mem_singleton_self _
    rcases List.mem_map.1 hmem with ⟨text, _, htext⟩
    cases htext
  rw [hspread]
  exact mapM_map_ok h texts

def texts (given : List String) : List Argument := (given.map Value.str).map .value

/-- What is accepted is handed on. -/
theorem bind_ok {α β : Type} {first : Except RuleError α} {a : α} (h : first = .ok a)
    (next : α → Except RuleError β) : first >>= next = next a := by
  rw [h]
  rfl

/-- Texts are taken as patterns. -/
theorem patternTexts_texts (name : String) (patterns : List String) :
    patternTexts name (texts patterns) = .ok patterns := by
  refine (bind_ok (plainValues_map name _) _).trans ?_
  refine (mapM_spread_texts (k := id) (fun _ => rfl) patterns).trans ?_
  rw [List.map_id]

theorem codes_texts (name : String) (given : List String) :
    codes name (texts given) = .ok given := by
  refine (bind_ok (plainValues_map name _) _).trans ?_
  refine (mapM_spread_texts (k := id) (fun _ => rfl) given).trans ?_
  rw [List.map_id]

end Named

namespace Rule

open Named

variable {name : String} {arguments : List Argument} {filter : Filter Rule}

/-! ## Filters by name -/

/-- A call by any name but that of a modifier makes a filter and adds it. -/
theorem addFilter_of_not_modifier (rule : Rule) (h : name ∉ modifierNames)
    (arguments : List Argument) :
    rule.addFilter name arguments =
      Named.filter alone name arguments >>= fun filter => .ok (rule.withFilter filter) := by
  unfold addFilter Named.add
  -- The first four names are those of the modifiers.
  split
  · exact absurd (by decide) h
  · exact absurd (by decide) h
  · exact absurd (by decide) h
  · exact absurd (by decide) h
  · rfl

/-- The name of a filter adds it. -/
theorem addFilter_kind (rule : Rule) (kind : Kind) (arguments : List Argument) :
    rule.addFilter kind.name arguments =
      filterOfKind alone kind arguments >>= fun filter => .ok (rule.withFilter filter) := by
  rw [addFilter_of_not_modifier rule kind.name_not_modifier, Named.filter, Kind.ofName?_name]

/-- A filter that is made of its arguments is added. -/
theorem addFilter_of_made (rule : Rule) (kind : Kind)
    (h : filterOfKind alone kind arguments = .ok filter) :
    rule.addFilter kind.name arguments = .ok (rule.withFilter filter) := by
  rw [addFilter_kind]
  exact bind_ok h _

/-- A filter that is compiled of its arguments is added, if they can be compiled. -/
theorem addFilter_of_compiled (rule : Rule) (kind : Kind) {α : Type} {compiled : Except RuleError α}
    {make : α → Filter Rule}
    (h : filterOfKind alone kind arguments = compiled >>= fun a => .ok (make a)) :
    rule.addFilter kind.name arguments =
      compiled >>= fun a => .ok (rule.withFilter (make a)) := by
  rw [addFilter_kind, h]
  cases compiled <;> rfl

/-- A name that is no kind's adds a filter for hooks. -/
theorem addFilter_foreign (rule : Rule) (foreign : Kind.ofName? name = none)
    (h : name ∉ modifierNames) (values : List Value) :
    rule.addFilter name (values.map .value) = .ok (rule.custom name values) := by
  have hmade : Named.filter alone name (values.map .value) = .ok (.custom name values) := by
    rw [Named.filter, foreign]
    exact bind_ok (plainValues_map name values) _
  rw [addFilter_of_not_modifier rule h]
  exact bind_ok hmade _

end Rule

/-! ## Refiners by name -/

namespace Refiner

open Named

/-- The call by name that says the same. -/
def call : Refiner → RuleCall
  | max bound => ("max", [.value (.ofNumber bound)])
  | min bound => ("min", [.value (.ofNumber bound)])
  | less bound => ("less", [.value (.ofNumber bound)])
  | more bound => ("more", [.value (.ofNumber bound)])
  | eq target => ("eq", [.value target])
  | eqStrict target => ("eq", [.value target, .value (.bool true)])
  | not target => ("not", [.value target])
  | notStrict target => ("not", [.value target, .value (.bool true)])
  | oneOf allowed => ("in", allowed.map .value)
  | noneOf rejected => ("not_in", rejected.map .value)
  | trim => ("trim", [])
  | escape => ("escape", [])
  | escapeFull => ("escape", [.value (.bool true)])
  | stripTags allowed => ("strip_tags", texts allowed)
  | email => ("email", [])
  | url => ("url", [])
  | ip => ("ip", [])
  | uri => ("uri", [])
  | regexp patterns => ("regexp", texts patterns)
  | ospatterns patterns => ("ospatterns", texts patterns)
  | color => ("color", [])
  | lowercase => ("lowercase", [])
  | uppercase => ("uppercase", [])
  | custom name arguments => (name, arguments.map .value)
  | requiring => ("required", [])
  | forbidding => ("forbidden", [])
  | defaulting value => ("default", [.value value])
  | ignoring codes => ("ignore", texts codes)

/-- The call cannot be taken for something else: a single list would be spread out, and a name with
a meaning of its own is not for hooks.  Tags are read in another way. -/
def IsCallable : Refiner → Prop
  | oneOf values | noneOf values => ∀ items, values ≠ [.list items]
  | custom name _ => Kind.ofName? name = none ∧ name ∉ modifierNames
  | stripTags _ => False
  | _ => True

end Refiner

namespace Rule

open Named

/-- A refiner does what its call does. -/
theorem addFilter_call (rule : Rule) {refiner : Refiner} (h : refiner.IsCallable) :
    rule.addFilter refiner.call.1 refiner.call.2 = rule.refine refiner := by
  -- Each filter is made of its arguments at once, but for patterns, which may be refused by both.
  cases refiner with
  | max n => exact addFilter_of_made rule .max (bind_ok (bound_ofNumber _ n) _)
  | min n => exact addFilter_of_made rule .min (bind_ok (bound_ofNumber _ n) _)
  | less n => exact addFilter_of_made rule .less (bind_ok (bound_ofNumber _ n) _)
  | more n => exact addFilter_of_made rule .more (bind_ok (bound_ofNumber _ n) _)
  | eq target => exact addFilter_of_made rule .eq (bind_ok (counted_map [target] rfl) _)
  | eqStrict target =>
      exact addFilter_of_made rule .eq (bind_ok (counted_map [target, .bool true] rfl) _)
  | not target => exact addFilter_of_made rule .not (bind_ok (counted_map [target] rfl) _)
  | notStrict target =>
      exact addFilter_of_made rule .not (bind_ok (counted_map [target, .bool true] rfl) _)
  | oneOf allowed =>
      have hmade := addFilter_of_made rule .oneOf (bind_ok (plainValues_map _ allowed) _)
      rwa [spread_of_not_list h] at hmade
  | noneOf rejected =>
      have hmade := addFilter_of_made rule .noneOf (bind_ok (plainValues_map _ rejected) _)
      rwa [spread_of_not_list h] at hmade
  | trim => exact addFilter_of_made rule .trim rfl
  | escape => exact addFilter_of_made rule .escape rfl
  | escapeFull => exact addFilter_of_made rule .escape rfl
  | stripTags _ => exact h.elim
  | email => exact addFilter_of_made rule .email rfl
  | url => exact addFilter_of_made rule .url rfl
  | ip => exact addFilter_of_made rule .ip rfl
  | uri => exact addFilter_of_made rule .uri rfl
  | regexp patterns =>
      exact addFilter_of_compiled rule .regexp (bind_ok (patternTexts_texts _ patterns) _)
  | ospatterns patterns =>
      exact addFilter_of_compiled rule .ospatterns (bind_ok (patternTexts_texts _ patterns) _)
  | color => exact addFilter_of_made rule .color rfl
  | lowercase => exact addFilter_of_made rule .lowercase rfl
  | uppercase => exact addFilter_of_made rule .uppercase rfl
  | custom name arguments => exact addFilter_foreign rule h.1 h.2 arguments
  | requiring => rfl
  | forbidding => rfl
  | defaulting value => rfl
  | ignoring codes => exact bind_ok (codes_texts "ignore" codes) _

/-! ## Constructors by name -/

theorem addFilter_object (className : String) :
    empty.addFilter "object" [.value (.str className)] = .ok (objectOf className) :=
  addFilter_of_made empty .object (bind_ok (counted_map [.str className] rfl) _)

/-- Null is no condition. -/
theorem addFilter_entity {condition : Value} (h : condition.isNull = false) :
    empty.addFilter "entity" [.value condition] = .ok (entityWhere condition) := by
  refine addFilter_of_made empty .entity ((bind_ok (counted_map [condition] rfl) _).trans ?_)
  cases condition with
  | null => cases h
  | _ => rfl

theorem addFilter_any_rules (rules : List Rule) :
    empty.addFilter "any" [.rules rules] = .ok (any rules) := by
  have hrules : alternatives "any" [.rules rules] = .ok rules := by
    change Except.ok [rules].flatten = Except.ok rules
    rw [List.flatten_singleton]
  exact addFilter_of_made empty .any (bind_ok hrules _)

/-- Alternatives may also be given one by one. -/
theorem addFilter_any_each (rules : List Rule) :
    empty.addFilter "any" (rules.map .rule) = .ok (any rules) := by
  have hrules : alternatives "any" (rules.map .rule) = .ok rules := by
    refine (bind_ok (mapM_map_ok (k := fun rule => [rule]) ?_ rules) _).trans ?_
    · exact fun _ => rfl
    · exact congrArg Except.ok (List.flatMap_singleton' rules)
  exact addFilter_of_made empty .any (bind_ok hrules _)

/-- Every refiner that is callable agrees with its call, on every rule and also in what it refuses,
and the constructors with arguments agree with theirs. -/
theorem calls_agree :
    (∀ (rule : Rule) (refiner : Refiner), refiner.IsCallable →
      rule.addFilter refiner.call.1 refiner.call.2 = rule.refine refiner) ∧
    (∀ className, empty.addFilter "object" [.value (.str className)] = .ok (objectOf className)) ∧
    (∀ condition, condition.isNull = false →
      empty.addFilter "entity" [.value condition] = .ok (entityWhere condition)) ∧
    (∀ members, empty.addFilter "arrays" [.keyed (Entries.ofPairs members)] =
      .ok (arrays members)) ∧
    (∀ others, empty.addFilter "arrays" [.rule others] = .ok (arraysOf others)) ∧
    ∀ rules, empty.addFilter "any" [.rules rules] = .ok (any rules) ∧
      empty.addFilter "any" (rules.map .rule) = .ok (any rules) := by
  refine ⟨fun rule _ h => addFilter_call rule h, addFilter_object, fun _ h => addFilter_entity h,
    fun _ => ?_, fun _ => ?_, fun rules => ⟨addFilter_any_rules rules, addFilter_any_each rules⟩⟩
  · exact addFilter_of_made empty .arrays rfl
  · exact addFilter_of_made empty .arrays rfl

/-- A list among other values, a name for hooks, a pattern that is refused, and a condition. -/
theorem calls_agree_mixed :
    let rule := string.max (.int 5)
    rule.addFilter "in" [.value (.list [.int 1]), .value .null] =
        .ok (rule.oneOf [.list [.int 1], .null]) ∧
      rule.addFilter "slug" [.value (.str "-")] = .ok (rule.custom "slug" [.str "-"]) ∧
      rule.addFilter "regexp" [.value (.str "^a"), .value (.str "(")] = .error (.invalidRegex "(") ∧
      rule.regexp ["^a", "("] = .error (.invalidRegex "(") ∧
      empty.addFilter "entity" [.value (.str "")] = .ok (entityWhere (.str "")) := by
  intro rule
  have hrefused : rule.regexp ["^a", "("] = .error (.invalidRegex "(") := by rfl
  refine ⟨?_, ?_, ?_, hrefused, calls_agree.2.2.1 (.str "") rfl⟩
  · exact calls_agree.1 rule (.oneOf [.list [.int 1], .null]) (by rintro items ⟨⟩)
  · exact calls_agree.1 rule (.custom "slug" [.str "-"]) ⟨by decide, by decide⟩
  · exact (calls_agree.1 rule (.regexp ["^a", "("]) trivial).trans hrefused

end Rule

end Assay
