import Assay.Proofs.FirstPlaces
import Assay.Proofs.Rule.Naming
import Assay.Rule.Typed

/-!
# Calls — rules that are made call by call

A call by name adds a filter or sets a modifier.  What a sequence of calls makes can be read off the
sequence: of each name the last call counts, and the first one gives the place.

* `Rule.Adds` lists what one call does to a rule, if it succeeds;
* `Rule.Described calls rule` reads the parts of a rule off the calls that made it;
* `Rule.Described.step` adds a call, and `Rule.described_of_ofCalls` goes through a sequence.
-/

namespace Assay

/-- A call by name: the name of a filter or modifier, and its arguments. -/
abbrev RuleCall := String × List Argument

namespace RuleCall

/-- The names that set modifiers and make no filters. -/
def modifierNames : List String := ["required", "default", "ignore", "forbidden"]

/-- The arguments of the last call with a name. -/
def last? (calls : List RuleCall) (name : String) : Option (List Argument) :=
  calls.reverse.lookup name

/-- The names of filters that are called, in order. -/
def filterNames (calls : List RuleCall) : List String :=
  (calls.map (·.1)).filter fun name => !modifierNames.contains name

def codeCalls (calls : List RuleCall) : List RuleCall := calls.filter (·.1 == "ignore")

/-- The last call of a name is the one at the end, if it has that name. -/
theorem last?_concat (calls : List RuleCall) (call : RuleCall) (name : String) :
    last? (calls ++ [call]) name = if call.1 = name then some call.2 else last? calls name := by
  unfold last?
  rw [List.reverse_append, List.reverse_singleton, List.singleton_append, List.lookup_cons]
  by_cases hname : name = call.1
  · simp [hname]
  · rw [beq_false_of_ne hname, if_neg (Ne.symm hname)]

theorem last?_of_ne (calls : List RuleCall) {name other : String} (different : other ≠ name)
    (arguments : List Argument) :
    last? (calls ++ [(other, arguments)]) name = last? calls name := by
  rw [last?_concat, if_neg different]

theorem last?_self (calls : List RuleCall) (name : String) (arguments : List Argument) :
    last? (calls ++ [(name, arguments)]) name = some arguments := by
  rw [last?_concat, if_pos rfl]

end RuleCall

open RuleCall

namespace Named

/-! ## Arguments that are accepted -/

theorem bind_eq_ok {α β : Type} {first : Except RuleError α} {next : α → Except RuleError β} {b : β}
    (h : first >>= next = .ok b) : ∃ a, first = .ok a ∧ next a = .ok b := by
  cases first with
  | error cause => cases h
  | ok a => exact ⟨a, rfl, h⟩

theorem eq_map_of_plainValues {name : String} {arguments : List Argument} {values : List Value}
    (h : plainValues name arguments = .ok values) : arguments = values.map .value := by
  unfold plainValues at h
  induction arguments generalizing values with
  | nil => cases h; rfl
  | cons argument rest ih =>
      rw [List.mapM_cons] at h
      rcases bind_eq_ok h with ⟨value, hvalue, h⟩
      rcases bind_eq_ok h with ⟨others, hothers, h⟩
      cases h
      cases argument with
      | value v => cases hvalue; rw [ih hothers]; rfl
      | _ => cases hvalue

/-- Counted arguments are values of an admitted number. -/
theorem admits_of_counted {name : String} {arity : Arity} {arguments : List Argument}
    {values : List Value} (h : counted name arity arguments = .ok values) :
    arguments = values.map .value ∧ arity.admits values.length = true := by
  rcases bind_eq_ok h with ⟨plain, hplain, h⟩
  rcases bind_eq_ok h with ⟨⟨⟩, hcount, h⟩
  cases h
  refine ⟨eq_map_of_plainValues hplain, ?_⟩
  unfold expectCount at hcount
  split at hcount
  · assumption
  · cases hcount

/-- The truth value that arguments give to a modifier: true, if there is none, else that of the only
one. -/
def Truth (arguments : List Argument) (truth : Bool) : Prop :=
  arguments = [] ∧ truth = true ∨ ∃ value, arguments = [.value value] ∧ truth = value.truthy

theorem truth_of_flag {name : String} {arguments : List Argument} {truth : Bool}
    (h : flag name arguments = .ok truth) : Truth arguments truth := by
  rcases bind_eq_ok h with ⟨values, hvalues, htruth⟩
  rcases admits_of_counted hvalues with ⟨rfl, hcount⟩
  cases htruth
  match values, hcount with
  | [], _ => exact .inl ⟨rfl, rfl⟩
  | [value], _ => exact .inr ⟨value, rfl, by simp⟩

end Named

namespace Rule

open Named

/-! ## One call -/

/-- What a call by name does to a rule, if it succeeds. -/
inductive Adds (rule : Rule) : String → List Argument → Rule → Prop where
  | required {arguments : List Argument} {truth : Bool} (given : Truth arguments truth) :
      Adds rule "required" arguments { rule with required := truth }
  | forbidden {arguments : List Argument} {truth : Bool} (given : Truth arguments truth) :
      Adds rule "forbidden" arguments { rule with forbidden := truth }
  | default (value : Value) : Adds rule "default" [.value value] { rule with default := some value }
  | ignore {arguments : List Argument} {codes : List String}
      (given : Named.codes "ignore" arguments = .ok codes) :
      Adds rule "ignore" arguments (rule.ignoring codes)
  | filter {name : String} {arguments : List Argument} {filter : Filter Rule}
      (other : name ∉ modifierNames) (made : Named.filter Named.alone name arguments = .ok filter) :
      Adds rule name arguments (rule.withFilter filter)

/-- What a named call adds to a rule is one of the described steps. -/
theorem adds_of_addFilter {rule next : Rule} {name : String} {arguments : List Argument}
    (h : rule.addFilter name arguments = .ok next) : rule.Adds name arguments next := by
  unfold addFilter Named.add at h
  split at h
  · rcases bind_eq_ok h with ⟨truth, htruth, h⟩
    cases h
    exact .required (truth_of_flag htruth)
  · rcases bind_eq_ok h with ⟨truth, htruth, h⟩
    cases h
    exact .forbidden (truth_of_flag htruth)
  · rcases bind_eq_ok h with ⟨values, hvalues, hnext⟩
    rcases admits_of_counted hvalues with ⟨rfl, hcount⟩
    cases hnext
    match values, hcount with
    | [value], _ => exact .default value
  · rcases bind_eq_ok h with ⟨codes, hcodes, h⟩
    cases h
    exact .ignore hcodes
  · rename_i hrequired hforbidden hdefault hignore
    rcases bind_eq_ok h with ⟨made, hmade, hnext⟩
    cases hnext
    refine .filter (fun hmem => ?_) hmade
    simp only [modifierNames, List.mem_cons, List.not_mem_nil, or_false] at hmem
    rcases hmem with hname | hname | hname | hname
    · exact hrequired hname
    · exact hdefault hname
    · exact hignore hname
    · exact hforbidden hname

/-! ## Filters -/

/-- Filters are put like entries under their names. -/
theorem map_putFilter (filter : Filter Rule) (filters : List (Filter Rule)) :
    (putFilter filter filters).map (fun other => (other.name, other)) =
      Entries.put filter.name filter (filters.map fun other => (other.name, other)) := by
  induction filters with
  | nil => rfl
  | cons other rest ih =>
      by_cases hname : other.name = filter.name
      · simp [putFilter, Entries.put, hname]
      · simp [putFilter, Entries.put, hname, ih]

theorem keys_names (filters : List (Filter Rule)) :
    Entries.keys (filters.map fun other => (other.name, other)) = filters.map Filter.name := by
  simp [Entries.keys, Function.comp_def]

/-- A filter with a new name comes last. -/
theorem names_putFilter (filter : Filter Rule) (filters : List (Filter Rule)) :
    (putFilter filter filters).map Filter.name =
      if filter.name ∈ filters.map Filter.name then filters.map Filter.name
      else filters.map Filter.name ++ [filter.name] := by
  have hkeys := Entries.keys_put filter.name filter (filters.map fun other => (other.name, other))
  rw [← map_putFilter, keys_names, keys_names] at hkeys
  exact hkeys

/-- Putting a filter leaves the names distinct. -/
theorem nodup_putFilter {filters : List (Filter Rule)} (h : (filters.map Filter.name).Nodup)
    (filter : Filter Rule) : ((putFilter filter filters).map Filter.name).Nodup := by
  rw [names_putFilter]
  exact Entries.nodup_concat h filter.name

/-- The filter that is put is found under its name, and the others are found as before. -/
theorem find?_putFilter (filter : Filter Rule) (filters : List (Filter Rule)) (name : String) :
    (putFilter filter filters).find? (·.name == name) =
      if filter.name = name then some filter else filters.find? (·.name == name) := by
  induction filters with
  | nil => by_cases hname : filter.name = name <;> simp [putFilter, hname]
  | cons other rest ih =>
      unfold putFilter
      by_cases hsame : other.name = filter.name
      · by_cases hname : filter.name = name <;> simp [hsame, hname]
      · rw [if_neg hsame, List.find?_cons, List.find?_cons, ih]
        by_cases hother : other.name = name
        · have hname : filter.name ≠ name := fun h => hsame (hother.trans h.symm)
          simp [hother, hname]
        · rw [beq_false_of_ne hother]

/-- The filters stand in the order in which their names first came, and the filter of a name is made
of its last call. -/
structure FiltersGiven (calls : List RuleCall) (filters : List (Filter Rule)) : Prop where
  names : filters.map Filter.name = (filterNames calls).eraseDups
  last : ∀ name arguments, name ∉ modifierNames → last? calls name = some arguments →
    ∃ filter, filters.find? (·.name == name) = some filter ∧ filter.name = name ∧
      Named.filter Named.alone name arguments = .ok filter

namespace FiltersGiven

variable {calls : List RuleCall} {filters : List (Filter Rule)}

theorem nil : FiltersGiven [] [] := by
  refine ⟨rfl, fun name arguments _ hlast => ?_⟩
  cases hlast

/-- A modifier leaves the filters as they are. -/
theorem modifier (h : FiltersGiven calls filters) {name : String} (hname : name ∈ modifierNames)
    (arguments : List Argument) : FiltersGiven (calls ++ [(name, arguments)]) filters := by
  refine ⟨?_, fun other given hother hlast => ?_⟩
  · have hnames : filterNames (calls ++ [(name, arguments)]) = filterNames calls := by
      simp [filterNames, hname]
    rw [hnames]
    exact h.names
  · have different : name ≠ other := fun hsame => hother (hsame ▸ hname)
    rw [last?_of_ne calls different] at hlast
    exact h.last other given hother hlast

/-- A filter takes the place of its name. -/
theorem filter (h : FiltersGiven calls filters) {name : String} {arguments : List Argument}
    {made : Filter Rule} (hname : name ∉ modifierNames)
    (hmade : Named.filter Named.alone name arguments = .ok made) :
    FiltersGiven (calls ++ [(name, arguments)]) (putFilter made filters) := by
  have hreports : made.name = name := name_of_filter hmade
  refine ⟨?_, fun other given hother hlast => ?_⟩
  · have hnames : filterNames (calls ++ [(name, arguments)]) = filterNames calls ++ [name] := by
      simp [filterNames, hname]
    rw [names_putFilter, hreports, hnames, FirstPlaces.eraseDups_concat, h.names]
    simp
  · rw [find?_putFilter, hreports]
    rw [last?_concat] at hlast
    by_cases hsame : name = other
    · subst hsame
      rw [if_pos rfl] at hlast ⊢
      cases hlast
      exact ⟨made, rfl, hreports, hmade⟩
    · rw [if_neg hsame] at hlast ⊢
      exact h.last other given hother hlast

/-- Modifiers leave no filters of their names. -/
theorem not_modifier (h : FiltersGiven calls filters) {filter : Filter Rule}
    (hfilter : filter ∈ filters) : filter.name ∉ modifierNames := by
  intro hmodifier
  have hmem : filter.name ∈ (filterNames calls).eraseDups :=
    h.names ▸ List.mem_map_of_mem hfilter
  have hkept := (List.mem_filter.1 (List.mem_eraseDups.1 hmem)).2
  simp [hmodifier] at hkept

end FiltersGiven

/-! ## Modifiers -/

/-- What the arguments of the last call with the name give, or what there is without one. -/
def LastGives (calls : List RuleCall) (name : String) (without : Prop)
    (gives : List Argument → Prop) : Prop :=
  (last? calls name).elim without gives

/-- The codes of all calls, each where it first came. -/
def CodesGiven (calls : List RuleCall) (codes : List String) : Prop :=
  ∃ given, (codeCalls calls).mapM (fun call => Named.codes call.1 call.2) = .ok given ∧
    codes = given.flatten.eraseDups

section Modifiers

variable {calls : List RuleCall} {name another : String} {arguments : List Argument}

/-- A call of another name changes nothing about the last one. -/
theorem LastGives.other {without : Prop} {gives : List Argument → Prop}
    (h : LastGives calls name without gives) (different : another ≠ name)
    (arguments : List Argument) :
    LastGives (calls ++ [(another, arguments)]) name without gives := by
  unfold LastGives
  rw [last?_of_ne calls different]
  exact h

/-- A call of the name itself is the last one. -/
theorem LastGives.called {gives : List Argument → Prop} (calls : List RuleCall) (name : String)
    (without : Prop) (h : gives arguments) :
    LastGives (calls ++ [(name, arguments)]) name without gives := by
  unfold LastGives
  rw [last?_self]
  exact h

theorem CodesGiven.other {codes : List String} (h : CodesGiven calls codes)
    (different : another ≠ "ignore") (arguments : List Argument) :
    CodesGiven (calls ++ [(another, arguments)]) codes := by
  have hcalls : codeCalls (calls ++ [(another, arguments)]) = codeCalls calls := by
    simp [codeCalls, different]
  unfold CodesGiven
  rw [hcalls]
  exact h

/-- To put codes one by one is to put them all at the end and to keep the first of each. -/
theorem foldl_putCode (codes earlier : List String) :
    codes.foldl putCode earlier.eraseDups = (earlier ++ codes).eraseDups := by
  induction codes generalizing earlier with
  | nil => simp
  | cons code rest ih =>
      have hput : putCode earlier.eraseDups code = (earlier ++ [code]).eraseDups := by
        rw [FirstPlaces.eraseDups_concat]
        by_cases hmem : code ∈ earlier <;> simp [putCode, hmem]
      rw [List.foldl_cons, hput, ih, List.append_assoc, List.singleton_append]

/-- Another call adds its codes. -/
theorem CodesGiven.called {codes more : List String} (h : CodesGiven calls codes)
    (hmore : Named.codes "ignore" arguments = .ok more) :
    CodesGiven (calls ++ [("ignore", arguments)]) (more.foldl putCode codes) := by
  rcases h with ⟨given, hgiven, rfl⟩
  have hcalls : codeCalls (calls ++ [("ignore", arguments)]) =
      codeCalls calls ++ [("ignore", arguments)] := by simp [codeCalls]
  refine ⟨given ++ [more], ?_, ?_⟩
  · rw [hcalls, List.mapM_append, hgiven, List.mapM_cons, hmore]
    rfl
  · rw [foldl_putCode, List.flatten_append, List.flatten_singleton]

/-- Codes that are put are still there once each. -/
theorem nodup_foldl_putCode (codes : List String) {ignored : List String} (h : ignored.Nodup) :
    (codes.foldl putCode ignored).Nodup := by
  induction codes generalizing ignored with
  | nil => exact h
  | cons code rest ih =>
      refine ih ?_
      have hput := Entries.nodup_concat h code
      simpa [putCode] using hput

end Modifiers

/-! ## Sequences of calls -/

/-- The rule that calls by name make of the empty one, if all of them succeed. -/
def ofCalls (calls : List RuleCall) : Except RuleError Rule :=
  calls.foldlM (fun rule call => rule.addFilter call.1 call.2) .empty

/-- The rule is as the calls say.  A modifier is as its last call says, and is not set without one;
only codes add up. -/
structure Described (calls : List RuleCall) (rule : Rule) : Prop where
  filters : FiltersGiven calls rule.filters
  required : LastGives calls "required" (rule.required = false) (Truth · rule.required)
  forbidden : LastGives calls "forbidden" (rule.forbidden = false) (Truth · rule.forbidden)
  default : LastGives calls "default" (rule.default = none) fun arguments =>
    ∃ value, arguments = [.value value] ∧ rule.default = some value
  ignored : CodesGiven calls rule.ignored

/-- One more call changes the part of the rule that it is about, and no other. -/
theorem Described.step {calls : List RuleCall} {rule next : Rule} {name : String}
    {arguments : List Argument} (h : Described calls rule) (hadds : rule.Adds name arguments next) :
    Described (calls ++ [(name, arguments)]) next := by
  cases hadds with
  | required given =>
      exact ⟨h.filters.modifier (by decide) _, .called calls _ _ given,
        h.forbidden.other (by decide) _, h.default.other (by decide) _,
        h.ignored.other (by decide) _⟩
  | forbidden given =>
      exact ⟨h.filters.modifier (by decide) _, h.required.other (by decide) _,
        .called calls _ _ given, h.default.other (by decide) _, h.ignored.other (by decide) _⟩
  | default value =>
      exact ⟨h.filters.modifier (by decide) _, h.required.other (by decide) _,
        h.forbidden.other (by decide) _, .called calls _ _ ⟨value, rfl, rfl⟩,
        h.ignored.other (by decide) _⟩
  | ignore given =>
      exact ⟨h.filters.modifier (by decide) _, h.required.other (by decide) _,
        h.forbidden.other (by decide) _, h.default.other (by decide) _, h.ignored.called given⟩
  | filter other made =>
      have hne : ∀ modifier ∈ modifierNames, name ≠ modifier := fun modifier hmem hsame =>
        other (hsame ▸ hmem)
      exact ⟨h.filters.filter other made, h.required.other (hne _ (by decide)) _,
        h.forbidden.other (hne _ (by decide)) _, h.default.other (hne _ (by decide)) _,
        h.ignored.other (hne _ (by decide)) _⟩

/-- The last of the calls is made on the rule of those before it. -/
theorem ofCalls_concat {calls : List RuleCall} {call : RuleCall} {rule : Rule}
    (h : ofCalls (calls ++ [call]) = .ok rule) :
    ∃ before, ofCalls calls = .ok before ∧ before.addFilter call.1 call.2 = .ok rule := by
  unfold ofCalls at h
  rw [List.foldlM_append] at h
  rcases bind_eq_ok h with ⟨before, hbefore, hlast⟩
  exact ⟨before, hbefore, by simpa using hlast⟩

/-- By induction on the number of calls, from the last one. -/
theorem described_of_ofCalls {calls : List RuleCall} {rule : Rule} (h : ofCalls calls = .ok rule) :
    Described calls rule := by
  induction calls using List.reverseRecOn generalizing rule with
  | nil =>
      cases h
      exact ⟨.nil, rfl, rfl, rfl, [], rfl, rfl⟩
  | append_singleton calls call ih =>
      rcases ofCalls_concat h with ⟨before, hbefore, hcall⟩
      exact (ih hbefore).step (adds_of_addFilter hcall)

end Rule

end Assay
