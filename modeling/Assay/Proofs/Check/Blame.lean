import Assay.Checker

/-!
# Blame — whose faults the filters report

Every filter with a meaning of its own reports faults of one form: the name of its kind, a message,
no children.

* `Outcome.Blames kind` says this of an outcome;
* `Checker.applyPlain_blames` states it for the filters that look at a value only, and
  `Check.entity_blames` for the one that looks into the store.
-/

namespace Assay

namespace Outcome

/-- A fault of the outcome has the name of the kind, a message and no children. -/
def Blames (kind : Kind) (outcome : Outcome) : Prop :=
  ∀ fault, outcome.fault = some fault → ∃ message, fault = ⟨some kind.name, some message, []⟩

variable {kind : Kind} {value : Value}

@[simp] theorem blames_ok : (ok value).Blames kind := by
  intro fault hfault
  cases hfault

/-- A fault that is no more than the code and the message of its filter blames it. -/
theorem blames_fail {fault : Fault} {message : Message}
    (h : fault = ⟨some kind.name, some message, []⟩) : (fail value fault).Blames kind := by
  intro other hother
  cases hother
  exact ⟨message, h⟩

@[simp] theorem blames_faultOf {template : String} :
    (fail value (Check.faultOf kind template)).Blames kind :=
  blames_fail rfl

@[simp] theorem blames_withArgument {template argument : String} :
    (fail value ((Check.faultOf kind template).withArgument argument)).Blames kind :=
  blames_fail rfl

@[simp] theorem blames_boundFault {template : String} {bound : Number} :
    (fail value (Check.boundFault kind template bound)).Blames kind :=
  blames_fail rfl

end Outcome

open Outcome

namespace Check

variable {kind : Kind}

/-! ## Coercions -/

theorem bool_blames (value : Value) : (bool value).Blames .bool := by
  cases value <;> simp [bool]

theorem int_blames (bound : Int64) (value : Value) : (int bound value).Blames .int := by
  unfold int
  dsimp only
  split <;> simp

theorem double_blames (value : Value) : (double value).Blames .double := by
  unfold double
  dsimp only
  split <;> simp

theorem string_blames (value : Value) : (string value).Blames .string := by
  unfold string
  split <;> simp

theorem scalar_blames (value : Value) : (scalar value).Blames .scalar := by
  unfold scalar
  split <;> simp

theorem null_blames (value : Value) : (null value).Blames .null := by
  unfold null
  split <;> simp

/-! ## Host values -/

theorem object_blames (className : Option String) (value : Value) :
    (object className value).Blames .object := by
  unfold object
  split <;> simp

theorem values_blames (value : Value) : (values value).Blames .values := by
  cases value <;> simp [values]

/-- Whatever the normalizer makes of it, a condition filter blames itself. -/
theorem condition_blames (normalizer : Option (Value → Option Value)) (value : Value) :
    (condition normalizer value).Blames .condition := by
  unfold condition
  split <;> simp

/-- Whatever becomes of the reference, an entity filter blames itself. -/
theorem entity_blames (condition : Option Value) (store : Option EntityStore) (value : Value) :
    (entity condition store value).1.Blames .entity := by
  unfold entity
  split
  · simp
  · split <;> simp

/-! ## Bounds -/

/-- A bound blames its own filter, whatever it cuts off. -/
theorem shortened_blames {count : Nat} {template : String} {bound : Number} (value : Value) :
    (shortened count value (boundFault kind template bound)).Blames kind := by
  unfold shortened
  split <;> simp

theorem max_blames (bound : Number) (value : Value) : (max bound value).Blames .max := by
  unfold max
  dsimp only
  split
  · split
    · simp
    · exact shortened_blames value
  · simp

theorem min_blames (bound : Number) (value : Value) : (min bound value).Blames .min := by
  unfold min
  dsimp only
  split
  · split <;> simp
  · simp

theorem less_blames (bound : Number) (value : Value) : (less bound value).Blames .less := by
  unfold less
  dsimp only
  split
  · simp
  · split <;> simp
  · split
    · simp
    · exact shortened_blames value

theorem more_blames (bound : Number) (value : Value) : (more bound value).Blames .more := by
  unfold more
  dsimp only
  split
  · simp
  · split <;> simp
  · split
    · simp
    · split <;> simp
  · split <;> simp

/-! ## Comparisons -/

theorem eq_blames (target : Value) (strict : Bool) (value : Value) :
    (eq target strict value).Blames .eq := by
  unfold eq
  split <;> simp

theorem not_blames (target : Value) (strict : Bool) (value : Value) :
    (not target strict value).Blames .not := by
  unfold not
  split <;> simp

theorem oneOf_blames (allowed : List Value) (value : Value) :
    (oneOf allowed value).Blames .oneOf := by
  unfold oneOf
  split <;> simp

theorem noneOf_blames (rejected : List Value) (value : Value) :
    (noneOf rejected value).Blames .noneOf := by
  unfold noneOf
  split <;> simp

/-! ## Texts and formats -/

/-- A cleaning filter blames itself. -/
theorem cleaned_blames {template : String} (clean : String → String) (value : Value) :
    (cleaned clean (faultOf kind template) value).Blames kind := by
  unfold cleaned cleanedTo
  split
  · split <;> simp
  · simp

theorem cased_blames {template : String} (change : String → String) (value : Value) :
    (cased change (faultOf kind template) value).Blames kind := by
  unfold cased
  split
  · split <;> simp
  · simp

theorem color_blames (value : Value) : (color value).Blames .color := by
  unfold color
  dsimp only
  split <;> simp

theorem formatted_blames {template : String} (valid : String → Bool) (value : Value) :
    (formatted (faultOf kind template) valid value).Blames kind := by
  unfold formatted
  split
  · split <;> simp
  · simp

theorem uri_blames (value : Value) : (uri value).Blames .uri := by
  unfold uri
  dsimp only
  split <;> split <;> simp

theorem regexp_blames (patterns : List (Option Regex)) (value : Value) :
    (regexp patterns value).Blames .regexp := by
  unfold regexp
  dsimp only
  split <;> simp

theorem ospatterns_blames (patterns : GlobSet) (value : Value) :
    (ospatterns patterns value).Blames .ospatterns := by
  unfold ospatterns
  split <;> simp

end Check

namespace Checker

/-- What a filter of a kind reports, it reports under the name of the kind. -/
theorem applyPlain_blames (checker : Checker) {filter : Filter Rule} {kind : Kind}
    (hkind : filter.kind? = some kind) (value : Value) :
    (checker.applyPlain filter value).Blames kind := by
  cases filter with
  | custom name arguments => cases hkind
  | bool => cases hkind; exact Check.bool_blames value
  | int => cases hkind; exact Check.int_blames _ value
  | double => cases hkind; exact Check.double_blames value
  | string => cases hkind; exact Check.string_blames value
  | scalar => cases hkind; exact Check.scalar_blames value
  | null => cases hkind; exact Check.null_blames value
  | object className => cases hkind; exact Check.object_blames className value
  | values => cases hkind; exact Check.values_blames value
  | condition => cases hkind; exact Check.condition_blames _ value
  | max bound => cases hkind; exact Check.max_blames bound value
  | min bound => cases hkind; exact Check.min_blames bound value
  | less bound => cases hkind; exact Check.less_blames bound value
  | more bound => cases hkind; exact Check.more_blames bound value
  | eq target strict => cases hkind; exact Check.eq_blames target strict value
  | not target strict => cases hkind; exact Check.not_blames target strict value
  | oneOf allowed => cases hkind; exact Check.oneOf_blames allowed value
  | noneOf rejected => cases hkind; exact Check.noneOf_blames rejected value
  | trim => cases hkind; exact Check.cleaned_blames _ value
  | escape full => cases hkind; exact Check.cleaned_blames _ value
  | stripTags allowed => cases hkind; exact Check.cleaned_blames _ value
  | lowercase => cases hkind; exact Check.cased_blames _ value
  | uppercase => cases hkind; exact Check.cased_blames _ value
  | color => cases hkind; exact Check.color_blames value
  | email => cases hkind; exact Check.formatted_blames _ value
  | url => cases hkind; exact Check.formatted_blames _ value
  | ip => cases hkind; exact Check.formatted_blames _ value
  | uri => cases hkind; exact Check.uri_blames value
  | regexp patterns => cases hkind; exact Check.regexp_blames patterns value
  | ospatterns patterns => cases hkind; exact Check.ospatterns_blames patterns value
  | arrays _ | any _ | entity _ => exact blames_ok

end Checker

end Assay
