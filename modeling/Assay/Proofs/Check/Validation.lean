import Assay.Proofs.Check.Family

/-!
# Validation — filters that accept values as they are

A validating filter is there to accept or to refuse.  It may look at another form of the value, and
it may put something in the place of a value that it refuses; but what it accepts goes on as it
came.

* `Outcome.Passes value` says that an outcome is a fault or the value itself;
* `Filter.validates` lists the validating filters;
* `Checker.applyPlain_validates` states that those among them which look at nothing but the value
  let it pass.
-/

namespace Assay

namespace Outcome

/-- Unless the outcome has a fault, its value is this one. -/
def Passes (value : Value) (outcome : Outcome) : Prop :=
  outcome.isOk = true → outcome.value = value

variable {value : Value}

@[simp] theorem passes_ok : (ok value).Passes value := by
  intro _
  rfl

/-- Nothing is asked of a value that is refused. -/
@[simp] theorem passes_fail {other : Value} {fault : Fault} : (fail other fault).Passes value := by
  intro hok
  cases hok

/-- An outcome that keeps the value passes it, refused or not. -/
theorem passes_of_value {outcome : Outcome} (h : outcome.value = value) :
    outcome.Passes value := by
  intro _
  exact h

end Outcome

/-- The filter accepts or refuses.  Alternatives do so if the rules that are offered do. -/
def Filter.validates {ρ : Type} : Filter ρ → Bool
  | .scalar | .null | .object _ | .values => true
  | .max _ | .min _ | .less _ | .more _ => true
  | .eq .. | .not .. | .oneOf _ | .noneOf _ => true
  | .lowercase | .uppercase => true
  | .email | .url | .ip | .uri | .regexp _ | .ospatterns _ => true
  | .any _ => true
  | _ => false

namespace Check

/-! ## Kinds of values -/

theorem scalar_passes (value : Value) : (scalar value).Passes value := by
  unfold scalar
  split <;> simp

/-- Only null itself is accepted as null. -/
theorem null_passes (value : Value) : (null value).Passes value := by
  cases value with
  | null => exact Outcome.passes_ok
  | _ => exact Outcome.passes_fail

theorem object_passes (className : Option String) (value : Value) :
    (object className value).Passes value := by
  unfold object
  split <;> simp

/-- A container keeps its identity. -/
theorem values_passes (value : Value) : (values value).Passes value := by
  cases value <;> simp [values]

/-! ## Bounds -/

/-- A part that is as long as the whole is not taken for it. -/
theorem shortened_passes (count : Nat) (value : Value) (fault : Fault) :
    (shortened count value fault).Passes value := by
  unfold shortened
  split <;> simp

/-- A value within its bound is not touched. -/
theorem max_passes (bound : Number) (value : Value) : (max bound value).Passes value := by
  unfold max
  dsimp only
  split
  · split
    · simp
    · exact shortened_passes _ value _
  · simp

theorem min_passes (bound : Number) (value : Value) : (min bound value).Passes value := by
  unfold min
  dsimp only
  split
  · split <;> simp
  · simp

theorem less_passes (bound : Number) (value : Value) : (less bound value).Passes value := by
  unfold less
  dsimp only
  split
  · simp
  · split <;> simp
  · split
    · simp
    · exact shortened_passes _ value _

theorem more_passes (bound : Number) (value : Value) : (more bound value).Passes value := by
  unfold more
  dsimp only
  split
  · simp
  · split <;> simp
  · split
    · simp
    · split <;> simp
  · split <;> simp

/-! ## Comparisons -/

/-- A value that equals the target is not replaced by it. -/
theorem eq_passes (target : Value) (strict : Bool) (value : Value) :
    (eq target strict value).Passes value := by
  unfold eq
  split <;> simp

theorem not_passes (target : Value) (strict : Bool) (value : Value) :
    (not target strict value).Passes value := by
  unfold not
  split <;> simp

theorem oneOf_passes (allowed : List Value) (value : Value) :
    (oneOf allowed value).Passes value := by
  unfold oneOf
  split <;> simp

theorem noneOf_passes (rejected : List Value) (value : Value) :
    (noneOf rejected value).Passes value := by
  unfold noneOf
  split <;> simp

/-! ## Case -/

/-- A text is accepted only if it is in the case already. -/
theorem cased_passes (change : String → String) (fault : Fault) (value : Value) :
    (cased change fault value).Passes value := by
  cases value with
  | str text =>
      unfold cased
      dsimp only
      split <;> simp
  | _ => exact Outcome.passes_ok

end Check

/-- What a validating filter accepts of a value is the value itself. -/
theorem Checker.applyPlain_validates (checker : Checker) {filter : Filter Rule}
    (h : filter.validates = true) (value : Value) :
    (checker.applyPlain filter value).Passes value := by
  cases filter with
  | any _ => exact Outcome.passes_ok
  | scalar => exact Check.scalar_passes value
  | null => exact Check.null_passes value
  | object className => exact Check.object_passes className value
  | values => exact Check.values_passes value
  | max bound => exact Check.max_passes bound value
  | min bound => exact Check.min_passes bound value
  | less bound => exact Check.less_passes bound value
  | more bound => exact Check.more_passes bound value
  | eq target strict => exact Check.eq_passes target strict value
  | not target strict => exact Check.not_passes target strict value
  | oneOf allowed => exact Check.oneOf_passes allowed value
  | noneOf rejected => exact Check.noneOf_passes rejected value
  | lowercase => exact Check.cased_passes _ _ value
  | uppercase => exact Check.cased_passes _ _ value
  -- Formats never change a value, be it accepted or refused.
  | email => exact Outcome.passes_of_value (Check.formatted_value _ _ value)
  | url => exact Outcome.passes_of_value (Check.formatted_value _ _ value)
  | ip => exact Outcome.passes_of_value (Check.formatted_value _ _ value)
  | uri => exact Outcome.passes_of_value (Check.uri_value value)
  | regexp patterns => exact Outcome.passes_of_value (Check.regexp_value patterns value)
  | ospatterns patterns => exact Outcome.passes_of_value (Check.ospatterns_value patterns value)
  | _ => cases h

end Assay
