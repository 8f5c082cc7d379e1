import Assay.Checker

/-!
# Settled computations — what does not depend on the world

A check runs in a world of collaborators.  These things are said of a computation in it.

* `Settled admits computation a` — wherever the world is admitted, the answer is `a` and the world
  stays as it is; `Settles admits computation` — there is such an answer;
* `Ensures computation post` — whatever the world, the answer has a property;
* `Agree related first second` — in related worlds two computations answer alike, and they leave
  related worlds.

They are closed under sequencing and under going through a list.
-/

namespace Assay

variable {α β : Type} {admits : World → Prop}

/-- In every admitted world the computation answers `a` and leaves the world as it is. -/
def Settled (admits : World → Prop) (computation : StateM World α) (a : α) : Prop :=
  ∀ world, admits world → computation world = (a, world)

/-- The computation is settled at some answer. -/
def Settles (admits : World → Prop) (computation : StateM World α) : Prop :=
  ∃ a, Settled admits computation a

/-- In every world the answer of the computation has the property. -/
def Ensures (computation : StateM World α) (post : α → Prop) : Prop :=
  ∀ world, post (computation world).1

/-- Wherever the worlds are related, both computations give the same answer, and the worlds that
they leave are related. -/
def Agree (related : World → World → Prop) (first second : StateM World α) : Prop :=
  ∀ world other, related world other →
    (first world).1 = (second other).1 ∧ related (first world).2 (second other).2

namespace Settled

theorem pure (a : α) : Settled admits (Pure.pure a) a := by
  intro world _
  rfl

/-- Settled computations are settled one after the other. -/
theorem bind {first : StateM World α} {next : α → StateM World β} {a : α} {b : β}
    (hfirst : Settled admits first a) (hnext : Settled admits (next a) b) :
    Settled admits (first >>= next) b := by
  intro world hworld
  have hrun : (first >>= next) world = next (first world).1 (first world).2 := rfl
  rw [hrun, hfirst world hworld]
  exact hnext world hworld

theorem mapM {f : α → StateM World β} {g : α → β} {xs : List α}
    (h : ∀ x ∈ xs, Settled admits (f x) (g x)) : Settled admits (xs.mapM f) (xs.map g) := by
  induction xs with
  | nil => exact pure []
  | cons x xs ih =>
      rw [List.mapM_cons]
      refine bind (h x (by simp)) ?_
      refine bind (ih fun y hy => h y (by simp [hy])) ?_
      exact pure _

end Settled

namespace Settles

/-- The answer can be read off in any admitted world. -/
theorem settled {computation : StateM World α} {world : World}
    (h : Settles admits computation) (hworld : admits world) :
    Settled admits computation (computation world).1 := by
  rcases h with ⟨a, ha⟩
  rw [ha world hworld]
  exact ha

/-- Two worlds in which it settles get the same answer, and are left as they are. -/
theorem agree {computation : StateM World α} {world other : World}
    (h : Settles admits computation) (hworld : admits world) (hother : admits other) :
    Agree (fun left right => left = world ∧ right = other) computation computation := by
  rcases h with ⟨a, ha⟩
  rintro _ _ ⟨rfl, rfl⟩
  rw [ha _ hworld, ha _ hother]
  exact ⟨rfl, rfl, rfl⟩

/-- A computation settles if no two admitted worlds come apart in it. -/
theorem of_agree {computation : StateM World α}
    (h : ∀ world other, admits world → admits other →
      Agree (fun left right => left = world ∧ right = other) computation computation) :
    Settles admits computation := by
  by_cases hadmitted : ∃ world, admits world
  · rcases hadmitted with ⟨world, hworld⟩
    refine ⟨(computation world).1, fun other hother => ?_⟩
    rcases h world other hworld hother world other ⟨rfl, rfl⟩ with ⟨hanswer, -, hleft⟩
    exact Prod.ext hanswer.symm hleft
  · -- No world is admitted, and any answer will do.
    exact ⟨(computation ⟨none, []⟩).1, fun world hworld => absurd ⟨world, hworld⟩ hadmitted⟩

end Settles

namespace Ensures

variable {post : α → Prop}

/-- What holds of every result is ensured. -/
theorem of_forall (h : ∀ a, post a) (computation : StateM World α) :
    Ensures computation post := by
  intro world
  exact h (computation world).1

/-- What is ensured may be weakened. -/
theorem mono {computation : StateM World α} {weaker : α → Prop} (h : Ensures computation post)
    (himp : ∀ a, post a → weaker a) : Ensures computation weaker := by
  intro world
  exact himp _ (h world)

theorem pure {a : α} (h : post a) : Ensures (Pure.pure a) post := by
  intro _
  exact h

/-- What the first computation ensures can be used for the next. -/
theorem bind {first : StateM World α} {next : α → StateM World β} {final : β → Prop}
    (hfirst : Ensures first post) (hnext : ∀ a, post a → Ensures (next a) final) :
    Ensures (first >>= next) final := by
  intro world
  exact hnext (first world).1 (hfirst world) (first world).2

theorem mapM {f : α → StateM World β} {each : β → Prop} {xs : List α}
    (h : ∀ x ∈ xs, Ensures (f x) each) : Ensures (xs.mapM f) fun ys => ∀ y ∈ ys, each y := by
  induction xs with
  | nil => exact pure (by simp)
  | cons x xs ih =>
      rw [List.mapM_cons]
      refine bind (h x (by simp)) fun y hy => ?_
      refine bind (ih fun z hz => h z (by simp [hz])) fun ys hys => ?_
      exact pure (by simpa using ⟨hy, hys⟩)

/-- What each step says of its answer is said of the list of answers. -/
theorem map_mapM {γ : Type} {f : α → StateM World β} {g : β → γ} {h : α → γ} {xs : List α}
    (hf : ∀ x ∈ xs, Ensures (f x) (g · = h x)) :
    Ensures (xs.mapM f) fun ys => ys.map g = xs.map h := by
  induction xs with
  | nil => exact pure rfl
  | cons x xs ih =>
      rw [List.mapM_cons]
      refine bind (hf x (by simp)) fun y hy => ?_
      refine bind (ih fun z hz => hf z (by simp [hz])) fun ys hys => ?_
      exact pure (by simp [hy, hys])

end Ensures

namespace Agree

variable {related : World → World → Prop}

theorem pure (a : α) : Agree related (Pure.pure a) (Pure.pure a) := by
  intro _ _ hrelated
  exact ⟨rfl, hrelated⟩

/-- Agreeing computations agree one after the other. -/
theorem bind {first second : StateM World α} {next next' : α → StateM World β}
    (hfirst : Agree related first second) (hnext : ∀ a, Agree related (next a) (next' a)) :
    Agree related (first >>= next) (second >>= next') := by
  intro world other hrelated
  rcases hfirst world other hrelated with ⟨hanswer, hleft⟩
  have hrest := hnext (first world).1 (first world).2 (second other).2 hleft
  have hsecond : (second >>= next') other = next' (first world).1 (second other).2 := by
    rw [hanswer]
    rfl
  rw [hsecond]
  exact hrest

/-- Computations that agree in every world, and leave the same one, are the same. -/
theorem eq_iff {first second : StateM World α} : Agree Eq first second ↔ first = second := by
  constructor
  · intro h
    funext world
    rcases h world world rfl with ⟨hanswer, hleft⟩
    exact Prod.ext hanswer hleft
  · rintro rfl world _ rfl
    exact ⟨rfl, rfl⟩

end Agree

end Assay
