import Assay.Proofs.Fault.Leaves
import Assay.Proofs.Fault.Recording
import Assay.Proofs.Joining

/-!
# Merging — sums of fault trees

To merge a second tree into a first one is to join their children, with merging again where both
have a child, and to take over code and message where the first tree has neither.

* `Fault.joined_children` states it of the children of a sum;
* `Fault.Keyed.add`, `Fault.add_assoc`, `Fault.add_self` and `Fault.isPresent_add` are the laws of
  sums, each by induction on a tree;
* `Fault.add_idempotent_monoid` collects them.
-/

namespace Assay.Fault

/-! ## One node -/

/-- What the node itself carries. -/
def heading (fault : Fault) : Option String × Option Message := (fault.code, fault.message)

/-- The node carries neither a code nor a message. -/
def isBare (fault : Fault) : Bool := fault.code.isNone && fault.message.isNone

theorem heading_of_isBare {fault : Fault} (h : fault.isBare = true) :
    fault.heading = (none, none) := by
  simpa [isBare, heading] using h

/-- The first heading stays, unless it is bare. -/
theorem heading_add (fault other : Fault) :
    (fault.add other).heading = if fault.isBare then other.heading else fault.heading := by
  have hadd : (fault.add other).heading =
      (if fault.isBare then other.code else fault.code,
        if fault.isBare then other.message else fault.message) := by
    cases other
    rfl
  rw [hadd]
  cases fault.isBare <;> rfl

/-- Children are added one by one. -/
theorem children_add (fault other : Fault) :
    (fault.add other).children = addChildren fault.children other.children := by
  cases other
  rfl

/-- A fault is present by its heading or by its children. -/
theorem isPresent_eq (fault : Fault) :
    fault.isPresent = (!fault.isBare || anyPresent fault.children) := by
  rcases fault with ⟨code, message, children⟩
  cases code <;> cases message <;> simp [isPresent, isBare]

/-- Trees are equal if their nodes carry the same and their children are equal. -/
theorem eq_of_heading {fault other : Fault} (hheading : fault.heading = other.heading)
    (hchildren : fault.children = other.children) : fault = other := by
  cases fault
  cases other
  simp_all [heading]

/-- A sum is bare only if both of its parts are. -/
theorem isBare_add (fault other : Fault) :
    (fault.add other).isBare = (fault.isBare && other.isBare) := by
  have hbare : ∀ tree : Fault, tree.isBare = (tree.heading.1.isNone && tree.heading.2.isNone) :=
    fun _ => rfl
  rw [hbare, heading_add]
  cases h : fault.isBare with
  | true => rfl
  | false => exact (hbare fault).symm.trans h

/-! ## Children -/

/-- By induction on the second list: every child is joined to those that are there. -/
theorem joined_addChildren {mine children : List (String × Fault)}
    (hmine : (Entries.keys mine).Nodup) (distinct : (Entries.keys children).Nodup)
    (copied : ∀ child ∈ children, empty.add child.2 = child.2) :
    Entries.Joined add mine children (addChildren mine children) := by
  induction children generalizing mine with
  | nil =>
      rw [addChildren]
      exact .nil add hmine
  | cons entry rest ih =>
      rcases entry with ⟨key, child⟩
      rcases List.nodup_cons.1 distinct with ⟨hnew, hrest⟩
      have hfirst : Entries.Joined add mine [(key, child)]
          (Entries.alter key empty (fun f => f.add child) mine) :=
        Entries.joined_alter hmine key (copied (key, child) List.mem_cons_self)
      have hothers : ∀ other ∈ rest, empty.add other.2 = other.2 := fun other hother =>
        copied other (List.mem_cons_of_mem _ hother)
      rw [addChildren]
      exact hfirst.cons (ih hfirst.nodup hrest hothers) hnew

/-- The children of a sum are those of its parts, merged where both have one. -/
theorem joined_children {fault other : Fault} (h : fault.Keyed) (hother : other.Keyed) :
    Entries.Joined add fault.children other.children (fault.add other).children := by
  have hcopied : ∀ child ∈ other.children, empty.add child.2 = child.2 := by
    intro child hchild
    have hlookup : other.children.lookup child.1 = some child.2 :=
      (Entries.lookup_eq_some_iff_mem hother.distinct).2 hchild
    exact empty_add (hother.of_lookup hlookup)
  rw [children_add]
  exact joined_addChildren h.distinct hother.distinct hcopied

/-! ## Laws -/

/-- The children of a sum have distinct keys at every node. -/
theorem Keyed.add {fault other : Fault} (h : fault.Keyed) (hother : other.Keyed) :
    (fault.add other).Keyed := by
  induction h generalizing other with
  | @intro fault distinct below ih =>
      have hjoined := joined_children (.intro distinct below) hother
      refine .intro hjoined.nodup fun entry hentry => ?_
      have hlookup := (Entries.lookup_eq_some_iff_mem hjoined.nodup).2 hentry
      rw [hjoined.lookup] at hlookup
      -- A child comes from either part, or it is a sum itself.
      cases hmine : fault.children.lookup entry.1 with
      | none =>
          have htheirs : other.children.lookup entry.1 = some entry.2 := by
            simpa [hmine] using hlookup
          exact hother.of_lookup htheirs
      | some child =>
          have hmem : (entry.1, child) ∈ fault.children :=
            (Entries.lookup_eq_some_iff_mem distinct).1 hmine
          cases htheirs : other.children.lookup entry.1 with
          | none =>
              have hsame : child = entry.2 := by simpa [hmine, htheirs] using hlookup
              exact hsame ▸ below _ hmem
          | some added =>
              have hsum : child.add added = entry.2 := by simpa [hmine, htheirs] using hlookup
              exact hsum ▸ ih _ hmem (hother.of_lookup htheirs)

/-- By induction on the first tree: below, three children under one key are smaller sums. -/
theorem add_assoc {first second third : Fault} (hfirst : first.Keyed) (hsecond : second.Keyed)
    (hthird : third.Keyed) :
    (first.add second).add third = first.add (second.add third) := by
  induction hfirst generalizing second third with
  | @intro first distinct below ih =>
      have hfirst : first.Keyed := .intro distinct below
      have hchildren : ((first.add second).add third).children =
          (first.add (second.add third)).children := by
        refine (joined_children hfirst hsecond).assoc
          (joined_children (hfirst.add hsecond) hthird) (joined_children hsecond hthird)
          (joined_children hfirst (hsecond.add hthird)) ?_
        intro key x y z hx hy hz
        have hmem : (key, x) ∈ first.children := (Entries.lookup_eq_some_iff_mem distinct).1 hx
        exact ih _ hmem (hsecond.of_lookup hy) (hthird.of_lookup hz)
      refine eq_of_heading ?_ hchildren
      rw [heading_add, heading_add, heading_add, heading_add, isBare_add]
      cases first.isBare <;> rfl

/-- Adding the empty fault changes nothing. -/
theorem add_empty (fault : Fault) : fault.add empty = fault := by
  have hchildren : (fault.add empty).children = fault.children := by
    rw [children_add]
    rfl
  refine eq_of_heading ?_ hchildren
  rw [heading_add]
  cases hbare : fault.isBare with
  | true => exact (heading_of_isBare hbare).symm
  | false => rfl

/-- What is there already is not taken over again. -/
theorem add_self {fault : Fault} (h : fault.Keyed) : fault.add fault = fault := by
  induction h with
  | @intro fault distinct below ih =>
      have hkeyed : fault.Keyed := .intro distinct below
      have hchildren : (fault.add fault).children = fault.children := by
        refine (joined_children hkeyed hkeyed).self distinct fun key child hchild => ?_
        exact ih _ ((Entries.lookup_eq_some_iff_mem distinct).1 hchild)
      refine eq_of_heading ?_ hchildren
      rw [heading_add, ite_self]

/-- To change one child adds to what is present as much as it adds to the child. -/
theorem anyPresent_alter {change : Fault → Fault} {added : Bool}
    (hchange : ∀ fault, (change fault).isPresent = (fault.isPresent || added)) (key : String)
    (children : List (String × Fault)) :
    anyPresent (Entries.alter key empty change children) = (anyPresent children || added) := by
  induction children with
  | nil =>
      have hempty : empty.isPresent = false := rfl
      simp [Entries.alter, anyPresent, hchange, hempty]
  | cons entry rest ih =>
      rcases entry with ⟨k, child⟩
      by_cases hkey : k = key
      · have hfirst : anyPresent (Entries.alter key empty change ((k, child) :: rest)) =
            ((change child).isPresent || anyPresent rest) := by
          simp [Entries.alter, anyPresent, hkey]
        rw [hfirst, hchange, anyPresent, Bool.or_right_comm]
      · simp [Entries.alter, anyPresent, hkey, ih, Bool.or_assoc]

/-- Children that add to each other what they should do so in a list. -/
theorem anyPresent_addChildren (mine : List (String × Fault)) {children : List (String × Fault)}
    (h : ∀ child ∈ children, ∀ fault : Fault,
      (fault.add child.2).isPresent = (fault.isPresent || child.2.isPresent)) :
    anyPresent (addChildren mine children) = (anyPresent mine || anyPresent children) := by
  induction children generalizing mine with
  | nil => simp [addChildren, anyPresent]
  | cons entry rest ih =>
      rcases entry with ⟨key, child⟩
      have hfirst := anyPresent_alter (h (key, child) List.mem_cons_self) key mine
      have hrest := ih (Entries.alter key empty (fun f => f.add child) mine)
        fun other hother => h other (List.mem_cons_of_mem _ hother)
      rw [addChildren, hrest, hfirst, anyPresent, Bool.or_assoc]

/-- Nothing that is present is lost in a sum, and nothing comes into being. -/
theorem isPresent_add (fault other : Fault) :
    (fault.add other).isPresent = (fault.isPresent || other.isPresent) := by
  induction other using children_induction generalizing fault with
  | step other ih =>
      have hchildren := anyPresent_addChildren fault.children ih
      rw [isPresent_eq, isPresent_eq fault, isPresent_eq other, isBare_add, children_add,
        hchildren]
      cases fault.isBare <;> cases other.isBare <;> simp

/-- Fault trees with the placeholder form an idempotent monoid, and a sum is present if and only if
one of its parts is. -/
theorem add_idempotent_monoid {first second third : Fault} (hfirst : first.Keyed)
    (hsecond : second.Keyed) (hthird : third.Keyed) :
    (first.add second).Keyed ∧
      (first.add second).add third = first.add (second.add third) ∧
      first.add empty = first ∧ empty.add first = first ∧ first.add first = first ∧
      ((first.add second).isPresent = true ↔
        first.isPresent = true ∨ second.isPresent = true) := by
  refine ⟨hfirst.add hsecond, add_assoc hfirst hsecond hthird, add_empty first, empty_add hfirst,
    add_self hfirst, ?_⟩
  rw [isPresent_add, Bool.or_eq_true]

/-- Three trees with a placeholder, a common child and children in different orders. -/
theorem add_idempotent_monoid_nested :
    let int := new "int" "Invalid integer"
    let max := (new "max" "Must be at most %s").withArgument "9"
    let first : Fault := ⟨none, none, [("a", int), ("b", empty)]⟩
    let second : Fault := ⟨some "arrays", none, [("b", ⟨none, none, [("c", max)]⟩), ("a", max)]⟩
    let third : Fault := ⟨some "any", none, [("d", empty), ("b", int)]⟩
    let sum : Fault :=
      ⟨some "arrays", none,
        [("a", int), ("b", ⟨int.code, int.message, [("c", max)]⟩), ("d", empty)]⟩
    first.Keyed ∧ second.Keyed ∧ third.Keyed ∧ (first.add second).Keyed ∧
      (first.add second).add third = sum ∧ first.add (second.add third) = sum ∧
      first.add empty = first ∧ empty.add first = first ∧ first.add first = first ∧
      (first.add second).isPresent = true := by
  intro int max first second third sum
  have hleaf : ∀ code message, Keyed ⟨code, message, []⟩ := fun _ _ =>
    .intro List.nodup_nil fun _ hchild => by cases hchild
  have hbelow : Keyed ⟨none, none, [("c", max)]⟩ :=
    .intro (by decide) (List.forall_mem_singleton.2 (hleaf _ _))
  have hfirst : first.Keyed :=
    .intro (by decide) (List.forall_mem_cons.2
      ⟨hleaf _ _, List.forall_mem_singleton.2 (hleaf _ _)⟩)
  have hsecond : second.Keyed :=
    .intro (by decide) (List.forall_mem_cons.2
      ⟨hbelow, List.forall_mem_singleton.2 (hleaf _ _)⟩)
  have hthird : third.Keyed :=
    .intro (by decide) (List.forall_mem_cons.2
      ⟨hleaf _ _, List.forall_mem_singleton.2 (hleaf _ _)⟩)
  rcases add_idempotent_monoid hfirst hsecond hthird with
    ⟨hkeyed, hassoc, hright, hleft, hself, hpresent⟩
  have hsum : (first.add second).add third = sum := by rfl
  exact ⟨hfirst, hsecond, hthird, hkeyed, hsum, hassoc.symm.trans hsum, hright, hleft, hself,
    hpresent.2 (.inl rfl)⟩

end Assay.Fault
