import Assay.Proofs.Value.Equality

/-!
# Reordering — maps whose entries stand in another order

Strict equality sees the order in which the entries of a map stand; loose equality does not, however
deep the map lies in lists and maps.

* `Reordered` relates values that differ in the order of entries alone;
* `Interchangeable` says that two values are loosely equal to the same values, on either side;
* `interchangeable_lists` and `interchangeable_maps` state it of containers with such members;
* `looseEq_reordered` states that loose equality stays as it is when either side is reordered.
-/

namespace Assay.Value

/-- The entries of maps stand in another order, at any depth of lists and maps.  What `values`
containers hold stays as it is. -/
inductive Reordered : Value → Value → Prop where
  | refl (value : Value) : Reordered value value
  | trans {a b c : Value} (first : Reordered a b) (second : Reordered b c) : Reordered a c
  | order {xs ys : List (String × Value)} (perm : xs.Perm ys) : Reordered (map xs) (map ys)
  | item (before : List Value) {x y : Value} (after : List Value) (member : Reordered x y) :
      Reordered (list (before ++ x :: after)) (list (before ++ y :: after))
  | entry (before : List (String × Value)) (key : String) {x y : Value}
      (after : List (String × Value)) (member : Reordered x y) :
      Reordered (map (before ++ (key, x) :: after)) (map (before ++ (key, y) :: after))

/-! ## Keys stay distinct -/

theorem KeysDistinct.items_iff {items : List Value} :
    (list items).KeysDistinct ↔ ∀ x ∈ items, x.KeysDistinct := by
  constructor
  · exact fun h x hx => h.of_part (.of_mem hx)
  · rintro h entries (_ | ⟨hmem, hbelow⟩)
    exact h _ hmem entries hbelow

theorem KeysDistinct.entries_iff {entries : List (String × Value)} :
    (map entries).KeysDistinct ↔
      (Entries.keys entries).Nodup ∧ ∀ entry ∈ entries, entry.2.KeysDistinct := by
  constructor
  · exact fun h => ⟨h.own, fun entry hentry => h.of_part (.of_entry hentry)⟩
  · rintro ⟨hown, h⟩ others (_ | _ | ⟨hmem, hbelow⟩)
    · exact hown
    · exact h _ hmem others hbelow

/-- Reordering keeps the keys distinct. -/
theorem Reordered.keysDistinct {a b : Value} (h : Reordered a b) (distinct : a.KeysDistinct) :
    b.KeysDistinct := by
  induction h with
  | refl => exact distinct
  | trans _ _ ihfirst ihsecond => exact ihsecond (ihfirst distinct)
  | order perm =>
      rw [KeysDistinct.entries_iff] at distinct ⊢
      have hkeys := (perm.map Prod.fst).nodup_iff.1 distinct.1
      exact ⟨hkeys, fun entry hentry => distinct.2 entry (perm.mem_iff.2 hentry)⟩
  | item before after _ ih =>
      rw [KeysDistinct.items_iff] at distinct ⊢
      simp only [List.forall_mem_append, List.forall_mem_cons] at distinct ⊢
      exact ⟨distinct.1, ih distinct.2.1, distinct.2.2⟩
  | entry before key after _ ih =>
      rw [KeysDistinct.entries_iff] at distinct ⊢
      simp only [List.forall_mem_append, List.forall_mem_cons] at distinct ⊢
      refine ⟨?_, distinct.2.1, ih distinct.2.2.1, distinct.2.2.2⟩
      simpa [Entries.keys] using distinct.1

/-! ## Values that may stand for each other -/

/-- Both are loosely equal to the same values, on either side. -/
def Interchangeable (a b : Value) : Prop :=
  ∀ c : Value, c.KeysDistinct → looseEq a c = looseEq b c ∧ looseEq c a = looseEq c b

theorem Interchangeable.refl (a : Value) : Interchangeable a a := fun _ _ => ⟨rfl, rfl⟩

theorem Interchangeable.symm {a b : Value} (h : Interchangeable a b) : Interchangeable b a :=
  fun c hc => ⟨(h c hc).1.symm, (h c hc).2.symm⟩

/-- Interchangeable values can be exchanged in a chain. -/
theorem Interchangeable.trans {a b c : Value} (first : Interchangeable a b)
    (second : Interchangeable b c) : Interchangeable a c := fun d hd =>
  ⟨(first d hd).1.trans (second d hd).1, (first d hd).2.trans (second d hd).2⟩

/-- Containers around the other value are stripped off first, so that only its core matters. -/
theorem interchangeable_of_cores {a b : Value} (ha : a.isWrapped = false)
    (hb : b.isWrapped = false)
    (h : ∀ c : Value, c.KeysDistinct → c.isWrapped = false →
      looseEq a c = looseEq b c ∧ looseEq c a = looseEq c b) :
    Interchangeable a b := by
  intro c hc
  have hcore := h c.core (hc.of_part (partOf_core c)) (isWrapped_core c)
  have hleft : looseEq c a = looseEq c b := by
    rw [looseEq_values_left ha, looseEq_values_left hb, hcore.2]
  cases c with
  | values identity raw =>
      -- With a container on one side only, the order of the two does not matter.
      have hturn : ∀ d : Value, d.isWrapped = false →
          looseEq d (values identity raw) = looseEq (values identity raw) d := by
        intro d hd
        refine looseEq_comm_of_not_nested ?_
        cases d with
        | values => cases hd
        | _ => rfl
      exact ⟨by rw [hturn a ha, hturn b hb, hleft], hleft⟩
  | _ => exact ⟨(h _ hc rfl).1, hleft⟩

/-- Beside anything but a container of its kind, only whether a container is blank matters. -/
theorem looseEq_of_isBlank {a b c : Value}
    (alike : bothNested a b = true) (single : a.isWrapped = false ∧ c.isWrapped = false)
    (blank : a.isBlank = b.isBlank) (other : bothNested a c = false) :
    looseEq a c = looseEq b c ∧ looseEq c a = looseEq c b := by
  have hsame : looseEq a c = looseEq b c ∧ bothNested c a = false ∧ bothNested c b = false := by
    rw [looseEq.eq_def a, looseEq.eq_def b]
    cases a with
    | list xs =>
        cases b with
        | list ys =>
            cases c with
            | list => cases other
            | values => cases single.2
            | null => exact ⟨blank, rfl, rfl⟩
            | bool t => exact ⟨congrArg (t == !·) blank, rfl, rfl⟩
            | _ => exact ⟨rfl, rfl, rfl⟩
        | _ => cases alike
    | map xs =>
        cases b with
        | map ys =>
            cases c with
            | map => cases other
            | values => cases single.2
            | null => exact ⟨blank, rfl, rfl⟩
            | bool t => exact ⟨congrArg (t == !·) blank, rfl, rfl⟩
            | _ => exact ⟨rfl, rfl, rfl⟩
        | _ => cases alike
    | values => cases single.1
    | _ => cases alike
  rcases hsame with ⟨hsame, ha, hb⟩
  refine ⟨hsame, ?_⟩
  rw [looseEq_comm_of_not_nested ha, looseEq_comm_of_not_nested hb, hsame]

/-! ## Containers with such members -/

theorem interchangeable_lists {xs ys : List Value} (h : List.Forall₂ Interchangeable xs ys) :
    Interchangeable (list xs) (list ys) := by
  -- Item by item, what is equal to the one is equal to the other.
  have hitems : ∀ zs : List Value, (∀ z ∈ zs, z.KeysDistinct) →
      (List.Forall₂ (fun x z => looseEq x z = true) xs zs ↔
        List.Forall₂ (fun y z => looseEq y z = true) ys zs) ∧
      (List.Forall₂ (fun z x => looseEq z x = true) zs xs ↔
        List.Forall₂ (fun z y => looseEq z y = true) zs ys) := by
    induction h with
    | nil => exact fun _ _ => ⟨Iff.rfl, Iff.rfl⟩
    | cons hfirst _ ih =>
        intro zs hzs
        cases zs with
        | nil => simp
        | cons z zs =>
            have hz := hfirst z (hzs z List.mem_cons_self)
            have hrest := ih zs fun w hw => hzs w (List.mem_cons_of_mem _ hw)
            simp only [List.forall₂_cons, hz.1, hz.2, hrest.1, hrest.2, and_self]
  refine interchangeable_of_cores rfl rfl fun c hc hsingle => ?_
  cases c with
  | list zs =>
      have hzs := hitems zs (KeysDistinct.items_iff.1 hc)
      constructor
      · rw [Bool.eq_iff_iff, looseEq_lists, looseEq_lists, hzs.1]
      · rw [Bool.eq_iff_iff, looseEq_lists, looseEq_lists, hzs.2]
  | _ =>
      have hblank : xs.isEmpty = ys.isEmpty := by
        cases h <;> rfl
      exact looseEq_of_isBlank rfl ⟨rfl, hsingle⟩ hblank rfl

/-- Under each key both have members that may stand for each other, or none. -/
def Corresponding (xs ys : List (String × Value)) : Prop :=
  ∀ key, Option.Rel Interchangeable (xs.lookup key) (ys.lookup key)

section

variable {xs ys zs : List (String × Value)}

theorem Corresponding.symm (h : Corresponding xs ys) : Corresponding ys xs := by
  have hturn : ∀ {x y : Option Value}, Option.Rel Interchangeable x y →
      Option.Rel Interchangeable y x := by
    rintro _ _ (hmember | _)
    · exact .some hmember.symm
    · exact .none
  exact fun key => hturn (h key)

/-- What is found under a key has an interchangeable counterpart under it. -/
theorem Corresponding.exists_lookup (h : Corresponding xs ys) {key : String} {x : Value}
    (hx : xs.lookup key = some x) : ∃ y, ys.lookup key = some y ∧ Interchangeable x y := by
  have hkey := h key
  rw [hx] at hkey
  cases hy : ys.lookup key with
  | none =>
      rw [hy] at hkey
      cases hkey
  | some y =>
      rw [hy] at hkey
      cases hkey with
      | some hmember => exact ⟨y, rfl, hmember⟩

/-- Interchangeable entries can be exchanged on the left. -/
theorem EntriesMatch.of_left (h : EntriesMatch xs zs) (hcorrespond : Corresponding xs ys)
    (hxs : (Entries.keys xs).Nodup) (hys : (Entries.keys ys).Nodup)
    (hzs : (map zs).KeysDistinct) : EntriesMatch ys zs := by
  intro key y hmem
  have hy := (Entries.lookup_eq_some_iff_mem hys).2 hmem
  rcases hcorrespond.symm.exists_lookup hy with ⟨x, hx, hmember⟩
  rcases h key x ((Entries.lookup_eq_some_iff_mem hxs).1 hx) with ⟨z, hz, hequal⟩
  have hdistinct : z.KeysDistinct :=
    hzs.of_part (.of_entry ((Entries.lookup_eq_some_iff_mem hzs.own).1 hz))
  exact ⟨z, hz, by rw [(hmember z hdistinct).1, hequal]⟩

/-- Interchangeable entries can be exchanged on the right. -/
theorem EntriesMatch.of_right (h : EntriesMatch zs xs) (hcorrespond : Corresponding xs ys)
    (hzs : (map zs).KeysDistinct) : EntriesMatch zs ys := by
  intro key z hmem
  rcases h key z hmem with ⟨x, hx, hequal⟩
  rcases hcorrespond.exists_lookup hx with ⟨y, hy, hmember⟩
  exact ⟨y, hy, by rw [← (hmember z (hzs.of_part (.of_entry hmem))).2, hequal]⟩

/-- Maps with corresponding entries, in whatever order. -/
theorem interchangeable_maps (hxs : (Entries.keys xs).Nodup) (hys : (Entries.keys ys).Nodup)
    (hlength : xs.length = ys.length) (h : Corresponding xs ys) :
    Interchangeable (map xs) (map ys) := by
  refine interchangeable_of_cores rfl rfl fun c hc hsingle => ?_
  cases c with
  | map zs =>
      constructor
      · rw [Bool.eq_iff_iff, looseEq_maps hxs, looseEq_maps hys, hlength]
        exact and_congr_right fun _ =>
          ⟨(·.of_left h hxs hys hc), (·.of_left h.symm hys hxs hc)⟩
      · rw [Bool.eq_iff_iff, looseEq_maps hc.own, looseEq_maps hc.own, hlength]
        exact and_congr_right fun _ =>
          ⟨(·.of_right h hc), (·.of_right h.symm hc)⟩
  | _ =>
      have hblank : xs.isEmpty = ys.isEmpty := by
        cases xs <;> cases ys <;> first | rfl | cases hlength
      exact looseEq_of_isBlank rfl ⟨rfl, hsingle⟩ hblank rfl

end

/-! ## Reordered values -/

theorem Corresponding.refl (xs : List (String × Value)) : Corresponding xs xs := by
  intro key
  cases xs.lookup key with
  | none => exact .none
  | some x => exact .some (.refl x)

/-- Exchanging the value of one entry leaves the entries corresponding. -/
theorem corresponding_entry (before : List (String × Value)) (key : String) {x y : Value}
    (after : List (String × Value)) (h : Interchangeable x y) :
    Corresponding (before ++ (key, x) :: after) (before ++ (key, y) :: after) := by
  induction before with
  | nil =>
      intro name
      rw [List.nil_append, List.nil_append, Entries.lookup_cons_ite, Entries.lookup_cons_ite]
      by_cases hname : name = key
      · rw [if_pos hname, if_pos hname]
        exact .some h
      · rw [if_neg hname, if_neg hname]
        exact Corresponding.refl after name
  | cons first rest ih =>
      intro name
      rw [List.cons_append, List.cons_append, Entries.lookup_cons_ite, Entries.lookup_cons_ite]
      by_cases hname : name = first.1
      · rw [if_pos hname, if_pos hname]
        exact .some (.refl first.2)
      · rw [if_neg hname, if_neg hname]
        exact ih name

/-- A value may stand for one that is reordered. -/
theorem Reordered.interchangeable {a b : Value} (h : Reordered a b) (distinct : a.KeysDistinct) :
    Interchangeable a b := by
  induction h with
  | refl value => exact .refl value
  | trans first _ ihfirst ihsecond =>
      exact (ihfirst distinct).trans (ihsecond (first.keysDistinct distinct))
  | order perm =>
      have hother := (Reordered.order perm).keysDistinct distinct
      refine interchangeable_maps distinct.own hother.own perm.length_eq fun key => ?_
      rw [Entries.lookup_of_perm distinct.own perm key]
      exact Corresponding.refl _ key
  | item before after _ ih =>
      have hsame : ∀ items : List Value, List.Forall₂ Interchangeable items items :=
        fun _ => List.forall₂_same.2 fun x _ => .refl x
      have hmember := ih (distinct.of_part (.of_mem (by simp)))
      exact interchangeable_lists (List.rel_append (hsame before) (.cons hmember (hsame after)))
  | entry before key after member ih =>
      have hother := (Reordered.entry before key after member).keysDistinct distinct
      have hmember := ih (distinct.of_part (.of_entry (List.mem_append_right _ List.mem_cons_self)))
      exact interchangeable_maps distinct.own hother.own (by simp)
        (corresponding_entry before key after hmember)

/-- Loose equality does not depend on the order in which the entries of maps stand, neither at the
top of a value nor anywhere in its lists and maps. -/
theorem looseEq_reordered {a a' b b' : Value} (ha : a.KeysDistinct) (hb : b.KeysDistinct)
    (left : Reordered a a') (right : Reordered b b') : looseEq a' b' = looseEq a b := by
  have hleft : looseEq a b' = looseEq a' b' :=
    (left.interchangeable ha b' (right.keysDistinct hb)).1
  have hright : looseEq a b = looseEq a b' := (right.interchangeable hb a ha).2
  rw [hright, hleft]

/-- A map in a list and a map in that map, both with their entries swapped: no longer strictly
equal to what they were, but still loosely. -/
theorem looseEq_reordered_nested :
    let inner := [("x", int 1), ("y", bool true)]
    let a := list [map [("k", map inner), ("n", null)]]
    let a' := list [map [("n", null), ("k", map inner.reverse)]]
    a.KeysDistinct ∧ Reordered a a' ∧ strictEq a' a = false ∧ looseEq a' a = true := by
  intro inner a a'
  have ha : a.KeysDistinct := by
    simp only [a, inner, KeysDistinct.items_iff, KeysDistinct.entries_iff, List.forall_mem_cons,
      List.not_mem_nil, false_implies, implies_true, and_true]
    have hleaves : (int 1).KeysDistinct ∧ (bool true).KeysDistinct ∧ null.KeysDistinct :=
      ⟨by rintro _ ⟨⟩, by rintro _ ⟨⟩, by rintro _ ⟨⟩⟩
    exact ⟨by decide, ⟨by decide, hleaves.1, hleaves.2.1⟩, hleaves.2.2⟩
  have hinner : Reordered (map inner) (map inner.reverse) :=
    .order (List.reverse_perm inner).symm
  have hreordered : Reordered a a' :=
    .item [] [] (.trans (.entry [] "k" [("n", null)] hinner) (.order (List.Perm.swap _ _ _)))
  have hsame : looseEq a a = true := looseEq_of_strictEq (by decide)
  refine ⟨ha, hreordered, by decide, ?_⟩
  rw [looseEq_reordered ha ha hreordered (.refl a), hsame]

end Assay.Value
