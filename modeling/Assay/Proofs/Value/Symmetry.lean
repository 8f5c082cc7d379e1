import Assay.Proofs.Value.Equality
import Mathlib.Data.List.Perm.Subperm

/-!
# Symmetry — equality in either order

Strict equality is symmetric.  Loose equality is too, but for one kind of pair: a container and a
container around it.  The outer one is unwrapped until the inner one is found by its identity; the
inner one is unwrapped first, and so the two cores are compared.  A core that holds a NaN does not
equal itself, and then the two answers differ.

* `BareNaN` says that a NaN keeps a value from equaling itself, and `looseEq_self_iff` that it does;
* `Lopsided a b` says where such a pair lies in two values;
* `lopsided_iff` states that exactly then `a` equals `b` and `b` does not equal `a`;
* `equality_symmetric_iff` puts strict and loose equality together.
-/

namespace Assay.Value

/-! ## Values that do not equal themselves -/

/-- A NaN lies in a value, and no container around it has an identity. -/
inductive BareNaN : Value → Prop where
  | nan : BareNaN (float .nan)
  | item {x : Value} {items : List Value} (mem : x ∈ items) (bare : BareNaN x) :
      BareNaN (list items)
  | entry {key : String} {x : Value} {entries : List (String × Value)}
      (mem : (key, x) ∈ entries) (bare : BareNaN x) : BareNaN (map entries)
  | contents {raw : Value} (bare : BareNaN raw.core) : BareNaN (values none raw)

theorem sizeOf_core_le (value : Value) : sizeOf value.core ≤ sizeOf value := by
  induction value using wrapped_induction with
  | wrapped identity raw ih =>
      have hcore : (values identity raw).core = raw.core := rfl
      rw [hcore, values.sizeOf_spec]
      omega
  | single value h => exact Nat.le_of_eq (congrArg sizeOf (core_of_not_isWrapped h))

theorem sizeOf_lt_of_entry {key : String} {x : Value} {entries : List (String × Value)}
    (mem : (key, x) ∈ entries) : sizeOf x < sizeOf entries := by
  have hlt := List.sizeOf_lt_of_mem mem
  rw [Prod.mk.sizeOf_spec] at hlt
  omega

theorem BareNaN.float_iff {x : Binary64} : BareNaN (float x) ↔ x = .nan := by
  constructor
  · intro h
    cases h
    rfl
  · rintro rfl
    exact .nan

/-- What is claimed of a value: only a NaN keeps it from equaling itself. -/
def TellsSelf (value : Value) : Prop := looseEq value value = false ↔ BareNaN value

/-- A value that strictly equals itself, and is not a bare NaN, is loosely equal to itself. -/
theorem tellsSelf_of_strictEq {value : Value} (same : strictEq value value = true)
    (clear : ¬ BareNaN value) : TellsSelf value := by
  unfold TellsSelf
  simp [looseEq_of_strictEq same, clear]

/-- A list tells itself if its items do. -/
theorem tellsSelf_list {items : List Value} (members : ∀ x ∈ items, TellsSelf x) :
    TellsSelf (list items) := by
  unfold TellsSelf
  rw [← Bool.not_eq_true, looseEq_lists, List.forall₂_same]
  constructor
  · intro hnot
    rcases not_forall.1 hnot with ⟨x, hx⟩
    rcases Classical.not_imp.1 hx with ⟨hmem, hself⟩
    exact .item hmem ((members x hmem).1 (Bool.eq_false_iff.2 hself))
  · rintro (_ | ⟨hmem, hbare⟩) hall
    have hself := (members _ hmem).2 hbare
    rw [hall _ hmem] at hself
    cases hself

theorem tellsSelf_map {entries : List (String × Value)} (distinct : (Entries.keys entries).Nodup)
    (members : ∀ key x, (key, x) ∈ entries → TellsSelf x) : TellsSelf (map entries) := by
  unfold TellsSelf
  rw [← Bool.not_eq_true, looseEq_maps distinct]
  constructor
  · intro hnot
    rcases not_forall.1 fun hall => hnot ⟨rfl, hall⟩ with ⟨key, hkey⟩
    rcases not_forall.1 hkey with ⟨x, hx⟩
    rcases Classical.not_imp.1 hx with ⟨hmem, hself⟩
    have hfound := (Entries.lookup_eq_some_iff_mem distinct).2 hmem
    refine .entry hmem ((members key x hmem).1 (Bool.eq_false_iff.2 ?_))
    exact fun hequal => hself ⟨x, hfound, hequal⟩
  · rintro (_ | _ | ⟨hmem, hbare⟩) ⟨_, hall⟩
    have hself := (members _ _ hmem).2 hbare
    rcases hall _ _ hmem with ⟨y, hfound, hequal⟩
    rw [(Entries.lookup_eq_some_iff_mem distinct).2 hmem] at hfound
    cases hfound
    rw [hequal] at hself
    cases hself

theorem tellsSelf_wrapped {raw : Value} (core : TellsSelf raw.core) :
    TellsSelf (values none raw) := by
  have hcores : looseEq (values none raw) (values none raw) = looseEq raw.core raw.core := by
    rw [looseEq_values_right]
    rfl
  unfold TellsSelf
  rw [hcores]
  refine Iff.trans core ⟨.contents, ?_⟩
  rintro (_ | _ | _ | hbare)
  exact hbare

/-- Only a bare NaN differs from itself. -/
theorem looseEq_self_iff (value : Value) (distinct : value.KeysDistinct) :
    looseEq value value = false ↔ BareNaN value := by
  induction hsize : sizeOf value using Nat.strongRecOn generalizing value with
  | _ size ih =>
      have hbelow : ∀ {x : Value}, PartOf x value → sizeOf x < size → TellsSelf x :=
        fun hpart hlt => ih _ hlt _ (distinct.of_part hpart) rfl
      cases value with
      | list items =>
          refine tellsSelf_list fun x hx => hbelow (.of_mem hx) ?_
          have := List.sizeOf_lt_of_mem hx
          simp only [list.sizeOf_spec] at hsize
          omega
      | map entries =>
          refine tellsSelf_map distinct.own fun key x hx => hbelow (.of_entry hx) ?_
          have := sizeOf_lt_of_entry hx
          simp only [map.sizeOf_spec] at hsize
          omega
      | values identity raw =>
          cases identity with
          | some _ => exact tellsSelf_of_strictEq (by simp [strictEq]) (by rintro ⟨⟩)
          | none =>
              refine tellsSelf_wrapped (hbelow (.contents (partOf_core raw)) ?_)
              have := sizeOf_core_le raw
              simp only [values.sizeOf_spec] at hsize
              omega
      | float x =>
          rw [looseEq_floats, BareNaN.float_iff, ← Bool.not_eq_true, Binary64.numEq_iff]
          cases x <;> simp [Binary64.amount?]
      | _ => exact tellsSelf_of_strictEq (by simp [strictEq]) (by rintro ⟨⟩)

/-! ## Containers around containers -/

/-- A `values` container holds another value, directly or with containers between them. -/
inductive Around : Value → Value → Prop where
  | direct (identity : Option Nat) (inner : Value) : Around (values identity inner) inner
  | further (identity : Option Nat) {raw inner : Value} (below : Around raw inner) :
      Around (values identity raw) inner

namespace Around

variable {outer inner : Value}

theorem core_eq (h : Around outer inner) : outer.core = inner.core := by
  induction h with
  | direct => rfl
  | further _ _ ih => exact ih

/-- A wrapping adds an identity. -/
theorem length_wrappings_lt (h : Around outer inner) :
    inner.wrappings.length < outer.wrappings.length := by
  induction h with
  | direct => exact Nat.lt_succ_self _
  | further _ _ ih => exact Nat.lt_succ_of_lt ih

/-- An inner identity is among those of the outer value. -/
theorem mem_wrappings {identity : Option Nat} {raw : Value}
    (h : Around outer (values identity raw)) : identity ∈ outer.wrappings := by
  generalize hinner : values identity raw = inner at h
  induction h with
  | direct =>
      subst hinner
      exact List.mem_cons_of_mem _ List.mem_cons_self
  | further _ _ ih => exact List.mem_cons_of_mem _ (ih hinner)

theorem partOf (h : Around outer inner) : PartOf inner outer := by
  induction h with
  | direct => exact .contents .self
  | further _ _ ih => exact .contents ih

end Around

/-- Every identity around a core is that of the whole or of a container in it. -/
theorem exists_of_mem_wrappings {value : Value} {identity : Option Nat}
    (h : identity ∈ value.wrappings) :
    ∃ raw, value = values identity raw ∨ Around value (values identity raw) := by
  induction value using wrapped_induction with
  | wrapped outer raw ih =>
      rcases List.mem_cons.1 h with rfl | hmem
      · exact ⟨raw, .inl rfl⟩
      · rcases ih hmem with ⟨inner, rfl | haround⟩
        · exact ⟨inner, .inr (.direct outer _)⟩
        · exact ⟨inner, .inr (.further outer haround)⟩
  | single value hsingle =>
      rw [wrappings_of_not_isWrapped hsingle] at h
      cases h

/-- A container is found by its identity among those around a core if it is one of them. -/
def Found (inner outer : Value) : Prop :=
  ∃ identity raw, inner = values (some identity) raw ∧ some identity ∈ outer.wrappings

/-- A value equals a wrapped one if that is found around its core, or if the cores are equal. -/
theorem looseEq_wrapped {a : Value} {identity : Option Nat} {raw : Value} :
    looseEq a (values identity raw) = true ↔
      Found (values identity raw) a ∨ looseEq raw.core a.core = true := by
  rw [looseEq_values_right, Bool.or_eq_true, Bool.and_eq_true]
  refine or_congr_left ?_
  cases identity <;> simp [Found]

/-- Since containers of one identity hold the same, what is found is the other value itself or lies
in it. -/
theorem found_iff {held : Nat → Value} {inner outer : Value} (hinner : inner.Sound held)
    (houter : outer.Sound held) :
    Found inner outer ↔
      (∃ identity raw, inner = values (some identity) raw) ∧
        (outer = inner ∨ Around outer inner) := by
  constructor
  · rintro ⟨identity, raw, rfl, hmem⟩
    refine ⟨⟨identity, raw, rfl⟩, ?_⟩
    -- Both containers hold what is held under the identity, and so they are one value.
    have hraw : raw = held identity := hinner.holds identity raw .self
    rcases exists_of_mem_wrappings hmem with ⟨other, rfl | haround⟩
    · have hother : other = held identity := houter.holds identity other .self
      exact .inl (by rw [hraw, hother])
    · have hother : other = held identity := houter.holds identity other haround.partOf
      exact .inr (by rwa [hraw, ← hother])
  · rintro ⟨⟨identity, raw, rfl⟩, rfl | haround⟩
    · exact ⟨identity, raw, rfl, List.mem_cons_self⟩
    · exact ⟨identity, raw, rfl, haround.mem_wrappings⟩

/-! ## Pairs that are equal in one order only -/

/-- The first value equals the second, but the second does not equal the first. -/
inductive Lopsided : Value → Value → Prop where
  /-- A container around another one, whose core does not equal itself. -/
  | around {outer raw : Value} {identity : Nat} (around : Around outer (values (some identity) raw))
      (bare : BareNaN raw.core) : Lopsided outer (values (some identity) raw)
  /-- The cores are compared the other way round. -/
  | cores {i j : Option Nat} {x y : Value} (cores : Lopsided y.core x.core) :
      Lopsided (values i x) (values j y)
  | items {xs ys : List Value} {x y : Value}
      (equal : List.Forall₂ (fun x y => looseEq x y = true) xs ys) (mem : (x, y) ∈ xs.zip ys)
      (member : Lopsided x y) : Lopsided (list xs) (list ys)
  | entries {xs ys : List (String × Value)} {key : String} {x y : Value}
      (length : xs.length = ys.length) (equal : EntriesMatch xs ys) (left : (key, x) ∈ xs)
      (right : (key, y) ∈ ys) (member : Lopsided x y) : Lopsided (map xs) (map ys)

/-- If as many entries as there are have partners, every partner has been found. -/
theorem EntriesMatch.partner {xs ys : List (String × Value)} (h : EntriesMatch xs ys)
    (length : xs.length = ys.length) (distinct : (Entries.keys xs).Nodup)
    (others : (Entries.keys ys).Nodup) {key : String} {y : Value} (mem : (key, y) ∈ ys) :
    ∃ x, (key, x) ∈ xs ∧ looseEq x y = true := by
  have hsub : Entries.keys xs ⊆ Entries.keys ys := by
    intro name hname
    rcases List.mem_map.1 hname with ⟨⟨_, x⟩, hmem, rfl⟩
    rcases h _ x hmem with ⟨found, hfound, _⟩
    exact List.mem_map.2 ⟨_, (Entries.lookup_eq_some_iff_mem others).1 hfound, rfl⟩
  have hperm : (Entries.keys xs).Perm (Entries.keys ys) := by
    refine (List.Nodup.subperm distinct hsub).perm_of_length_le ?_
    simp [Entries.keys, length]
  have hkey : key ∈ Entries.keys xs := hperm.mem_iff.2 (List.mem_map.2 ⟨_, mem, rfl⟩)
  rcases List.mem_map.1 hkey with ⟨⟨_, x⟩, hmem, rfl⟩
  rcases h _ x hmem with ⟨found, hfound, hequal⟩
  rw [(Entries.lookup_eq_some_iff_mem others).2 mem] at hfound
  cases hfound
  exact ⟨x, hmem, hequal⟩

/-- Only nested values are lopsided. -/
theorem Lopsided.bothNested {a b : Value} (h : Lopsided a b) : bothNested a b = true := by
  cases h with
  | around around _ => cases around <;> rfl
  | _ => rfl

/-- What is claimed of a pair: it is lopsided if it is equal in this order only. -/
def Tells (a b : Value) : Prop := (looseEq a b = true ∧ looseEq b a = false) ↔ Lopsided a b

theorem tells_of_not_nested {a b : Value} (h : bothNested a b = false) : Tells a b := by
  have hsame := looseEq_comm_of_not_nested h
  constructor
  · rintro ⟨hequal, hunequal⟩
    rw [hsame, hunequal] at hequal
    cases hequal
  · intro hlopsided
    rw [hlopsided.bothNested] at h
    cases h

/-- Lists tell each other by their items. -/
theorem tells_lists {xs ys : List Value} (members : ∀ x ∈ xs, ∀ y ∈ ys, Tells x y) :
    Tells (list xs) (list ys) := by
  have hpair : ∀ {x y}, (x, y) ∈ xs.zip ys → Tells x y := fun hmem =>
    members _ (List.of_mem_zip hmem).1 _ (List.of_mem_zip hmem).2
  unfold Tells
  rw [← Bool.not_eq_true, looseEq_lists, looseEq_lists]
  constructor
  · rintro ⟨hequal, hunequal⟩
    by_contra hnone
    -- If no pair of members were lopsided, the members would be equal in the other order too.
    refine hunequal (List.Forall₂.flip (List.forall₂_iff_zip.2 ⟨hequal.length_eq, ?_⟩))
    intro x y hmem
    have hxy : looseEq x y = true := (List.forall₂_iff_zip.1 hequal).2 hmem
    by_contra hyx
    exact hnone (.items hequal hmem ((hpair hmem).1 ⟨hxy, Bool.eq_false_iff.2 hyx⟩))
  · rintro (_ | _ | ⟨hequal, hmem, hmember⟩)
    refine ⟨hequal, fun hback => ?_⟩
    have hyx := (List.forall₂_iff_zip.1 hback.flip).2 hmem
    rw [((hpair hmem).2 hmember).2] at hyx
    cases hyx

/-- Maps tell each other by their values. -/
theorem tells_maps {xs ys : List (String × Value)} (distinct : (Entries.keys xs).Nodup)
    (others : (Entries.keys ys).Nodup)
    (members : ∀ key x, (key, x) ∈ xs → ∀ y, (key, y) ∈ ys → Tells x y) :
    Tells (map xs) (map ys) := by
  unfold Tells
  rw [← Bool.not_eq_true, looseEq_maps distinct, looseEq_maps others]
  constructor
  · rintro ⟨⟨hlength, hequal⟩, hunequal⟩
    by_contra hnone
    refine hunequal ⟨hlength.symm, fun key y hright => ?_⟩
    rcases hequal.partner hlength distinct others hright with ⟨x, hleft, hxy⟩
    refine ⟨x, (Entries.lookup_eq_some_iff_mem distinct).2 hleft, ?_⟩
    by_contra hyx
    have hmember := (members key x hleft y hright).1 ⟨hxy, Bool.eq_false_iff.2 hyx⟩
    exact hnone (.entries hlength hequal hleft hright hmember)
  · rintro (_ | _ | _ | ⟨hlength, hequal, hleft, hright, hmember⟩)
    refine ⟨⟨hlength, hequal⟩, fun hback => ?_⟩
    rcases hback.2 _ _ hright with ⟨found, hfound, hyx⟩
    rw [(Entries.lookup_eq_some_iff_mem distinct).2 hleft] at hfound
    cases hfound
    rw [((members _ _ hleft _ hright).2 hmember).2] at hyx
    cases hyx

/-- Wrapped values tell each other by their cores. -/
theorem tells_wrapped {held : Nat → Value} {i j : Option Nat} {x y : Value}
    (ha : (values i x).Sound held) (hb : (values j y).Sound held)
    (cores : Tells y.core x.core) : Tells (values i x) (values j y) := by
  have hself := looseEq_self_iff y.core (hb.distinct.of_part (.contents (partOf_core y)))
  unfold Tells
  rw [← Bool.not_eq_true, looseEq_wrapped, looseEq_wrapped, found_iff hb ha, found_iff ha hb]
  change (_ ∨ looseEq y.core x.core = true) ∧ ¬ (_ ∨ looseEq x.core y.core = true) ↔ _
  constructor
  · rintro ⟨⟨⟨identity, raw, hinner⟩, hsame | haround⟩ | hequal, hunequal⟩
    · -- A container is found in itself, whatever the order.
      exact absurd (.inl ⟨⟨identity, raw, hsame.trans hinner⟩, .inl hsame.symm⟩) hunequal
    · cases hinner
      have hcore : x.core = y.core := haround.core_eq
      rw [hcore] at hunequal
      exact .around haround (hself.1 (Bool.eq_false_iff.2 fun h => hunequal (.inr h)))
    · exact .cores (cores.1 ⟨hequal, Bool.eq_false_iff.2 fun h => hunequal (.inr h)⟩)
  · rintro (⟨haround, hbare⟩ | hcores)
    · have hcore : x.core = y.core := haround.core_eq
      refine ⟨.inl ⟨⟨_, _, rfl⟩, .inr haround⟩, ?_⟩
      rintro (⟨_, hsame | hback⟩ | hequal)
      · rw [hsame] at haround
        exact absurd haround.length_wrappings_lt (Nat.lt_irrefl _)
      · exact absurd haround.length_wrappings_lt (Nat.lt_asymm hback.length_wrappings_lt)
      · rw [hcore, hself.2 hbare] at hequal
        cases hequal
    · rcases cores.2 hcores with ⟨hequal, hunequal⟩
      -- Equal cores would not be lopsided, so that neither value is found.
      have hdiffer : y.core ≠ x.core := by
        intro hcore
        rw [hcore] at hequal hunequal
        rw [hequal] at hunequal
        cases hunequal
      refine ⟨.inr hequal, ?_⟩
      rintro (⟨_, hsame | hback⟩ | hback)
      · have hcore : (values j y).core = (values i x).core := congrArg core hsame
        exact hdiffer hcore
      · exact hdiffer hback.core_eq
      · rw [hback] at hunequal
        cases hunequal

/-- By induction on the sizes of both values together, since cores are compared the other way
round. -/
theorem lopsided_iff {held : Nat → Value} {a b : Value} (ha : a.Sound held) (hb : b.Sound held) :
    (looseEq a b = true ∧ looseEq b a = false) ↔ Lopsided a b := by
  induction hsize : sizeOf a + sizeOf b using Nat.strongRecOn generalizing a b with
  | _ size ih =>
      have hbelow : ∀ {x y : Value}, x.Sound held → y.Sound held → sizeOf x + sizeOf y < size →
          Tells x y := fun hx hy hlt => ih _ hlt hx hy rfl
      have hother : bothNested a b = false → Tells a b := tells_of_not_nested
      cases a with
      | list xs =>
          cases b with
          | list ys =>
              refine tells_lists fun x hx y hy => hbelow (ha.of_part (.of_mem hx))
                (hb.of_part (.of_mem hy)) ?_
              have := List.sizeOf_lt_of_mem hx
              have := List.sizeOf_lt_of_mem hy
              simp only [list.sizeOf_spec] at hsize
              omega
          | _ => exact hother rfl
      | map xs =>
          cases b with
          | map ys =>
              refine tells_maps ha.distinct.own hb.distinct.own fun key x hx y hy =>
                hbelow (ha.of_part (.of_entry hx)) (hb.of_part (.of_entry hy)) ?_
              have := sizeOf_lt_of_entry hx
              have := sizeOf_lt_of_entry hy
              simp only [map.sizeOf_spec] at hsize
              omega
          | _ => exact hother rfl
      | values i x =>
          cases b with
          | values j y =>
              refine tells_wrapped ha hb (hbelow (hb.of_part (.contents (partOf_core y)))
                (ha.of_part (.contents (partOf_core x))) ?_)
              have := sizeOf_core_le x
              have := sizeOf_core_le y
              simp only [values.sizeOf_spec] at hsize
              omega
          | _ => exact hother rfl
      | _ => exact hother rfl

/-! ## Both equalities -/

theorem BareNaN.partOf {value : Value} (h : BareNaN value) : PartOf (float .nan) value := by
  induction h with
  | nan => exact .self
  | item mem _ ih => exact .item mem ih
  | entry mem _ ih => exact .entry mem ih
  | @contents raw _ ih => exact .contents (ih.trans (partOf_core raw))

/-- A NaN lies in both values of a lopsided pair. -/
theorem Lopsided.partOf {a b : Value} (h : Lopsided a b) :
    PartOf (float .nan) a ∧ PartOf (float .nan) b := by
  induction h with
  | @around outer raw identity around bare =>
      have hinner : PartOf (float .nan) (values (some identity) raw) :=
        .contents (bare.partOf.trans (partOf_core raw))
      exact ⟨hinner.trans around.partOf, hinner⟩
  | @cores i j x y _ ih =>
      exact ⟨.contents (ih.2.trans (partOf_core x)), .contents (ih.1.trans (partOf_core y))⟩
  | items _ mem _ ih =>
      have hmem := List.of_mem_zip mem
      exact ⟨.item hmem.1 ih.1, .item hmem.2 ih.2⟩
  | entries _ _ left right _ ih => exact ⟨.entry left ih.1, .entry right ih.2⟩

/-- Strict equality is symmetric.  Loose equality depends on the order of two values if and only if
they are lopsided, one way or the other, and never where one of them has no NaN in it. -/
theorem equality_symmetric_iff {held : Nat → Value} {a b : Value} (ha : a.Sound held)
    (hb : b.Sound held) :
    strictEq a b = strictEq b a ∧
      (looseEq a b = looseEq b a ↔ ¬ Lopsided a b ∧ ¬ Lopsided b a) ∧
      (¬ PartOf (float .nan) a → looseEq a b = looseEq b a) := by
  have hsymmetric : looseEq a b = looseEq b a ↔ ¬ Lopsided a b ∧ ¬ Lopsided b a := by
    rw [← lopsided_iff ha hb, ← lopsided_iff hb ha]
    cases looseEq a b <;> cases looseEq b a <;> simp
  refine ⟨strictEq_comm a b, hsymmetric, fun hnone => hsymmetric.2 ⟨?_, ?_⟩⟩
  · exact fun hlopsided => hnone hlopsided.partOf.1
  · exact fun hlopsided => hnone hlopsided.partOf.2

/-- A container with a NaN in it, and the same container in another one, each beside something
blank. -/
theorem equality_symmetric_iff_lists :
    let box := values (some 0) (float .nan)
    let held : Nat → Value := fun identity => if identity = 0 then float .nan else box
    let a := list [values (some 1) box, null]
    let b := list [box, int 0]
    a.Sound held ∧ b.Sound held ∧ strictEq a b = strictEq b a ∧ looseEq a b ≠ looseEq b a := by
  intro box held a b
  have hbox : box.Sound held := .contents ⟨by rintro _ ⟨⟩, by rintro _ _ ⟨⟩⟩ rfl
  have ha : a.Sound held := by
    refine .items ?_
    simp only [List.forall_mem_cons, List.not_mem_nil, false_implies, implies_true, and_true]
    exact ⟨.contents hbox rfl, ⟨by rintro _ ⟨⟩, by rintro _ _ ⟨⟩⟩⟩
  have hb : b.Sound held := by
    refine .items ?_
    simp only [List.forall_mem_cons, List.not_mem_nil, false_implies, implies_true, and_true]
    exact ⟨hbox, ⟨by rintro _ ⟨⟩, by rintro _ _ ⟨⟩⟩⟩
  have hwrapped : looseEq (values (some 1) box) box = true :=
    looseEq_wrapped.2 (.inl ⟨0, _, rfl, by simp [wrappings, box]⟩)
  have hblank : looseEq null (int 0) = true := by
    rw [looseEq.eq_def]
    rfl
  have hlopsided : Lopsided a b :=
    .items (.cons hwrapped (.cons hblank .nil)) List.mem_cons_self (.around (.direct _ _) .nan)
  have htheorem := equality_symmetric_iff ha hb
  exact ⟨ha, hb, htheorem.1, fun hsame => (htheorem.2.1.1 hsame).1 hlopsided⟩

/-- The smallest lopsided pair. -/
theorem looseEq_not_symmetric :
    let box := values (some 0) (float .nan)
    let held : Nat → Value := fun identity => if identity = 0 then float .nan else box
    let outer := values (some 1) box
    box.Sound held ∧ outer.Sound held ∧ looseEq box outer = false ∧ looseEq outer box = true := by
  intro box held outer
  have hbox : box.Sound held := .contents ⟨by rintro _ ⟨⟩, by rintro _ _ ⟨⟩⟩ rfl
  have hcores : looseEq (float .nan) (float .nan) = false := looseEq_floats _ _
  refine ⟨hbox, .contents hbox rfl, ?_, ?_⟩
  · rw [looseEq_values_right]
    exact hcores
  · rw [looseEq_values_right]
    rfl

end Assay.Value
