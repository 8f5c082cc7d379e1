import Assay.Value

/-!
# Parts — what lies in a value

A part of a value is the value, a part of one of its members, or a part of what it holds as a
`values` container.

* `Value.PartOf` is this relation;
* `Value.KeysDistinct` says that every map in a value has each of its keys once;
* `Value.Holds held` says that the containers of one identity hold one value, namely the one that
  `held` names;
* `Value.Sound held` says both, as is true of every value that can come about.
-/

namespace Assay.Value

/-- A value lies somewhere in another one, or is the other one. -/
inductive PartOf (part : Value) : Value → Prop where
  | self : PartOf part part
  | item {x : Value} {items : List Value} (mem : x ∈ items) (below : PartOf part x) :
      PartOf part (list items)
  | entry {key : String} {x : Value} {entries : List (String × Value)}
      (mem : (key, x) ∈ entries) (below : PartOf part x) : PartOf part (map entries)
  | contents {identity : Option Nat} {raw : Value} (below : PartOf part raw) :
      PartOf part (values identity raw)

namespace PartOf

variable {part middle whole : Value}

/-- A part of a part is a part. -/
theorem trans (h : PartOf part middle) (below : PartOf middle whole) : PartOf part whole := by
  induction below with
  | self => exact h
  | item mem _ ih => exact .item mem ih
  | entry mem _ ih => exact .entry mem ih
  | contents _ ih => exact .contents ih

theorem of_mem {x : Value} {items : List Value} (mem : x ∈ items) : PartOf x (list items) :=
  .item mem .self

theorem of_entry {key : String} {x : Value} {entries : List (String × Value)}
    (mem : (key, x) ∈ entries) : PartOf x (map entries) :=
  .entry mem .self

end PartOf

/-- Maps have each of their keys once, at every depth. -/
def KeysDistinct (value : Value) : Prop :=
  ∀ entries, PartOf (map entries) value → (Entries.keys entries).Nodup

/-- Whatever has an identity holds what is held under it. -/
def Holds (held : Nat → Value) (value : Value) : Prop :=
  ∀ identity raw, PartOf (values (some identity) raw) value → raw = held identity

/-- A value as it can come about. -/
structure Sound (held : Nat → Value) (value : Value) : Prop where
  distinct : value.KeysDistinct
  holds : value.Holds held

section

variable {held : Nat → Value} {part whole : Value}

/-- Keys that are distinct in a value are distinct in its parts. -/
theorem KeysDistinct.of_part (h : whole.KeysDistinct) (below : PartOf part whole) :
    part.KeysDistinct :=
  fun entries hentries => h entries (hentries.trans below)

theorem KeysDistinct.own {entries : List (String × Value)} (h : (map entries).KeysDistinct) :
    (Entries.keys entries).Nodup :=
  h entries .self

theorem Holds.of_part (h : whole.Holds held) (below : PartOf part whole) : part.Holds held :=
  fun identity raw hraw => h identity raw (hraw.trans below)

/-- Every part of a sound value is sound. -/
theorem Sound.of_part (h : whole.Sound held) (below : PartOf part whole) : part.Sound held :=
  ⟨h.distinct.of_part below, h.holds.of_part below⟩

/-! ## Sound values from sound parts -/

theorem Sound.items {items : List Value} (h : ∀ x ∈ items, x.Sound held) :
    (list items).Sound held := by
  constructor
  · rintro entries (_ | ⟨hmem, hbelow⟩)
    exact (h _ hmem).distinct entries hbelow
  · rintro identity raw (_ | ⟨hmem, hbelow⟩)
    exact (h _ hmem).holds identity raw hbelow

theorem Sound.entries {entries : List (String × Value)} (distinct : (Entries.keys entries).Nodup)
    (h : ∀ key x, (key, x) ∈ entries → x.Sound held) : (map entries).Sound held := by
  constructor
  · rintro others (_ | _ | ⟨hmem, hbelow⟩)
    · exact distinct
    · exact (h _ _ hmem).distinct others hbelow
  · rintro identity raw (_ | _ | ⟨hmem, hbelow⟩)
    exact (h _ _ hmem).holds identity raw hbelow

/-- A wrapped value is sound if it is what its identity stands for. -/
theorem Sound.contents {raw : Value} (h : raw.Sound held) {identity : Nat}
    (same : raw = held identity) : (values (some identity) raw).Sound held := by
  constructor
  · rintro entries (_ | _ | _ | hbelow)
    exact h.distinct entries hbelow
  · rintro other inner (_ | _ | _ | hbelow)
    · exact same
    · exact h.holds other inner hbelow

end

end Assay.Value
