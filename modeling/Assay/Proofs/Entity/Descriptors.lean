import Assay.Entity
import Assay.Proofs.Json.Reading
import Assay.Proofs.Value.Documents

/-!
# Descriptors — the same reference from a map and from its text

A reference can be described by a map, or by the JSON text of a map.

* `EntityRef.ofDescriptor?_of_perm` states that the order of a map does not matter;
* `Value.exact_toJson` states that the document of a map of plain scalars is an exact one;
* `EntityRef.ofValue?_text` states that such a map and its text give the same reference, or none.
-/

namespace Assay

namespace Value

/-- A null, truth value, integer or text: what JSON keeps as it is. -/
def isExactScalar : Value → Bool
  | null | bool _ | int _ | str _ => true
  | _ => false

variable {value : Value} {entries : List (String × Value)}

/-- A scalar comes back from its document. -/
theorem ofJson_toJson_of_isExactScalar (h : value.isExactScalar = true) :
    ofJson value.toJson = value := by
  cases value <;> first | rfl | cases h

theorem exact_of_isExactScalar (h : value.isExactScalar = true) (depth : Nat) :
    Json.Exact depth value.toJson := by
  cases value with
  | null => exact .null depth
  | bool b => exact .bool depth b
  | int i => exact .integer depth i
  | str s => exact .string depth s
  | _ => cases h

/-- The document of a map of such values is exact: its members ascend, and nothing is nested. -/
theorem exact_toJson (distinct : (Entries.keys entries).Nodup)
    (scalars : ∀ entry ∈ entries, entry.2.isExactScalar = true) (depth : Nat) :
    Json.Exact (depth + 1) (map entries).toJson := by
  rw [← Entries.keys_map toJson] at distinct
  rw [toJson, entriesToJson_eq]
  refine .object (Entries.ascending_sortedOfPairs _) fun member hmember => ?_
  rcases List.mem_map.1 ((Entries.sortedOfPairs_perm distinct).mem_iff.1 hmember) with
    ⟨entry, hentry, rfl⟩
  exact exact_of_isExactScalar (scalars entry hentry) depth

end Value

namespace EntityRef

open Value

variable {entries others : List (String × Value)}

/-- The order of a descriptor does not matter. -/
theorem ofDescriptor?_of_perm (distinct : (Entries.keys entries).Nodup)
    (perm : entries.Perm others) : ofDescriptor? (map entries) = ofDescriptor? (map others) := by
  have hfield : ∀ key, field? (map entries) key = field? (map others) key := fun key =>
    congrArg (Option.bind · Value.text?) (Entries.lookup_of_perm distinct perm key)
  simp only [ofDescriptor?, hfield]

/-- A descriptor that has passed through a document is in order, and describes the same. -/
theorem ofDescriptor?_ofJson (distinct : (Entries.keys entries).Nodup)
    (scalars : ∀ entry ∈ entries, entry.2.isExactScalar = true) :
    ofDescriptor? (ofJson (map entries).toJson) = ofDescriptor? (map entries) := by
  have hvalues : (entries.map fun entry => (entry.1, ofJson entry.2.toJson)) = entries := by
    rw [List.map_congr_left fun entry hentry => congrArg (Prod.mk entry.1)
      (ofJson_toJson_of_isExactScalar (scalars entry hentry))]
    exact List.map_id entries
  rw [ofJson_toJson_map, hvalues]
  exact (ofDescriptor?_of_perm distinct (Entries.sortedOfPairs_perm distinct).symm).symm

/-- A map of nulls, truth values, integers and texts gives the same reference as the text of its
document, and none if that gives none. -/
theorem ofValue?_text (distinct : (Entries.keys entries).Nodup)
    (scalars : ∀ entry ∈ entries, entry.2.isExactScalar = true) :
    ofValue? (.str (map entries).toJson.text) = ofValue? (map entries) := by
  have hread := Json.parse?_text (exact_toJson distinct scalars 126)
  have hopen : (map entries).toJson.text.toList.head? = some '\x7b' :=
    congrArg List.head? (Json.toList_objectText _)
  rw [ofValue?, if_pos hopen, hread, Option.bind_some]
  exact ofDescriptor?_ofJson distinct scalars

/-- A null identifier is passed over, and a URI may be an integer. -/
theorem ofValue?_text_uri :
    let entries := [("uri", int 7), ("id", null), ("proto", str "\"\x7b\n")]
    (Entries.keys entries).Nodup ∧ (∀ entry ∈ entries, entry.2.isExactScalar = true) ∧
      ofValue? (.str (map entries).toJson.text) = some (.uri "7") := by
  intro entries
  have hdistinct : (Entries.keys entries).Nodup := by decide
  have hscalars : ∀ entry ∈ entries, entry.2.isExactScalar = true := by decide
  refine ⟨hdistinct, hscalars, (ofValue?_text hdistinct hscalars).trans ?_⟩
  rfl

end EntityRef

end Assay
