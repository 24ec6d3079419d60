import Mathlib.Data.List.Nodup

/-!
# Pairs with distinct keys

Where no two pairs of a list have the same key, what a key is mapped to is a matter of membership
alone, so the order of the pairs makes no difference.
-/

namespace SchemaTypes.Association

variable {Key Value : Type} {entries : List (Key × Value)} {key : Key}

/-- Two pairs with one key are the same pair. -/
theorem eq_of_mem (distinct : (entries.map Prod.fst).Nodup) {left right : Key × Value}
    (memberLeft : left ∈ entries) (memberRight : right ∈ entries) (same : left.1 = right.1) :
    left = right :=
  List.inj_on_of_nodup_map distinct memberLeft memberRight same

variable [DecidableEq Key]

/-- The keys of the pairs with other keys are the other keys. -/
theorem map_fst_filter_ne (entries : List (Key × Value)) (key : Key) :
    (entries.filter (·.1 ≠ key)).map Prod.fst = (entries.map Prod.fst).filter (· ≠ key) := by
  rw [List.filter_map]
  rfl

/-- What a key is mapped to stands in the list with it. -/
theorem mem_of_lookup {value : Value} (found : entries.lookup key = some value) :
    (key, value) ∈ entries := by
  obtain ⟨before, after, rfl, -⟩ := List.lookup_eq_some_iff.1 found
  simp

/-- What is no key of any pair is mapped to nothing. -/
theorem lookup_eq_none_of_notMem (absent : key ∉ entries.map Prod.fst) :
    entries.lookup key = none := by
  refine List.lookup_eq_none_iff.2 fun entry member => ?_
  have different : key ≠ entry.1 := fun same =>
    absent (List.mem_map.2 ⟨entry, member, same.symm⟩)
  simpa using different

/-- A key is mapped to what stands in the list with it, if no other pair has the key. -/
theorem lookup_eq_some_iff_mem (distinct : (entries.map Prod.fst).Nodup) {value : Value} :
    entries.lookup key = some value ↔ (key, value) ∈ entries := by
  constructor
  · exact mem_of_lookup
  · intro member
    cases found : entries.lookup key with
    | none =>
      have absent := List.lookup_eq_none_iff.1 found (key, value) member
      simp at absent
    | some other =>
      have same := eq_of_mem distinct (mem_of_lookup found) member rfl
      rw [(Prod.mk.inj same).2]

end SchemaTypes.Association
