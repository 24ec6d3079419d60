import SchemaTypes.Overrides
import SchemaTypes.Proofs.Association

/-!
# Overrides as maps

Two sets of overrides that map every name alike may differ in the order of their entries. Sorted by
name they are the same list, so that list stands for the map.
-/

namespace SchemaTypes.Overrides

variable {left right : Overrides}

/-- Overrides map a name to what stands in the entries with it. -/
theorem find?_eq_some_iff {overrides : Overrides} {name target : String} :
    overrides.find? name = some target ↔ (name, target) ∈ overrides.entries :=
  Association.lookup_eq_some_iff_mem overrides.distinct

/-- Overrides that map every name alike have the same entries. -/
theorem mem_entries_iff_of_find?_eq (same : ∀ name, left.find? name = right.find? name)
    (entry : String × String) : entry ∈ left.entries ↔ entry ∈ right.entries := by
  obtain ⟨name, target⟩ := entry
  rw [← find?_eq_some_iff, ← find?_eq_some_iff, same name]

theorem sorted_perm (overrides : Overrides) : overrides.sorted.Perm overrides.entries :=
  List.mergeSort_perm _ _

/-- Sorted overrides are in the order of their names. -/
theorem sorted_pairwise (overrides : Overrides) :
    overrides.sorted.Pairwise fun first second => first.1 ≤ second.1 := by
  let before (first second : String × String) : Bool := decide (first.1 ≤ second.1)
  have ordered : (overrides.entries.mergeSort before).Pairwise (before · ·) :=
    List.pairwise_mergeSort (fun _ _ _ => by simpa [before] using String.le_trans)
      (fun first second => by simpa [before] using String.le_total first.1 second.1) _
  exact ordered.imp of_decide_eq_true

/-- Sorted by name, overrides that map every name alike are one list. -/
theorem sorted_eq_of_find?_eq (same : ∀ name, left.find? name = right.find? name) :
    left.sorted = right.sorted := by
  have entries : left.entries.Perm right.entries :=
    (List.perm_ext_iff_of_nodup left.distinct.of_map right.distinct.of_map).2
      (mem_entries_iff_of_find?_eq same)
  have perm : left.sorted.Perm right.sorted :=
    (left.sorted_perm.trans entries).trans right.sorted_perm.symm
  refine perm.eq_of_pairwise ?_ left.sorted_pairwise right.sorted_pairwise
  intro first second memberFirst memberSecond before after
  have inLeft : first ∈ left.entries := left.sorted_perm.mem_iff.1 memberFirst
  have inRight : second ∈ right.entries := right.sorted_perm.mem_iff.1 memberSecond
  exact Association.eq_of_mem left.distinct inLeft
    ((mem_entries_iff_of_find?_eq same second).2 inRight) (String.le_antisymm before after)

/-- Overrides with one sorted list map every name alike. -/
theorem find?_eq_of_sorted_eq (same : left.sorted = right.sorted) (name : String) :
    left.find? name = right.find? name := by
  have entries : left.entries.Perm right.entries :=
    left.sorted_perm.symm.trans (same ▸ right.sorted_perm)
  refine Option.ext fun target => ?_
  rw [find?_eq_some_iff, find?_eq_some_iff, entries.mem_iff]

end SchemaTypes.Overrides
