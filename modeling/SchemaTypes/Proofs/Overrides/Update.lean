import SchemaTypes.Overrides
import SchemaTypes.Proofs.Association

/-!
# Updating overrides

Overrides are updated by others one entry after the other, in their order. The entries of the others
win, types that had an override keep their place, and new ones come behind them. Updating goes along
with insertion: an entry that is inserted into the others might as well be inserted afterwards.
-/

namespace SchemaTypes.Overrides

/-- The overrides with entries inserted, in order. -/
def insertAll (overrides : Overrides) (entries : List (String × String)) : Overrides :=
  entries.foldl (fun updated entry => updated.insert entry.1 entry.2) overrides

/-- The overrides with all entries of others inserted, in order. -/
def update (overrides others : Overrides) : Overrides := overrides.insertAll others.entries

theorem insertAll_cons (overrides : Overrides) (entry : String × String)
    (rest : List (String × String)) :
    overrides.insertAll (entry :: rest) = (overrides.insert entry.1 entry.2).insertAll rest := rfl

variable {name other target old value : String}

/-- Overrides are known by their entries. -/
theorem eq_of_entries_eq {left right : Overrides} (same : left.entries = right.entries) :
    left = right := by
  cases left
  cases right
  cases same
  rfl

/-! ## Insertions one after the other -/

/-- A type has a place among the entries when it is inserted, and when it had one before. -/
theorem mem_keys_insert {overrides : Overrides}
    (placed : name = other ∨ name ∈ overrides.entries.map Prod.fst) :
    name ∈ (overrides.insert other target).entries.map Prod.fst := by
  show name ∈ (insertEntry other target overrides.entries).map Prod.fst
  rw [map_fst_insertEntry]
  rcases placed with rfl | before
  · split <;> simp_all
  · split
    · exact before
    · exact List.mem_append_left _ before

/-- A second target for a type replaces the first. -/
theorem insert_insert_same (overrides : Overrides) :
    (overrides.insert name old).insert name value = overrides.insert name value := by
  refine eq_of_entries_eq ?_
  show insertEntry name value (insertEntry name old overrides.entries) =
    insertEntry name value overrides.entries
  induction overrides.entries with
  | nil => simp [insertEntry]
  | cons entry rest inductionHypothesis =>
    obtain ⟨key, target⟩ := entry
    by_cases same : key = name
    · simp [insertEntry, same]
    · simp [insertEntry, same, inductionHypothesis]

/-- Targets of two types can be named in any order, if one of the types has its place already. -/
theorem insert_insert_comm {overrides : Overrides} (placed : name ∈ overrides.entries.map Prod.fst)
    (different : other ≠ name) :
    (overrides.insert name value).insert other target =
      (overrides.insert other target).insert name value := by
  refine eq_of_entries_eq ?_
  show insertEntry other target (insertEntry name value overrides.entries) =
    insertEntry name value (insertEntry other target overrides.entries)
  generalize overrides.entries = entries at placed
  induction entries with
  | nil => simp at placed
  | cons entry rest inductionHypothesis =>
    obtain ⟨key, held⟩ := entry
    by_cases same : key = name
    · subst same
      simp [insertEntry, Ne.symm different]
    · have placedLater : name ∈ rest.map Prod.fst := by simpa [Ne.symm same] using placed
      by_cases reached : key = other
      · subst reached
        simp [insertEntry, same]
      · simp [insertEntry, same, reached, inductionHypothesis placedLater]

/-- A type that is not among those named later can be given its target before or after them, if it
has its place already. -/
theorem insertAll_insert_comm {entries : List (String × String)}
    (absent : name ∉ entries.map Prod.fst) {overrides : Overrides}
    (placed : name ∈ overrides.entries.map Prod.fst) :
    (overrides.insert name value).insertAll entries =
      (overrides.insertAll entries).insert name value := by
  induction entries generalizing overrides with
  | nil => rfl
  | cons entry rest inductionHypothesis =>
    rw [List.map_cons, List.mem_cons, not_or] at absent
    rw [insertAll_cons, insertAll_cons, insert_insert_comm placed (Ne.symm absent.1),
      inductionHypothesis absent.2 (mem_keys_insert (.inr placed))]

/-! ## Laws of updating -/

/-- Overrides that are updated by an entry more have that entry inserted afterwards. -/
theorem update_insert (overrides others : Overrides) (name target : String) :
    overrides.update (others.insert name target) = (overrides.update others).insert name target := by
  obtain ⟨entries, distinct⟩ := others
  show overrides.insertAll (insertEntry name target entries) =
    (overrides.insertAll entries).insert name target
  induction entries generalizing overrides with
  | nil => rfl
  | cons entry rest inductionHypothesis =>
    obtain ⟨key, old⟩ := entry
    rw [List.map_cons, List.nodup_cons] at distinct
    by_cases same : key = name
    · subst same
      -- The entry keeps its place, and what is inserted behind it is for other types.
      rw [insertEntry, if_pos rfl, insertAll_cons, insertAll_cons,
        ← insertAll_insert_comm distinct.1 (mem_keys_insert (.inl rfl)), insert_insert_same]
    · rw [insertEntry, if_neg same, insertAll_cons, insertAll_cons,
        inductionHypothesis _ distinct.2]

/-- Updated overrides name for a type what the others name for it, or else what they named before.
-/
theorem find?_update (overrides others : Overrides) (name : String) :
    (overrides.update others).find? name = (others.find? name).or (overrides.find? name) := by
  obtain ⟨entries, distinct⟩ := others
  show (overrides.insertAll entries).find? name = (entries.lookup name).or (overrides.find? name)
  induction entries generalizing overrides with
  | nil => rfl
  | cons entry rest inductionHypothesis =>
    obtain ⟨key, target⟩ := entry
    rw [List.map_cons, List.nodup_cons] at distinct
    rw [insertAll_cons, inductionHypothesis _ distinct.2, find?_insert]
    by_cases same : name = key
    · subst same
      simp [Association.lookup_eq_none_of_notMem distinct.1]
    · have missed : (name == key) = false := by simpa using same
      simp [List.lookup_cons, missed, same]

end SchemaTypes.Overrides
