/-!
# Type overrides

Overrides name a generated type for a schema type. Each schema type has at most one, and they keep
the order in which their types were first named; naming a type again replaces its target in place.
-/

namespace SchemaTypes

/-- A finite map from schema types to generated types, in the order of first mention. -/
structure Overrides where
  entries : List (String × String)
  distinct : (entries.map Prod.fst).Nodup
  deriving DecidableEq

namespace Overrides

/-- No overrides. -/
def empty : Overrides := ⟨[], List.nodup_nil⟩

instance : Inhabited Overrides := ⟨empty⟩

/-- The generated type named for a schema type. -/
def find? (overrides : Overrides) (name : String) : Option String :=
  overrides.entries.lookup name

/-- Entries with the target of `name` replaced where it stands, or added at the end. -/
def insertEntry (name value : String) : List (String × String) → List (String × String)
  | [] => [(name, value)]
  | (key, old) :: rest =>
    if key = name then (key, value) :: rest else (key, old) :: insertEntry name value rest

/-- Inserting adds the name to the keys if it is new and changes them in no other way. -/
theorem map_fst_insertEntry (name value : String) (entries : List (String × String)) :
    (insertEntry name value entries).map Prod.fst =
      if name ∈ entries.map Prod.fst then entries.map Prod.fst
      else entries.map Prod.fst ++ [name] := by
  induction entries with
  | nil => simp [insertEntry]
  | cons entry rest inductionHypothesis =>
    obtain ⟨key, old⟩ := entry
    by_cases same : key = name
    · simp [insertEntry, same]
    · simp only [insertEntry, same, if_false, List.map_cons, inductionHypothesis, List.mem_cons,
        Ne.symm same, false_or]
      split <;> simp

/-- Names a target for a schema type, in place of any earlier one. -/
def insert (overrides : Overrides) (name value : String) : Overrides where
  entries := insertEntry name value overrides.entries
  distinct := by
    rw [map_fst_insertEntry]
    split
    · exact overrides.distinct
    · next fresh =>
      rw [List.nodup_append]
      refine ⟨overrides.distinct, by simp, ?_⟩
      intro key member other single
      simp only [List.mem_singleton] at single
      exact fun same => fresh (by rw [← single, ← same]; exact member)

/-- Overrides from pairs; of two pairs for one type the later counts. -/
def ofList (pairs : List (String × String)) : Overrides :=
  pairs.foldl (fun overrides (name, value) => overrides.insert name value) empty

/-- What a name is mapped to after an insertion. -/
theorem find?_insert (overrides : Overrides) (name value other : String) :
    (overrides.insert name value).find? other =
      if other = name then some value else overrides.find? other := by
  suffices general : ∀ entries : List (String × String),
      (insertEntry name value entries).lookup other =
        if other = name then some value else entries.lookup other from general _
  intro entries
  induction entries with
  | nil =>
    by_cases same : other = name
    · simp [insertEntry, same]
    · have missed : (other == name) = false := by simpa using same
      simp [insertEntry, List.lookup_cons, same, missed]
  | cons entry rest inductionHypothesis =>
    obtain ⟨key, old⟩ := entry
    by_cases same : key = name
    · subst same
      by_cases asked : other = key
      · simp [insertEntry, asked]
      · have missed : (other == key) = false := by simpa using asked
        simp [insertEntry, List.lookup_cons, asked, missed]
    · by_cases asked : other = key
      · subst asked
        simp [insertEntry, same]
      · have missed : (other == key) = false := by simpa using asked
        simp [insertEntry, List.lookup_cons, same, missed, inductionHypothesis]

/-- The entries in increasing order of their schema types. -/
def sorted (overrides : Overrides) : List (String × String) :=
  overrides.entries.mergeSort fun left right => decide (left.1 ≤ right.1)

end Overrides

end SchemaTypes
