import Mathlib.Data.List.DropRight
import SchemaTypes.Cache
import SchemaTypes.Proofs.Association

/-!
# What the operations of a cache do

Each operation is described once, by what it returns and by what it keeps. Everything else about
caches is derived from these descriptions.
-/

namespace SchemaTypes.Cache

variable {Key Time Data : Type}

/-- The keys results are kept under, the oldest result's first. -/
def keys (cache : Cache Key Time Data) : List Key := cache.entries.map Prod.fst

variable [DecidableEq Key] {cache : Cache Key Time Data} {key : Key} {data : Data} {now : Time}

/-! ## Setting a key aside -/

/-- The others are the entries under another key. -/
theorem mem_others {entry : Key × Entry Time Data} :
    entry ∈ cache.others key ↔ entry ∈ cache.entries ∧ entry.1 ≠ key := by
  simp [others]

/-- The others are some of the entries, in the same order. -/
theorem others_sublist (cache : Cache Key Time Data) (key : Key) :
    (cache.others key).Sublist cache.entries :=
  List.filter_sublist

theorem others_others (cache : Cache Key Time Data) (key : Key) :
    (cache.others key).filter (·.1 ≠ key) = cache.others key := by
  rw [others, List.filter_filter]
  simp only [Bool.and_self]

/-- Nothing is set aside for a key that nothing is kept under. -/
theorem others_eq_entries (absent : key ∉ cache.keys) : cache.others key = cache.entries := by
  rw [others, List.filter_eq_self]
  intro entry member
  have other : entry.1 ≠ key := by
    rintro rfl
    exact absent (List.mem_map_of_mem member)
  exact decide_eq_true other

/-- Without what is kept under a stored key, there is a result less. -/
theorem length_others_lt (stored : key ∈ cache.keys) : (cache.others key).length < cache.size := by
  obtain ⟨entry, member, same⟩ := List.mem_map.1 stored
  refine List.length_filter_lt_length_iff_exists.2 ⟨entry, member, ?_⟩
  simp [same]

/-! ## Storing -/

/-- Storing keeps the newest of the other results, as many as leave room for the new one. -/
theorem set_eq_ok (room : 1 ≤ cache.capacity) (key : Key) (data : Data) (now : Time) :
    cache.set key data now = .ok { cache with
      entries := (cache.others key).rtake (cache.capacity.toNat - 1) ++
        [(key, ⟨data, now, cache.lifetime⟩)] } := by
  have excess : (cache.others key).length + 1 - cache.capacity.toNat =
      (cache.others key).length - (cache.capacity.toNat - 1) := by omega
  rw [set, if_neg (by omega), List.rtake]
  simp only [excess]

/-- Nothing can be stored where there is no room. -/
theorem set_eq_error (noRoom : cache.capacity ≤ 0) (key : Key) (data : Data) (now : Time) :
    cache.set key data now = .error .noRoom := by
  rw [set, if_pos noRoom]

/-! ## Asking -/

variable [Sub Time] [LT Time] [DecidableLT Time]

/-- The valid result under a key is the one kept with it that is not expired. -/
theorem find?_eq_some_iff (distinct : cache.keys.Nodup) :
    cache.find? key now = some data ↔
      ∃ entry, (key, entry) ∈ cache.entries ∧ entry.isExpired now = false ∧ entry.data = data := by
  have lookup (entry : Entry Time Data) :
      cache.entries.lookup key = some entry ↔ (key, entry) ∈ cache.entries :=
    Association.lookup_eq_some_iff_mem distinct
  simp only [← lookup, find?]
  cases cache.entries.lookup key with
  | none => simp
  | some entry => simp

/-- Where a key has no valid result, what is kept under it is expired. -/
theorem isExpired_of_find?_eq_none (distinct : cache.keys.Nodup)
    (missing : cache.find? key now = none) {entry : Key × Entry Time Data}
    (member : entry ∈ cache.entries) (same : entry.1 = key) : entry.2.isExpired now = true := by
  cases valid : entry.2.isExpired now with
  | true => rfl
  | false =>
    subst same
    have found := (find?_eq_some_iff distinct).2 ⟨entry.2, member, valid, rfl⟩
    rw [missing] at found
    cases found

/-- Asking for a key gives what is found. -/
theorem get_fst (cache : Cache Key Time Data) (key : Key) (now : Time) :
    (cache.get key now).1 = cache.find? key now := by
  rw [get]
  cases cache.find? key now <;> rfl

/-- A hit returns the valid result and is counted. -/
theorem get_eq_of_find?_eq_some (found : cache.find? key now = some data) :
    cache.get key now = (some data, { cache with hits := cache.hits + 1 }) := by
  rw [get, found]

/-- A miss returns nothing, removes what is kept under the key, and is counted. -/
theorem get_eq_of_find?_eq_none (missing : cache.find? key now = none) :
    cache.get key now =
      (none, { cache with entries := cache.others key, misses := cache.misses + 1 }) := by
  rw [get, missing]

end SchemaTypes.Cache
