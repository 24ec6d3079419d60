import Mathlib.Algebra.Order.Group.Int
import SchemaTypes.Proofs.Cache.History

/-!
# When asking hits

Whether asking for a key hits is told by the calls alone: by what the key was last set to, how long
ago that was, and how many other keys were set since. That expired results are removed when they are
asked for, and results stored anew are moved to the end, makes no difference to it.
-/

namespace SchemaTypes.Cache

variable {Key Time Data : Type} [DecidableEq Key] {calls later : List (Call Key Time Data)}
  {key : Key} {data : Data} {stored now : Time}

/-- What a key was last set to is among the newest in the ledger if few enough keys were set
since. -/
theorem LastSet.mem_rtake_ledger_iff (last : LastSet calls key data stored later) (lifetime : Time)
    (count : Nat) :
    (key, ⟨data, stored, lifetime⟩) ∈ (ledger lifetime calls).rtake count ↔
      (setKeys later).dedup.length < count := by
  obtain ⟨before, split⟩ := last.ledger_eq lifetime
  have distinct : (ledger lifetime calls).Nodup := (nodup_ledger lifetime calls).of_map
  rw [split] at distinct ⊢
  rw [Newest.mem_rtake_iff distinct, length_ledger last.uncleared]

variable [AddCommGroup Time] [LinearOrder Time] {cache : Cache Key Time Data}

/-- A key has a valid result if it was last set to it no longer ago than the lifetime, and fewer
other keys were set since than there is room for. -/
theorem Consistent.find?_eq_some_iff (consistent : Consistent calls cache)
    (latest : Latest calls now) :
    cache.find? key now = some data ↔
      ∃ stored later, LastSet calls key data stored later ∧ now - stored ≤ cache.lifetime ∧
        (setKeys later).dedup.length < cache.capacity.toNat := by
  have kept (entry : Entry Time Data) :
      (key, entry) ∈ cache.entries ∧ valid now (key, entry) = true ↔
        (key, entry) ∈ (ledger cache.lifetime calls).rtake cache.capacity.toNat ∧
          valid now (key, entry) = true := by
    rw [← List.mem_filter, consistent.newest now latest, List.mem_filter]
  rw [Cache.find?_eq_some_iff consistent.distinct]
  constructor
  · rintro ⟨entry, member, unexpired, rfl⟩
    obtain ⟨newest, stillValid⟩ := (kept entry).1 ⟨member, by simp [valid, unexpired]⟩
    obtain ⟨lifetime, later, last⟩ := exists_lastSet_of_mem_ledger (List.mem_of_mem_drop newest)
    have young : now - entry.stored ≤ entry.lifetime := valid_iff.1 stillValid
    have same : entry.lifetime = cache.lifetime := lifetime
    have few := (last.mem_rtake_ledger_iff cache.lifetime cache.capacity.toNat).1 (same ▸ newest)
    exact ⟨entry.stored, later, last, same ▸ young, few⟩
  · rintro ⟨stored, later, last, young, few⟩
    have newest := (last.mem_rtake_ledger_iff cache.lifetime cache.capacity.toNat).2 few
    obtain ⟨member, stillValid⟩ := (kept ⟨data, stored, cache.lifetime⟩).2 ⟨newest, valid_iff.2 young⟩
    exact ⟨_, member, by simpa [valid] using stillValid, rfl⟩

/-- Storing under a key that is stored already evicts nothing. -/
theorem Consistent.rtake_others_of_mem (consistent : Consistent calls cache)
    (stored : key ∈ cache.keys) :
    (cache.others key).rtake (cache.capacity.toNat - 1) = cache.others key := by
  have fewer := length_others_lt stored
  have bounded : cache.size ≤ cache.capacity.toNat := consistent.bounded
  have none : (cache.others key).length - (cache.capacity.toNat - 1) = 0 := by omega
  rw [List.rtake, none, List.drop_zero]

variable [IsOrderedAddMonoid Time]

/-- Storing evicts something valid only if all that is stored is valid. -/
theorem Consistent.valid_of_evicted (consistent : Consistent calls cache) (steady : Steady calls)
    {evicted : Key × Entry Time Data} (member : evicted ∈ cache.others key)
    (gone : evicted ∉ (cache.others key).rtake (cache.capacity.toNat - 1))
    (validEvicted : valid now evicted = true) : ∀ entry ∈ cache.entries, valid now entry = true := by
  have absent : key ∉ cache.keys := by
    intro stored
    rw [consistent.rtake_others_of_mem stored] at gone
    exact gone member
  have bounded := consistent.bounded
  have suffix := consistent.pairwise_valid steady now
  rw [others_eq_entries absent] at member gone
  cases entries : cache.entries with
  | nil =>
    rw [entries] at member
    cases member
  | cons oldest rest =>
    -- No more than one entry has to go, which is the oldest, and validity passes on to newer ones.
    rw [entries] at member gone bounded suffix
    have evictions : (oldest :: rest).length - (cache.capacity.toNat - 1) ≤ 1 := by omega
    have kept : rest.Sublist ((oldest :: rest).rtake (cache.capacity.toNat - 1)) :=
      List.drop_sublist_drop_left (oldest :: rest) evictions
    have first : evicted = oldest := by
      rcases List.mem_cons.1 member with first | member
      · exact first
      · exact absurd (kept.subset member) gone
    subst first
    intro entry member
    rcases List.mem_cons.1 member with rfl | member
    · exact validEvicted
    · exact List.rel_of_pairwise_cons suffix member validEvicted

/-! ## The law -/

/-- Under a clock that never goes back, a cache with room answers a key with what the key was last
set to, if that was no longer ago than the lifetime and fewer other keys were set since than there
is room for. Its results have distinct keys, are those their keys were last set to, and stand in the
order of those calls and times, within the limit. Storing under a stored key evicts nothing, and
what is valid is evicted only if nothing expired is stored. Hits and misses are those since the last
clearing. A cache without room refuses to store and stays empty. -/
theorem after_law (lifetime : Time) (capacity : Int) (calls : List (Call Key Time Data)) :
    let cache : Cache Key Time Data := (start lifetime capacity).after calls
    let outcomes : List (Outcome Data) :=
      sinceCleared ((start lifetime capacity : Cache Key Time Data).outcomes calls)
    (1 ≤ capacity → Steady calls →
      (∀ key data now, Steady (calls ++ [.get key now]) →
        ((cache.get key now).1 = some data ↔
          ∃ stored later, LastSet calls key data stored later ∧ now - stored ≤ lifetime ∧
            (setKeys later).dedup.length < capacity)) ∧
      cache.keys.Nodup ∧
      (∀ entry ∈ cache.entries, ∃ later,
        LastSet calls entry.1 entry.2.data entry.2.stored later) ∧
      cache.entries.Pairwise (SetBefore calls) ∧
      cache.entries.Pairwise (fun older newer => older.2.stored ≤ newer.2.stored) ∧
      cache.size ≤ capacity ∧
      ∀ key data now, ∃ next, cache.set key data now = .ok next ∧
        (key ∈ cache.keys →
          next.entries = cache.others key ++ [(key, ⟨data, now, lifetime⟩)]) ∧
        ∀ evicted ∈ cache.others key, evicted ∉ next.entries →
          evicted.2.isExpired now = false →
            ∀ entry ∈ cache.entries, entry.2.isExpired now = false) ∧
    (cache.hits = outcomes.countP Outcome.isHit ∧
      cache.misses = outcomes.countP Outcome.isMiss) ∧
    (capacity ≤ 0 →
      (∀ key data now, cache.set key data now = .error .noRoom) ∧ cache.entries = []) := by
  intro cache outcomes
  have limits : cache.lifetime = lifetime ∧ cache.capacity = capacity :=
    ⟨after_start_lifetime lifetime capacity calls, after_start_capacity lifetime capacity calls⟩
  refine ⟨?_, after_counts lifetime capacity calls, ?_⟩
  · intro room steady
    have consistent : Consistent calls cache := consistent_after room steady lifetime
    have roomLeft : 1 ≤ cache.capacity := room.trans_eq limits.2.symm
    refine ⟨?_, consistent.distinct, ?_, ?_, ?_, ?_, ?_⟩
    · intro key data now steadyThen
      have latest : Latest calls now := steadyThen.latest rfl
      rw [get_fst, consistent.find?_eq_some_iff latest, limits.1, limits.2]
      simp only [Int.lt_toNat]
    · intro entry member
      exact (exists_lastSet_of_mem_ledger (consistent.sublist.subset member)).2
    · exact (pairwise_setBefore_ledger _ calls).sublist consistent.sublist
    · exact (steady.pairwise_stored_ledger _).sublist consistent.sublist
    · have bounded := consistent.bounded
      rw [size]
      omega
    · intro key data now
      refine ⟨_, set_eq_ok roomLeft key data now, ?_, ?_⟩
      · intro stored
        rw [consistent.rtake_others_of_mem stored, limits.1]
      · intro evicted member gone unexpired
        have kept : evicted ∉ (cache.others key).rtake (cache.capacity.toNat - 1) :=
          fun newest => gone (List.mem_append_left _ newest)
        have validEvicted : valid now evicted = true := by simp [valid, unexpired]
        simpa [valid] using consistent.valid_of_evicted steady member kept validEvicted
  · intro noRoom
    exact ⟨set_eq_error (limits.2.trans_le noRoom), after_entries_of_noRoom noRoom lifetime calls⟩

/-- Three keys are set where there is room for two, and one of them is asked for in between. -/
def crowded : List (Call String Int Nat) :=
  [.set "a" 1 0, .set "b" 2 10, .get "a" 20, .set "c" 3 30]

/-- In a crowded cache the newer key is found and the displaced one is not, and where there is no
room at all nothing is stored. -/
theorem after_law_crowded :
    Steady (crowded ++ [.get "b" 40]) ∧
      (((start 60 2).after crowded).get "b" 40).1 = some 2 ∧
      (((start 60 2).after crowded).get "a" 40).1 = none ∧
      ((start 60 2).after crowded).hits = 1 ∧
      ((start 60 0).after crowded).set "d" 4 50 = .error .noRoom := by
  have steady : Steady crowded := by decide
  have steadyThen : Steady (crowded ++ [.get "b" 40]) := by decide
  have last : LastSet crowded "b" 2 10 [.get "a" 20, .set "c" 3 30] :=
    ⟨⟨[.set "a" 1 0], rfl⟩, by simp [Call.Spares]⟩
  have found := (((after_law 60 2 crowded).1 (by decide) steady).1 "b" 2 40 steadyThen).2
    ⟨10, _, last, by decide, by decide⟩
  have refused := ((after_law 60 0 crowded).2.2 (by decide)).1 "d" 4 50
  exact ⟨steadyThen, found, by decide, by decide, refused⟩

end SchemaTypes.Cache
