import Mathlib.Algebra.Order.Group.Defs
import Mathlib.Algebra.Order.Group.Unbundled.Basic
import SchemaTypes.Proofs.Cache.Ledger
import SchemaTypes.Proofs.Newest

/-!
# What a cache holds after a run

Under a clock that never goes back, what is valid in a cache is what is valid among the newest
entries of the ledger, as many as the cache has room for. Expired entries may be missing: one is
removed when its key is asked for, which lets an older expired entry stay longer than it would
have. This never shows, since what expires first is also evicted first.
-/

namespace SchemaTypes.Cache

variable {Key Time Data : Type} [DecidableEq Key] [AddCommGroup Time] [LinearOrder Time]
  {cache : Cache Key Time Data} {calls : List (Call Key Time Data)}

/-- Whether what is kept is valid. -/
def valid (now : Time) (entry : Key × Entry Time Data) : Bool := !entry.2.isExpired now

/-- A cache holds part of the ledger, in its order and within the limit, and of what is valid as
much as the limit allows. -/
structure Consistent (calls : List (Call Key Time Data)) (cache : Cache Key Time Data) : Prop where
  sublist : cache.entries.Sublist (ledger cache.lifetime calls)
  bounded : cache.entries.length ≤ cache.capacity.toNat
  newest : ∀ now, Latest calls now →
    cache.entries.filter (valid now) =
      ((ledger cache.lifetime calls).rtake cache.capacity.toNat).filter (valid now)

namespace Consistent

/-- No key stands twice in a cache. -/
theorem distinct (consistent : Consistent calls cache) : cache.keys.Nodup :=
  (consistent.sublist.map Prod.fst).nodup (nodup_ledger cache.lifetime calls)

/-- A hit changes neither the cache nor the ledger. -/
theorem hit (consistent : Consistent calls cache) (key : Key) (asked : Time) :
    Consistent (calls ++ [.get key asked]) { cache with hits := cache.hits + 1 } := by
  refine ⟨?_, consistent.bounded, ?_⟩
  · rw [ledger_concat_get]
    exact consistent.sublist
  · intro now latest
    rw [ledger_concat_get]
    exact consistent.newest now latest.initial

/-- Clearing leaves nothing. -/
theorem clear (cache : Cache Key Time Data) (calls : List (Call Key Time Data)) :
    Consistent (calls ++ [.clear]) cache.clear := by
  have none : ledger cache.lifetime (calls ++ [.clear]) = [] := ledger_concat ..
  refine ⟨?_, ?_, ?_⟩
  · exact List.nil_sublist _
  · exact Nat.zero_le _
  · intro now latest
    rw [Cache.clear, none]
    simp

end Consistent

/-! ## Validity -/

omit [DecidableEq Key] in
/-- An entry is valid as long as its lifetime has not run out. -/
theorem valid_iff {now : Time} {entry : Key × Entry Time Data} :
    valid now entry = true ↔ now - entry.2.stored ≤ entry.2.lifetime := by
  simp [valid, Entry.isExpired]

variable [IsOrderedAddMonoid Time]

omit [DecidableEq Key] in
/-- What is valid was valid before. -/
theorem valid_of_le {earlier now : Time} (notAfter : earlier ≤ now)
    {entry : Key × Entry Time Data} (stillValid : valid now entry = true) :
    valid earlier entry = true :=
  valid_iff.2 ((sub_le_sub_right notAfter _).trans (valid_iff.1 stillValid))

/-- In a ledger, what is newer than something valid is valid. -/
theorem Steady.pairwise_valid_ledger (steady : Steady calls) (lifetime now : Time) :
    (ledger lifetime calls).Pairwise fun older newer =>
      valid now older = true → valid now newer = true := by
  refine List.Pairwise.imp_of_mem ?_ (steady.pairwise_stored_ledger lifetime)
  intro older newer memberOlder memberNewer order validOlder
  have lifetimeOlder := (exists_lastSet_of_mem_ledger memberOlder).1
  have lifetimeNewer := (exists_lastSet_of_mem_ledger memberNewer).1
  rw [valid_iff, lifetimeNewer]
  rw [valid_iff, lifetimeOlder] at validOlder
  exact (sub_le_sub_left order now).trans validOlder

/-! ## Calls and runs -/

namespace Consistent

/-- In a cache, what is newer than something valid is valid. -/
theorem pairwise_valid (consistent : Consistent calls cache) (steady : Steady calls) (now : Time) :
    cache.entries.Pairwise fun older newer =>
      valid now older = true → valid now newer = true :=
  (steady.pairwise_valid_ledger cache.lifetime now).sublist consistent.sublist

/-- A miss loses nothing that will ever be valid. -/
theorem miss {key : Key} {asked : Time} (consistent : Consistent calls cache)
    (missing : cache.find? key asked = none) :
    Consistent (calls ++ [.get key asked])
      { cache with entries := cache.others key, misses := cache.misses + 1 } := by
  refine ⟨?_, ?_, ?_⟩
  · rw [ledger_concat_get]
    exact (cache.others_sublist key).trans consistent.sublist
  · exact (cache.others_sublist key).length_le.trans consistent.bounded
  · intro now latest
    -- What is removed was expired when it was asked for, and the clock has gone on since.
    have notAfter : asked ≤ now := latest.reading_le rfl
    rw [ledger_concat_get, ← consistent.newest now latest.initial, others, List.filter_filter]
    refine List.filter_congr fun entry member => ?_
    by_cases other : entry.1 = key
    · have expired := isExpired_of_find?_eq_none consistent.distinct missing member other
      have invalid : valid now entry = false := by
        rw [← Bool.not_eq_true]
        intro stillValid
        have validThen := valid_of_le notAfter stillValid
        simp [valid, expired] at validThen
      simp [invalid]
    · simp [other]

/-- Storing evicts from the cache what the limit excludes from the ledger. -/
theorem store (consistent : Consistent calls cache) (room : 1 ≤ cache.capacity)
    (steady : Steady calls) (key : Key) (data : Data) (stored : Time) :
    Consistent (calls ++ [.set key data stored]) { cache with
      entries := (cache.others key).rtake (cache.capacity.toNat - 1) ++
        [(key, ⟨data, stored, cache.lifetime⟩)] } := by
  obtain ⟨count, size⟩ : ∃ count, cache.capacity.toNat = count + 1 :=
    ⟨cache.capacity.toNat - 1, by omega⟩
  refine ⟨?_, ?_, ?_⟩
  · rw [ledger_concat]
    exact ((List.drop_sublist _ _).trans (consistent.sublist.filter _)).append_right _
  · show _ ≤ cache.capacity.toNat
    rw [List.length_append, List.length_singleton, List.rtake, List.length_drop]
    omega
  · intro now latest
    let kept := ledger cache.lifetime calls
    have newest := consistent.newest now latest.initial
    have suffix := steady.pairwise_valid_ledger cache.lifetime now
    -- The invariant speaks of what is valid, so validity is moved inwards to use it and out again.
    have others : ((cache.others key).rtake count).filter (valid now) =
        ((kept.filter (·.1 ≠ key)).rtake count).filter (valid now) := calc
      _ = ((cache.others key).filter (valid now)).rtake count :=
        Newest.filter_rtake ((consistent.pairwise_valid steady now).filter _) count
      _ = ((cache.entries.filter (valid now)).filter (·.1 ≠ key)).rtake count := by
        rw [Cache.others, List.filter_comm]
      _ = (((kept.rtake (count + 1)).filter (·.1 ≠ key)).filter (valid now)).rtake count := by
        rw [newest, size, List.filter_comm]
      _ = (((kept.rtake (count + 1)).filter (·.1 ≠ key)).rtake count).filter (valid now) :=
        (Newest.filter_rtake ((suffix.sublist (List.drop_sublist _ _)).filter _) count).symm
      _ = _ := by
        rw [Newest.rtake_filter_ne_rtake (nodup_ledger cache.lifetime calls)]
    rw [ledger_concat, record, size, Nat.add_sub_cancel, List.rtake_concat_succ,
      List.filter_append, List.filter_append, others]

/-- A call leaves a cache consistent. -/
theorem perform (consistent : Consistent calls cache) (room : 1 ≤ cache.capacity)
    (steady : Steady calls) (call : Call Key Time Data) :
    Consistent (calls ++ [call]) (cache.perform call).2 := by
  apply perform_cases (motive := fun (_, next) => Consistent (calls ++ [call]) next) call
  case hit =>
    rintro key now data rfl -
    exact consistent.hit key now
  case miss =>
    rintro key now rfl missing
    exact consistent.miss missing
  case stored =>
    rintro key data now rfl -
    exact consistent.store room steady key data now
  case refused =>
    intro key data now _ noRoom
    exact absurd room (by omega)
  case cleared =>
    rintro rfl
    exact .clear cache calls

end Consistent

/-- A cache is consistent after every run under a clock that never goes back. -/
theorem consistent_after {capacity : Int} (room : 1 ≤ capacity) (steady : Steady calls)
    (lifetime : Time) : Consistent calls ((start lifetime capacity).after calls) := by
  induction calls using List.reverseRecOn with
  | nil =>
    refine ⟨List.nil_sublist _, Nat.zero_le _, ?_⟩
    intro now _
    exact (congrArg _ (List.rtake_nil _)).symm
  | append_singleton calls call inductionHypothesis =>
    have roomLeft := room.trans_eq (after_start_capacity lifetime capacity calls).symm
    rw [after_concat]
    exact (inductionHypothesis steady.initial).perform roomLeft steady.initial call

end SchemaTypes.Cache
