import SchemaTypes.Proofs.Cache.Operations

/-!
# Runs of a cache

A run is a list of calls made of one cache, each at what the clock shows. What a run preserves is
proved once for a call more. This module holds what needs no assumption about the clock: the limits
stay as they were set, hits and misses are those since the cache was last cleared, and a cache
without room stays empty.
-/

namespace SchemaTypes.Cache

variable {Key Time Data : Type}

/-- A call of a cache, with what the clock shows if it is looked at. -/
inductive Call (Key Time Data : Type) where
  | get (key : Key) (now : Time)
  | set (key : Key) (data : Data) (now : Time)
  | clear

/-- What the clock shows at a call. -/
def Call.reading? : Call Key Time Data → Option Time
  | .get _ now => some now
  | .set _ _ now => some now
  | .clear => none

/-- What a call gives. -/
inductive Outcome (Data : Type) where
  | hit (data : Data)
  | miss
  | stored
  | refused (full : Full)
  | cleared

namespace Outcome

def isHit : Outcome Data → Bool
  | hit _ => true
  | _ => false

def isMiss : Outcome Data → Bool
  | miss => true
  | _ => false

def isCleared : Outcome Data → Bool
  | cleared => true
  | _ => false

end Outcome

/-- The outcomes that come after the last clearing. -/
def sinceCleared (outcomes : List (Outcome Data)) : List (Outcome Data) :=
  outcomes.rtakeWhile fun outcome => !outcome.isCleared

/-- The cache that nothing was asked of yet. -/
def start (lifetime : Time) (capacity : Int) : Cache Key Time Data := { lifetime, capacity }

variable [DecidableEq Key] [Sub Time] [LT Time] [DecidableLT Time]

/-- Makes one call. -/
def perform (cache : Cache Key Time Data) : Call Key Time Data → Outcome Data × Cache Key Time Data
  | .get key now =>
    match cache.get key now with
    | (some data, next) => (.hit data, next)
    | (none, next) => (.miss, next)
  | .set key data now =>
    match cache.set key data now with
    | .ok next => (.stored, next)
    | .error full => (.refused full, cache)
  | .clear => (.cleared, cache.clear)

/-- What is left of a cache after calls. -/
def after (cache : Cache Key Time Data) (calls : List (Call Key Time Data)) :
    Cache Key Time Data :=
  calls.foldl (fun cache call => (cache.perform call).2) cache

/-- What calls give, one after the other. -/
def outcomes (cache : Cache Key Time Data) : List (Call Key Time Data) → List (Outcome Data)
  | [] => []
  | call :: calls => (cache.perform call).1 :: (cache.perform call).2.outcomes calls

variable {cache : Cache Key Time Data} {lifetime : Time} {capacity : Int}

/-! ## One call more -/

/-- The last call is performed on what the others leave. -/
theorem after_concat (cache : Cache Key Time Data) (calls : List (Call Key Time Data))
    (call : Call Key Time Data) :
    cache.after (calls ++ [call]) = ((cache.after calls).perform call).2 := by
  rw [after, List.foldl_append]
  rfl

/-- The outcome of the last call comes last. -/
theorem outcomes_concat (cache : Cache Key Time Data) (calls : List (Call Key Time Data))
    (call : Call Key Time Data) :
    cache.outcomes (calls ++ [call]) =
      cache.outcomes calls ++ [((cache.after calls).perform call).1] := by
  induction calls generalizing cache with
  | nil => rfl
  | cons first calls inductionHypothesis =>
    rw [List.cons_append, outcomes, outcomes, inductionHypothesis]
    rfl

/-- A key that is found is a hit. -/
theorem perform_get_of_some {key : Key} {data : Data} {now : Time}
    (found : cache.find? key now = some data) :
    cache.perform (.get key now) = (.hit data, { cache with hits := cache.hits + 1 }) := by
  rw [perform, get_eq_of_find?_eq_some found]

/-- A key that is not found is a miss, and its entry is gone. -/
theorem perform_get_of_none {key : Key} {now : Time} (missing : cache.find? key now = none) :
    cache.perform (.get key now) =
      (.miss, { cache with entries := cache.others key, misses := cache.misses + 1 }) := by
  rw [perform, get_eq_of_find?_eq_none missing]

/-- Where there is room, storing displaces the oldest entries as far as needed. -/
theorem perform_set_of_room (room : 1 ≤ cache.capacity) (key : Key) (data : Data) (now : Time) :
    cache.perform (.set key data now) = (.stored, { cache with
      entries := (cache.others key).rtake (cache.capacity.toNat - 1) ++
        [(key, ⟨data, now, cache.lifetime⟩)] }) := by
  rw [perform, set_eq_ok room]

/-- Where there is no room at all, storing is refused and nothing changes. -/
theorem perform_set_of_noRoom (noRoom : cache.capacity ≤ 0) (key : Key) (data : Data)
    (now : Time) : cache.perform (.set key data now) = (.refused .noRoom, cache) := by
  rw [perform, set_eq_error noRoom]

/-- What a call can do: what holds of each thing a call can give and leave holds of the call. -/
theorem perform_cases {motive : Outcome Data × Cache Key Time Data → Prop}
    (call : Call Key Time Data)
    (hit : ∀ key now data, call = .get key now → cache.find? key now = some data →
      motive (.hit data, { cache with hits := cache.hits + 1 }))
    (miss : ∀ key now, call = .get key now → cache.find? key now = none →
      motive (.miss, { cache with entries := cache.others key, misses := cache.misses + 1 }))
    (stored : ∀ key data now, call = .set key data now → 1 ≤ cache.capacity →
      motive (.stored, { cache with
        entries := (cache.others key).rtake (cache.capacity.toNat - 1) ++
          [(key, ⟨data, now, cache.lifetime⟩)] }))
    (refused : ∀ key data now, call = .set key data now → cache.capacity ≤ 0 →
      motive (.refused .noRoom, cache))
    (cleared : call = .clear → motive (.cleared, cache.clear)) :
    motive (cache.perform call) := by
  cases call with
  | get key now =>
    cases found : cache.find? key now with
    | some data =>
      rw [perform_get_of_some found]
      exact hit key now data rfl found
    | none =>
      rw [perform_get_of_none found]
      exact miss key now rfl found
  | set key data now =>
    by_cases room : 1 ≤ cache.capacity
    · rw [perform_set_of_room room]
      exact stored key data now rfl room
    · have noRoom : cache.capacity ≤ 0 := by omega
      rw [perform_set_of_noRoom noRoom]
      exact refused key data now rfl noRoom
  | clear => exact cleared rfl

/-! ## Limits -/

/-- No call changes the limits. -/
theorem perform_limits (cache : Cache Key Time Data) (call : Call Key Time Data) :
    (cache.perform call).2.lifetime = cache.lifetime ∧
      (cache.perform call).2.capacity = cache.capacity := by
  apply perform_cases (motive := fun (_, next) =>
    next.lifetime = cache.lifetime ∧ next.capacity = cache.capacity) call <;>
  · intros
    exact ⟨rfl, rfl⟩

/-- No run changes the limits. -/
theorem after_limits (cache : Cache Key Time Data) (calls : List (Call Key Time Data)) :
    (cache.after calls).lifetime = cache.lifetime ∧
      (cache.after calls).capacity = cache.capacity := by
  induction calls using List.reverseRecOn with
  | nil => exact ⟨rfl, rfl⟩
  | append_singleton calls call inductionHypothesis =>
    rw [after_concat, (perform_limits _ call).1, (perform_limits _ call).2]
    exact inductionHypothesis

theorem after_start_lifetime (lifetime : Time) (capacity : Int)
    (calls : List (Call Key Time Data)) :
    ((start lifetime capacity).after calls).lifetime = lifetime :=
  (after_limits _ calls).1

theorem after_start_capacity (lifetime : Time) (capacity : Int)
    (calls : List (Call Key Time Data)) :
    ((start lifetime capacity).after calls).capacity = capacity :=
  (after_limits _ calls).2

/-! ## Counting -/

/-- What is counted after a call that gave an outcome, where so much was counted before. -/
def countAfter (counted : Outcome Data → Bool) (outcome : Outcome Data) (count : Nat) : Nat :=
  if outcome.isCleared then 0 else count + if counted outcome then 1 else 0

/-- A call counts as a hit or a miss by what it gives, and counting begins anew with a clearing. -/
theorem perform_counts (cache : Cache Key Time Data) (call : Call Key Time Data) :
    (cache.perform call).2.hits = countAfter Outcome.isHit (cache.perform call).1 cache.hits ∧
      (cache.perform call).2.misses =
        countAfter Outcome.isMiss (cache.perform call).1 cache.misses := by
  apply perform_cases (motive := fun (outcome, next) =>
    next.hits = countAfter Outcome.isHit outcome cache.hits ∧
      next.misses = countAfter Outcome.isMiss outcome cache.misses) call <;>
  · intros
    exact ⟨rfl, rfl⟩

/-- One more outcome counts, or starts the count again. -/
theorem countP_sinceCleared_concat (counted : Outcome Data → Bool) (outcomes : List (Outcome Data))
    (outcome : Outcome Data) :
    (sinceCleared (outcomes ++ [outcome])).countP counted =
      countAfter counted outcome ((sinceCleared outcomes).countP counted) := by
  rw [sinceCleared, List.rtakeWhile_concat, countAfter]
  cases outcome.isCleared with
  | true => rfl
  | false => simp [sinceCleared, List.countP_append, List.countP_singleton]

/-- Hits and misses are those since the last clearing. -/
theorem after_counts (lifetime : Time) (capacity : Int) (calls : List (Call Key Time Data)) :
    let cache : Cache Key Time Data := start lifetime capacity
    (cache.after calls).hits = (sinceCleared (cache.outcomes calls)).countP Outcome.isHit ∧
      (cache.after calls).misses =
        (sinceCleared (cache.outcomes calls)).countP Outcome.isMiss := by
  intro cache
  induction calls using List.reverseRecOn with
  | nil => exact ⟨rfl, rfl⟩
  | append_singleton calls call inductionHypothesis =>
    rw [after_concat, outcomes_concat, countP_sinceCleared_concat, countP_sinceCleared_concat,
      ← inductionHypothesis.1, ← inductionHypothesis.2]
    exact perform_counts _ call

/-! ## No room -/

/-- A cache without room stays empty. -/
theorem after_entries_of_noRoom (noRoom : capacity ≤ 0) (lifetime : Time)
    (calls : List (Call Key Time Data)) : ((start lifetime capacity).after calls).entries = [] := by
  induction calls using List.reverseRecOn with
  | nil => rfl
  | append_singleton calls call inductionHypothesis =>
    have noRoomLeft := (after_start_capacity lifetime capacity calls).trans_le noRoom
    rw [after_concat]
    apply perform_cases (motive := fun result => result.2.entries = []) call
    case hit => exact fun _ _ _ _ _ => inductionHypothesis
    case miss => exact fun key _ _ _ => by simp [others, inductionHypothesis]
    case stored => exact fun _ _ _ _ room => absurd room (by omega)
    case refused => exact fun _ _ _ _ _ => inductionHypothesis
    case cleared => exact fun _ => rfl

end SchemaTypes.Cache
