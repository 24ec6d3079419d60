/-!
# A store of recent results

Results are kept under keys for a limited time and up to a limited number. Asking for a key counts
as a hit or a miss. Storing under a new key makes room by dropping the results stored longest ago;
storing under an old key drops only the result it replaces. Times are of any type that can be
subtracted and compared, so a clock may run in any unit.
-/

namespace SchemaTypes

/-- A result with the time it was stored at and the time it stays valid. -/
structure Cache.Entry (Time Data : Type) where
  data : Data
  stored : Time
  lifetime : Time

/-- Results under keys, those stored longest ago first. -/
structure Cache (Key Time Data : Type) where
  lifetime : Time
  capacity : Int
  entries : List (Key × Cache.Entry Time Data) := []
  hits : Nat := 0
  misses : Nat := 0

namespace Cache

variable {Key Time Data : Type} [DecidableEq Key] [Sub Time] [LT Time] [DecidableLT Time]

/-- Whether a result is no longer valid: it is older than its lifetime. -/
def Entry.isExpired (entry : Entry Time Data) (now : Time) : Bool :=
  decide (entry.lifetime < now - entry.stored)

/-- The number of results kept. -/
def size (cache : Cache Key Time Data) : Nat := cache.entries.length

/-- The results under other keys than the given one. -/
def others (cache : Cache Key Time Data) (key : Key) : List (Key × Entry Time Data) :=
  cache.entries.filter fun entry => entry.1 ≠ key

/-- The valid result under a key. -/
def find? (cache : Cache Key Time Data) (key : Key) (now : Time) : Option Data :=
  match cache.entries.lookup key with
  | some entry => if entry.isExpired now then none else some entry.data
  | none => none

/-- Asks for a key. A miss removes what is stored under the key. -/
def get (cache : Cache Key Time Data) (key : Key) (now : Time) :
    Option Data × Cache Key Time Data :=
  match cache.find? key now with
  | some data => (some data, { cache with hits := cache.hits + 1 })
  | none => (none, { cache with entries := cache.others key, misses := cache.misses + 1 })

/-- There is no room for even one result. -/
inductive Full where
  | noRoom
  deriving DecidableEq, Repr

/-- Stores a result under a key as the newest one. -/
def set (cache : Cache Key Time Data) (key : Key) (data : Data) (now : Time) :
    Except Full (Cache Key Time Data) :=
  if cache.capacity ≤ 0 then .error .noRoom
  else
    let kept := cache.others key
    let excess := kept.length + 1 - cache.capacity.toNat
    .ok { cache with entries := kept.drop excess ++ [(key, ⟨data, now, cache.lifetime⟩)] }

/-- Removes every result and starts counting anew. -/
def clear (cache : Cache Key Time Data) : Cache Key Time Data :=
  { cache with entries := [], hits := 0, misses := 0 }

end Cache

end SchemaTypes
