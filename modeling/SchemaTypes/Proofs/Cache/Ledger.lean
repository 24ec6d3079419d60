import Mathlib.Data.List.Dedup
import SchemaTypes.Proofs.Cache.Run

/-!
# The ledger of a run

The ledger of a run is what a cache without limits would hold after it: for every key set since the
last clearing, what it was last set to, in the order of those calls. It does not depend on what
calls give. It is tied to the calls themselves here, so that a statement about the ledger is one
about the run.
-/

namespace SchemaTypes.Cache

variable {Key Time Data : Type}

/-- The key that a call sets. -/
def Call.setKey? : Call Key Time Data → Option Key
  | .set key _ _ => some key
  | _ => none

/-- The keys that calls set, one for each call that sets one. -/
def setKeys (calls : List (Call Key Time Data)) : List Key := calls.filterMap Call.setKey?

/-- What the clock shows at calls, one after the other. -/
def readings (calls : List (Call Key Time Data)) : List Time := calls.filterMap Call.reading?

/-- No call was made after a time. -/
def Latest [LE Time] (calls : List (Call Key Time Data)) (now : Time) : Prop :=
  ∀ reading ∈ readings calls, reading ≤ now

/-- The clock never goes back from one call to a later one. -/
def Steady [LE Time] (calls : List (Call Key Time Data)) : Prop := (readings calls).Pairwise (· ≤ ·)

instance [LE Time] [DecidableLE Time] (calls : List (Call Key Time Data)) :
    Decidable (Steady calls) :=
  inferInstanceAs (Decidable (List.Pairwise _ _))

/-- A call that neither sets a key nor clears the cache. -/
def Call.Spares (key : Key) : Call Key Time Data → Prop
  | .get _ _ => True
  | .set other _ _ => other ≠ key
  | .clear => False

/-- Among the calls, a key was last set to a result at a time, and the cache was not cleared since:
these are the calls that were made later. -/
structure LastSet (calls : List (Call Key Time Data)) (key : Key) (data : Data) (stored : Time)
    (later : List (Call Key Time Data)) : Prop where
  called : ∃ earlier, calls = earlier ++ .set key data stored :: later
  spared : ∀ call ∈ later, call.Spares key

/-- Among the calls, one result was last set before the other one was. -/
def SetBefore (calls : List (Call Key Time Data)) (older newer : Key × Entry Time Data) : Prop :=
  ∃ laterOlder laterNewer, laterNewer.length < laterOlder.length ∧
    LastSet calls older.1 older.2.data older.2.stored laterOlder ∧
    LastSet calls newer.1 newer.2.data newer.2.stored laterNewer

section Readings

/-- The reading of another call comes last. -/
theorem readings_concat (calls : List (Call Key Time Data)) (call : Call Key Time Data) :
    readings (calls ++ [call]) = readings calls ++ call.reading?.toList := by
  rw [readings, List.filterMap_append, readings]
  cases reads : call.reading? <;> simp [reads]

variable [LE Time] {calls : List (Call Key Time Data)} {call : Call Key Time Data}
  {reading now : Time}

/-- Without the last one, the calls were not made after the time either. -/
theorem Latest.initial (latest : Latest (calls ++ [call]) now) : Latest calls now := by
  intro reading member
  rw [Latest, readings_concat] at latest
  exact latest reading (List.mem_append_left _ member)

/-- The last call was not made after the time either. -/
theorem Latest.reading_le (latest : Latest (calls ++ [call]) now)
    (reads : call.reading? = some reading) : reading ≤ now := by
  rw [Latest, readings_concat, reads] at latest
  exact latest reading (List.mem_append_right _ (List.mem_singleton_self reading))

/-- A clock that never goes back did not go back before the last call. -/
theorem Steady.initial (steady : Steady (calls ++ [call])) : Steady calls := by
  rw [Steady, readings_concat] at steady
  exact (List.pairwise_append.1 steady).1

/-- Under a clock that never goes back, no call was made after what it shows last. -/
theorem Steady.latest (steady : Steady (calls ++ [call])) (reads : call.reading? = some now) :
    Latest calls now := by
  rw [Steady, readings_concat, reads] at steady
  intro reading member
  exact (List.pairwise_append.1 steady).2.2 reading member now (List.mem_singleton_self now)

end Readings

namespace LastSet

variable {key : Key} {data : Data} {stored : Time} {calls later : List (Call Key Time Data)}
  {call : Call Key Time Data}

/-- A key that was just set was last set then. -/
theorem of_set (calls : List (Call Key Time Data)) (key : Key) (data : Data) (now : Time) :
    LastSet (calls ++ [.set key data now]) key data now [] :=
  ⟨⟨calls, rfl⟩, by simp⟩

/-- A call that spares a key leaves what the key was last set to. -/
theorem concat (last : LastSet calls key data stored later) (spares : call.Spares key) :
    LastSet (calls ++ [call]) key data stored (later ++ [call]) := by
  obtain ⟨⟨earlier, rfl⟩, spared⟩ := last
  refine ⟨⟨earlier, by simp⟩, ?_⟩
  intro other member
  rcases List.mem_append.1 member with member | member
  · exact spared other member
  · rwa [List.mem_singleton.1 member]

/-- The cache was not cleared since. -/
theorem uncleared (last : LastSet calls key data stored later) : .clear ∉ later :=
  last.spared .clear

/-- The key was not set since. -/
theorem notMem_setKeys (last : LastSet calls key data stored later) : key ∉ setKeys later := by
  intro member
  obtain ⟨call, member, sets⟩ := List.mem_filterMap.1 member
  have spares := last.spared call member
  cases call with
  | get other now => cases sets
  | set other data now => exact spares (Option.some.inj sets)
  | clear => cases sets

/-- A key was set at a time that the clock showed. -/
theorem stored_mem_readings (last : LastSet calls key data stored later) :
    stored ∈ readings calls := by
  obtain ⟨⟨earlier, rfl⟩, -⟩ := last
  simp [readings, Call.reading?]

end LastSet

variable [DecidableEq Key]

/-- What a call leaves in a ledger. -/
def record (lifetime : Time) (ledger : List (Key × Entry Time Data)) :
    Call Key Time Data → List (Key × Entry Time Data)
  | .get _ _ => ledger
  | .set key data now => ledger.filter (·.1 ≠ key) ++ [(key, ⟨data, now, lifetime⟩)]
  | .clear => []

/-- What a cache without limits holds after calls. -/
def ledger (lifetime : Time) (calls : List (Call Key Time Data)) : List (Key × Entry Time Data) :=
  calls.foldl (record lifetime) []

variable {lifetime : Time} {key : Key} {data : Data} {stored : Time}
  {calls later : List (Call Key Time Data)} {entry : Key × Entry Time Data}

/-- Another call is recorded behind the others. -/
theorem ledger_concat (lifetime : Time) (calls : List (Call Key Time Data))
    (call : Call Key Time Data) :
    ledger lifetime (calls ++ [call]) = record lifetime (ledger lifetime calls) call := by
  rw [ledger, List.foldl_append]
  rfl

/-- Asking for a key leaves no record. -/
theorem ledger_concat_get (lifetime : Time) (calls : List (Call Key Time Data)) (key : Key)
    (now : Time) : ledger lifetime (calls ++ [.get key now]) = ledger lifetime calls :=
  ledger_concat ..

/-- No key stands twice in a ledger. -/
theorem nodup_ledger (lifetime : Time) (calls : List (Call Key Time Data)) :
    ((ledger lifetime calls).map Prod.fst).Nodup := by
  induction calls using List.reverseRecOn with
  | nil => exact List.nodup_nil
  | append_singleton calls call inductionHypothesis =>
    rw [ledger_concat]
    cases call with
    | get other now => exact inductionHypothesis
    | set other data now =>
      rw [record, List.map_append, Association.map_fst_filter_ne, List.nodup_append]
      refine ⟨inductionHypothesis.filter _, List.nodup_singleton other, ?_⟩
      simp
    | clear => exact List.nodup_nil

/-! ## Calls made later -/

/-- Calls that do not clear the cache leave of a ledger what they do not set anew, and put behind it
what they set. -/
theorem ledger_append (earlier : List (Call Key Time Data)) (uncleared : .clear ∉ later) :
    ledger lifetime (earlier ++ later) =
      (ledger lifetime earlier).filter (fun entry => entry.1 ∉ setKeys later) ++
        ledger lifetime later := by
  induction later using List.reverseRecOn with
  | nil => simp [setKeys, ledger]
  | append_singleton later call inductionHypothesis =>
    have unclearedBefore : .clear ∉ later := fun member => uncleared (List.mem_append_left _ member)
    rw [← List.append_assoc, ledger_concat, ledger_concat, inductionHypothesis unclearedBefore]
    cases call with
    | get other now => simp [record, setKeys, Call.setKey?]
    | set other data now =>
      simp [record, setKeys, Call.setKey?, List.filter_append, List.filter_filter, not_or,
        and_comm]
    | clear => simp at uncleared

/-- Without a clearing, the keys in a ledger are those that were set. -/
theorem mem_keys_ledger (uncleared : .clear ∉ calls) :
    key ∈ (ledger lifetime calls).map Prod.fst ↔ key ∈ setKeys calls := by
  induction calls using List.reverseRecOn with
  | nil => exact Iff.rfl
  | append_singleton calls call inductionHypothesis =>
    have unclearedBefore : .clear ∉ calls := fun member => uncleared (List.mem_append_left _ member)
    have before := inductionHypothesis unclearedBefore
    rw [ledger_concat]
    cases call with
    | get other now => simpa [record, setKeys, Call.setKey?] using before
    | set other data now =>
      have keys : setKeys (calls ++ [.set other data now]) = setKeys calls ++ [other] := by
        simp [setKeys, Call.setKey?]
      rw [record, List.map_append, Association.map_fst_filter_ne, keys]
      by_cases same : key = other <;> simp [same, before]
    | clear => simp at uncleared

/-- Without a clearing, a ledger has one entry for each of the keys that were set. -/
theorem length_ledger (uncleared : .clear ∉ calls) :
    (ledger lifetime calls).length = (setKeys calls).dedup.length := by
  have keys : ((ledger lifetime calls).map Prod.fst).Perm (setKeys calls).dedup := by
    refine (List.perm_ext_iff_of_nodup (nodup_ledger lifetime calls) (List.nodup_dedup _)).2 ?_
    intro key
    rw [mem_keys_ledger uncleared, List.mem_dedup]
  rw [← keys.length_eq, List.length_map]

/-! ## Entries and calls -/

/-- An entry of a ledger is what its key was last set to. -/
theorem exists_lastSet_of_mem_ledger (member : entry ∈ ledger lifetime calls) :
    entry.2.lifetime = lifetime ∧
      ∃ later, LastSet calls entry.1 entry.2.data entry.2.stored later := by
  induction calls using List.reverseRecOn with
  | nil => cases member
  | append_singleton calls call inductionHypothesis =>
    rw [ledger_concat] at member
    cases call with
    | get other now =>
      obtain ⟨same, later, last⟩ := inductionHypothesis member
      exact ⟨same, _, last.concat trivial⟩
    | set other data now =>
      rcases List.mem_append.1 member with kept | new
      · obtain ⟨member, different⟩ := List.mem_filter.1 kept
        obtain ⟨same, later, last⟩ := inductionHypothesis member
        exact ⟨same, _, last.concat (of_decide_eq_true different).symm⟩
      · cases List.mem_singleton.1 new
        exact ⟨rfl, [], .of_set calls other data now⟩
    | clear => cases member

/-- What a key was last set to stands in the ledger, followed by what was set later. -/
theorem LastSet.ledger_eq (last : LastSet calls key data stored later) (lifetime : Time) :
    ∃ before, ledger lifetime calls =
      before ++ (key, ⟨data, stored, lifetime⟩) :: ledger lifetime later := by
  obtain ⟨earlier, rfl⟩ := last.called
  refine ⟨((ledger lifetime earlier).filter (·.1 ≠ key)).filter (·.1 ∉ setKeys later), ?_⟩
  rw [List.append_cons earlier _ later, ledger_append _ last.uncleared, ledger_concat, record,
    List.filter_append, List.append_assoc]
  simp [last.notMem_setKeys]

/-- The entries of a ledger stand in the order in which they were last set. -/
theorem pairwise_setBefore_ledger (lifetime : Time) (calls : List (Call Key Time Data)) :
    (ledger lifetime calls).Pairwise (SetBefore calls) := by
  induction calls using List.reverseRecOn with
  | nil => exact .nil
  | append_singleton calls call inductionHypothesis =>
    have step {older newer : Key × Entry Time Data} (before : SetBefore calls older newer)
        (sparesOlder : call.Spares older.1) (sparesNewer : call.Spares newer.1) :
        SetBefore (calls ++ [call]) older newer := by
      obtain ⟨laterOlder, laterNewer, fewer, lastOlder, lastNewer⟩ := before
      refine ⟨_, _, ?_, lastOlder.concat sparesOlder, lastNewer.concat sparesNewer⟩
      simpa using fewer
    rw [ledger_concat]
    cases call with
    | get other now => exact inductionHypothesis.imp fun before => step before trivial trivial
    | set other data now =>
      rw [record, List.pairwise_append]
      refine ⟨?_, List.pairwise_singleton _ _, ?_⟩
      · refine List.Pairwise.imp_of_mem ?_ (inductionHypothesis.filter _)
        intro older newer memberOlder memberNewer before
        exact step before (of_decide_eq_true (List.mem_filter.1 memberOlder).2).symm
          (of_decide_eq_true (List.mem_filter.1 memberNewer).2).symm
      · intro older memberOlder newer memberNewer
        cases List.mem_singleton.1 memberNewer
        obtain ⟨memberOlder, different⟩ := List.mem_filter.1 memberOlder
        obtain ⟨-, laterOlder, lastOlder⟩ := exists_lastSet_of_mem_ledger memberOlder
        exact ⟨_, [], by simp, lastOlder.concat (of_decide_eq_true different).symm,
          .of_set calls other data now⟩
    | clear => exact .nil

/-- The keys in a ledger were set at times that the clock showed. -/
theorem stored_mem_readings_of_mem_ledger (member : entry ∈ ledger lifetime calls) :
    entry.2.stored ∈ readings calls := by
  obtain ⟨-, later, last⟩ := exists_lastSet_of_mem_ledger member
  exact last.stored_mem_readings

/-- A ledger lists what it holds in the order of the times it was stored at. -/
theorem Steady.pairwise_stored_ledger [LE Time] (steady : Steady calls) (lifetime : Time) :
    (ledger lifetime calls).Pairwise fun older newer => older.2.stored ≤ newer.2.stored := by
  induction calls using List.reverseRecOn with
  | nil => exact .nil
  | append_singleton calls call inductionHypothesis =>
    rw [ledger_concat]
    cases call with
    | get other now => exact inductionHypothesis steady.initial
    | set other data now =>
      rw [record, List.pairwise_append]
      refine ⟨(inductionHypothesis steady.initial).filter _, List.pairwise_singleton _ _, ?_⟩
      intro older memberOlder newer memberNewer
      cases List.mem_singleton.1 memberNewer
      have reading := stored_mem_readings_of_mem_ledger (List.mem_of_mem_filter memberOlder)
      exact steady.latest rfl older.2.stored reading
    | clear => exact .nil

end SchemaTypes.Cache
