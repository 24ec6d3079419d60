import Mathlib.Data.List.DropRight
import Mathlib.Data.List.Nodup

/-!
# The newest of a list

A list to whose end things are added has its newest items there. Taking the newest, up to a number,
is told apart here from choosing items by what they are: the two may be exchanged where nothing
older than an item that is not chosen is chosen, and where all that is chosen against is one key.
-/

namespace SchemaTypes.Newest

variable {α : Type} {list before behind : List α} {item : α}

/-- The newest of those that pass are those that pass among the newest, if what is newer than one
that passes also passes. -/
theorem filter_rtake {passes : α → Bool}
    (suffix : list.Pairwise fun older newer => passes older = true → passes newer = true)
    (count : Nat) : (list.rtake count).filter passes = (list.filter passes).rtake count := by
  induction list using List.reverseRecOn generalizing count with
  | nil => simp
  | append_singleton list last inductionHypothesis =>
    obtain ⟨initial, -, toLast⟩ := List.pairwise_append.1 suffix
    cases count with
    | zero => simp
    | succ count =>
      rw [List.rtake_concat_succ, List.filter_append, List.filter_append,
        inductionHypothesis initial]
      cases passed : passes last with
      | true => simp [passed, List.rtake_concat_succ]
      | false =>
        have none : list.filter passes = [] := by
          rw [List.filter_eq_nil_iff]
          intro older member passedOlder
          have passedLast := toLast older member last (List.mem_singleton_self last) passedOlder
          rw [passed] at passedLast
          cases passedLast
        simp [passed, none]

/-- An item is among the newest if few enough items are newer. -/
theorem mem_rtake_iff (distinct : (before ++ item :: behind).Nodup) (count : Nat) :
    item ∈ (before ++ item :: behind).rtake count ↔ behind.length < count := by
  have notBehind : item ∉ behind := (List.nodup_cons.1 distinct.of_append_right).1
  rw [List.rtake, List.length_append, List.length_cons]
  by_cases few : behind.length < count
  · have skipped : before.length + (behind.length + 1) - count ≤ before.length := by omega
    simp [List.drop_append_of_le_length skipped, few]
  · have skipped : before.length + (behind.length + 1) - count =
        before.length + 1 + (behind.length - count) := by omega
    have rest : (before ++ item :: behind).drop (before.length + (behind.length + 1) - count) =
        behind.drop (behind.length - count) := by
      rw [skipped, List.append_cons, List.drop_append]
      simp
    rw [rest]
    exact iff_of_false (fun member => notBehind (List.mem_of_mem_drop member)) few

/-- Where one key is set aside, the newest of the others are found among the newest and one more. -/
theorem rtake_filter_ne_rtake {Key Value : Type} [DecidableEq Key] {entries : List (Key × Value)}
    (distinct : (entries.map Prod.fst).Nodup) (key : Key) (count : Nat) :
    ((entries.rtake (count + 1)).filter (·.1 ≠ key)).rtake count =
      (entries.filter (·.1 ≠ key)).rtake count := by
  induction entries using List.reverseRecOn generalizing count with
  | nil => simp
  | append_singleton entries last inductionHypothesis =>
    rw [List.map_append, List.nodup_append] at distinct
    obtain ⟨initial, -, toLast⟩ := distinct
    rw [List.rtake_concat_succ, List.filter_append, List.filter_append]
    by_cases same : last.1 = key
    · have different : ∀ entry ∈ entries, decide (entry.1 ≠ key) = true := by
        intro entry member
        exact decide_eq_true
          (same ▸ toLast entry.1 (List.mem_map_of_mem member) last.1 (List.mem_singleton_self _))
      have aside : [last].filter (·.1 ≠ key) = [] := by simp [same]
      have again : (entries.rtake count).rtake count = entries.rtake count := by
        have few : (entries.rtake count).length - count = 0 := by
          rw [List.rtake, List.length_drop]
          omega
        rw [List.rtake, few, List.drop_zero]
      have newest : (entries.rtake count).filter (·.1 ≠ key) = entries.rtake count :=
        List.filter_eq_self.2 fun entry member => different entry (List.mem_of_mem_drop member)
      rw [aside, List.append_nil, List.append_nil, List.filter_eq_self.2 different, newest, again]
    · cases count with
      | zero => simp
      | succ count =>
        have kept : [last].filter (·.1 ≠ key) = [last] := by simp [same]
        rw [kept, List.rtake_concat_succ, List.rtake_concat_succ, inductionHypothesis initial]

end SchemaTypes.Newest
