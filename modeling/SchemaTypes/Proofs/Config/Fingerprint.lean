import Mathlib
import SchemaTypes.Config
import SchemaTypes.Proofs.Overrides.Sorted
import SchemaTypes.Proofs.Text.Numeral

/-!
# What a fingerprint tells

Configurations that mean the same have one fingerprint, in whatever order their overrides were
named. The converse is another matter: a fingerprint puts the parts of a configuration one behind
the other with a semicolon, a comma or an equals sign between them, and a part that contains such a
character may be read as two. It holds for configurations whose parts leave those characters alone.
-/

namespace SchemaTypes.Config

open SchemaTypes.Text

/-- Configurations that mean the same: the order of the overrides is no part of the meaning. -/
structure Agree (left right : Config) : Prop where
  namespacePrefix : left.namespacePrefix = right.namespacePrefix
  overrides : ∀ name, left.overrides.find? name = right.overrides.find? name
  maxDepth : left.maxDepth = right.maxDepth

theorem Agree.refl (config : Config) : config.Agree config := ⟨rfl, fun _ => rfl, rfl⟩

/-- Configurations that mean the same have one fingerprint. -/
theorem Agree.fingerprint_eq {left right : Config} (agree : left.Agree right) :
    left.fingerprint = right.fingerprint := by
  unfold fingerprint
  rw [agree.namespacePrefix, agree.maxDepth, Overrides.sorted_eq_of_find?_eq agree.overrides]

/-- The text of one override in a fingerprint. -/
def pairText (pair : String × String) : List Char := pair.1.toList ++ '=' :: pair.2.toList

/-- The overrides in a fingerprint. -/
def overridesText (config : Config) : List Char :=
  [','].intercalate (config.overrides.sorted.map pairText)

/-- The parts of a configuration leave the characters alone that separate them in a fingerprint, and
the zero behind it. -/
structure Plain (config : Config) : Prop where
  namespacePrefix : ';' ∉ config.namespacePrefix.toList
  overrides : ∀ pair ∈ config.overrides.entries, '=' ∉ pair.1.toList ∧ ',' ∉ pairText pair ∧
    '\x00' ∉ pairText pair

/-- A fingerprint shows the prefix, the greatest depth and the overrides, one after the other. -/
theorem toList_fingerprint (config : Config) :
    config.fingerprint.toList =
      "namespace_prefix=".toList ++ (config.namespacePrefix.toList ++ ';' ::
        ("max_depth=".toList ++ ((showInt config.maxDepth).toList ++ ';' ::
          config.overridesText))) := by
  have parts : config.fingerprint = "namespace_prefix=" ++ config.namespacePrefix ++
      ";max_depth=" ++ showInt config.maxDepth ++ ";" ++
        ",".intercalate (config.overrides.sorted.map fun pair => pair.1 ++ "=" ++ pair.2) := rfl
  have pairs : (",".intercalate (config.overrides.sorted.map fun pair =>
      pair.1 ++ "=" ++ pair.2)).toList = config.overridesText := by
    rw [String.toList_intercalate, overridesText, List.map_map]
    congr 1
    refine List.map_congr_left fun pair _ => ?_
    simp [pairText]
  rw [parts]
  simp only [String.toList_append, pairs]
  simp

/-- A whole number is written without semicolons. -/
theorem semicolon_notMem_showInt (value : Int) : ';' ∉ (showInt value).toList := by
  intro member
  have digit := isDigit_of_mem_showInt member
  revert digit
  decide

/-- What stands between the commas of the overrides' text is the text of each override. -/
theorem Plain.splitOn_overridesText {config : Config} (plain : config.Plain)
    (some : config.overrides.sorted ≠ []) :
    config.overridesText.splitOn ',' = config.overrides.sorted.map pairText := by
  refine List.splitOn_intercalate ',' (fun text member => ?_) (by simpa using some)
  obtain ⟨pair, sorted, rfl⟩ := List.mem_map.1 member
  exact (plain.overrides pair (config.overrides.sorted_perm.mem_iff.1 sorted)).2.1

/-- No overrides are told apart from some by their text. -/
theorem Plain.sorted_eq_nil_iff {config : Config} (plain : config.Plain) :
    config.overrides.sorted = [] ↔ config.overridesText = [] := by
  constructor
  · intro none
    simp [overridesText, none]
  · intro empty
    by_contra some
    have texts := plain.splitOn_overridesText some
    rw [empty] at texts
    cases sorted : config.overrides.sorted with
    | nil => exact some sorted
    | cons pair rest => simp [sorted, pairText] at texts

/-- The overrides of a plain configuration can be read off their text. -/
theorem Plain.sorted_eq {left right : Config} (plainLeft : left.Plain) (plainRight : right.Plain)
    (same : left.overridesText = right.overridesText) :
    left.overrides.sorted = right.overrides.sorted := by
  have texts : left.overrides.sorted.map pairText = right.overrides.sorted.map pairText := by
    by_cases empty : left.overridesText = []
    · rw [plainLeft.sorted_eq_nil_iff.2 empty, plainRight.sorted_eq_nil_iff.2 (same ▸ empty)]
    · rw [← plainLeft.splitOn_overridesText (mt plainLeft.sorted_eq_nil_iff.1 empty),
        ← plainRight.splitOn_overridesText
          (mt plainRight.sorted_eq_nil_iff.1 (same ▸ empty)), same]
  have cuts : ∀ config : Config, config.Plain →
      (config.overrides.sorted.map pairText).map (cut? '=') =
        config.overrides.sorted.map fun pair => some (pair.1.toList, pair.2.toList) := by
    intro config plain
    rw [List.map_map]
    refine List.map_congr_left fun pair sorted => ?_
    have member := config.overrides.sorted_perm.mem_iff.1 sorted
    exact cut?_eq_some_iff.2 ⟨rfl, (plain.overrides pair member).1⟩
  have letters : Function.Injective fun pair : String × String =>
      some (pair.1.toList, pair.2.toList) := by
    rintro ⟨name, target⟩ ⟨name', target'⟩ equal
    simp only [Option.some.injEq, Prod.mk.injEq, String.toList_inj] at equal
    rw [equal.1, equal.2]
  apply List.map_injective_iff.2 letters
  rw [← cuts left plainLeft, ← cuts right plainRight, texts]

/-- The text of the overrides of a plain configuration has no zero in it. -/
theorem Plain.zero_notMem_overridesText {config : Config} (plain : config.Plain) :
    '\x00' ∉ config.overridesText := by
  refine notMem_intercalate (by decide) fun text given => ?_
  obtain ⟨pair, sorted, rfl⟩ := List.mem_map.1 given
  exact (plain.overrides pair (config.overrides.sorted_perm.mem_iff.1 sorted)).2.2

/-- Where plain configurations have fingerprints with zeros and further texts behind them that are
the same, the configurations mean the same and the texts are the same. -/
theorem Plain.agree_of_fingerprint {left right : Config} (plainLeft : left.Plain)
    (plainRight : right.Plain) {text text' : List Char}
    (same : left.fingerprint.toList ++ '\x00' :: text =
      right.fingerprint.toList ++ '\x00' :: text') : left.Agree right ∧ text = text' := by
  rw [toList_fingerprint, toList_fingerprint] at same
  simp only [List.append_assoc, List.cons_append, List.append_cancel_left_eq] at same
  obtain ⟨prefixes, same⟩ :=
    append_separator_inj same plainLeft.namespacePrefix plainRight.namespacePrefix
  rw [List.append_cancel_left_eq] at same
  obtain ⟨depths, same⟩ := append_separator_inj same (semicolon_notMem_showInt left.maxDepth)
    (semicolon_notMem_showInt right.maxDepth)
  obtain ⟨overrides, texts⟩ := append_separator_inj same plainLeft.zero_notMem_overridesText
    plainRight.zero_notMem_overridesText
  have sorted := plainLeft.sorted_eq plainRight overrides
  have depth : left.maxDepth = right.maxDepth := by
    rw [String.toList_inj, showInt, showInt, Int.toString_eq_repr, Int.toString_eq_repr] at depths
    exact Int.repr_inj.1 depths
  exact ⟨⟨String.toList_inj.1 prefixes, Overrides.find?_eq_of_sorted_eq sorted, depth⟩, texts⟩

end SchemaTypes.Config
