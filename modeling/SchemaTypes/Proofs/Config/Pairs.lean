import SchemaTypes.Proofs.Config.Settings

/-!
# The pairs of a configuration text

A configuration text is read pair by pair, each a key and a value without the blanks around them. A
pair sets the prefix, the depth or the override of a type, or it is of no use and leaves a warning.
-/

namespace SchemaTypes.Config

open SchemaTypes.Text

/-- The key and the value in a part of a configuration text; none without an equals sign. -/
def pairOf? (part : List Char) : Option (String × String) :=
  (cut? '=' part).map fun (key, value) => (String.ofList (strip key), String.ofList (strip value))

/-- The pairs of a configuration text, in order. -/
def pairs (text : String) : List (String × String) :=
  (splitFields ',' text.toList).filterMap pairOf?

/-- The setting that a pair stands for. -/
def settingOf (pair : String × String) : Setting := .ofPair pair.1.toList pair.2.toList

/-- The settings of a text are those of its pairs. -/
theorem settings_eq_map_settingOf (text : String) :
    settings text.toList = (pairs text).map settingOf := by
  have parts : Setting.ofText? = fun part => (pairOf? part).map settingOf := by
    funext part
    simp only [Setting.ofText?, pairOf?, settingOf, Option.map_map, Function.comp_def,
      String.toList_ofList]
  rw [settings, pairs, List.map_filterMap, parts]

/-! ## How pairs are read -/

/-- The key of the override of a schema type. -/
def overrideKey (name : String) : String := "type." ++ name

/-- The key of an override is its name with a word in front. -/
theorem toList_overrideKey (name : String) :
    (overrideKey name).toList = overridePrefix ++ name.toList :=
  String.toList_append

/-- Overrides have keys of their own. -/
theorem overrideKey_ne (name : String) :
    overrideKey name ≠ "namespace_prefix" ∧ overrideKey name ≠ "max_depth" := by
  constructor
  all_goals
    intro same
    have letters := toList_overrideKey name
    rw [same] at letters
    simp [overridePrefix] at letters

/-- How a pair is read: form by form, the setting it stands for. -/
inductive Reads : String × String → Setting → Prop
  | namespacePrefix {value : String} (nonempty : value ≠ "") :
    Reads ("namespace_prefix", value) (.namespacePrefix value)
  | emptyPrefix : Reads ("namespace_prefix", "") (.refused .emptyPrefix)
  | maxDepth {value : String} {depth : Int} (whole : readInt value = .ok depth) :
    Reads ("max_depth", value) (.maxDepth depth)
  | nonIntegerDepth {value : String} {error : NumeralError} (refused : readInt value = .error error) :
    Reads ("max_depth", value) (.refused (.nonIntegerDepth value))
  | override (name target : String) : Reads (overrideKey name, target) (.override name target)
  | unknownKey {key value : String} (noType : ∀ name, key ≠ overrideKey name)
    (noPrefix : key ≠ "namespace_prefix") (noDepth : key ≠ "max_depth") :
    Reads (key, value) (.refused (.unknownKey key))

/-- A key is that of an override exactly if it starts like one. -/
theorem isPrefixOf_toList_iff {key : String} :
    overridePrefix.isPrefixOf key.toList = true ↔ ∃ name, key = overrideKey name := by
  rw [List.isPrefixOf_iff_prefix]
  constructor
  · rintro ⟨rest, joined⟩
    refine ⟨String.ofList rest, String.toList_inj.1 ?_⟩
    rw [toList_overrideKey, String.toList_ofList, joined]
  · rintro ⟨name, rfl⟩
    exact ⟨name.toList, (toList_overrideKey name).symm⟩

/-- A key that is not one of an override does not begin with that word. -/
theorem isPrefixOf_of_ne {key : String} (noType : ∀ name, key ≠ overrideKey name) :
    ¬ overridePrefix.isPrefixOf key.toList = true :=
  mt isPrefixOf_toList_iff.1 (not_exists.2 noType)

/-- Every pair is read in one of the forms. -/
theorem reads_settingOf (pair : String × String) : Reads pair (settingOf pair) := by
  obtain ⟨key, value⟩ := pair
  -- The cases follow the order in which keys are looked at: types first.
  rw [settingOf, Setting.ofPair]
  split
  · next starts =>
    obtain ⟨name, rfl⟩ := isPrefixOf_toList_iff.1 starts
    rw [toList_overrideKey, List.drop_left, String.ofList_toList, String.ofList_toList]
    exact .override name value
  · next other =>
    have noType : ∀ name, key ≠ overrideKey name := fun name same =>
      other (isPrefixOf_toList_iff.2 ⟨name, same⟩)
    simp only [String.toList_inj, String.toList_eq_nil_iff, String.ofList_toList]
    split
    · next same =>
      subst same
      split
      · next empty => exact empty ▸ .emptyPrefix
      · next nonempty => exact .namespacePrefix nonempty
    · next noPrefix =>
      split
      · next same =>
        subst same
        cases read : readInt value with
        | ok depth => exact .maxDepth read
        | error error => exact .nonIntegerDepth read
      · next noDepth => exact .unknownKey noType noPrefix noDepth

/-- A pair is read in one way. -/
theorem settingOf_eq {pair : String × String} {setting : Setting} (reads : Reads pair setting) :
    settingOf pair = setting := by
  have prefixKey := isPrefixOf_of_ne fun name => (overrideKey_ne name).1.symm
  have depthKey := isPrefixOf_of_ne fun name => (overrideKey_ne name).2.symm
  have noPrefix : "max_depth".toList ≠ "namespace_prefix".toList := by decide
  cases reads with
  | namespacePrefix nonempty =>
    rw [settingOf, Setting.ofPair, if_neg prefixKey, if_pos rfl,
      if_neg (mt String.toList_eq_nil_iff.1 nonempty), String.ofList_toList]
  | emptyPrefix => rfl
  | maxDepth whole =>
    rw [settingOf, Setting.ofPair, if_neg depthKey, if_neg noPrefix, if_pos rfl,
      String.ofList_toList, whole]
  | nonIntegerDepth refused =>
    rw [settingOf, Setting.ofPair, if_neg depthKey, if_neg noPrefix, if_pos rfl,
      String.ofList_toList, refused]
  | override name target =>
    rw [settingOf, Setting.ofPair, if_pos (isPrefixOf_toList_iff.2 ⟨name, rfl⟩), toList_overrideKey,
      List.drop_left, String.ofList_toList, String.ofList_toList]
  | unknownKey noType noPrefix noDepth =>
    rw [settingOf, Setting.ofPair, if_neg (isPrefixOf_of_ne noType),
      if_neg (mt String.toList_inj.1 noPrefix), if_neg (mt String.toList_inj.1 noDepth),
      String.ofList_toList]

end SchemaTypes.Config
