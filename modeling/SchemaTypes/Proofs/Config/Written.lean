import SchemaTypes.Proofs.Config.Fingerprint
import SchemaTypes.Proofs.Config.Pairs
import SchemaTypes.Proofs.Text.Blank
import SchemaTypes.Proofs.Text.Fields

/-!
# Configurations as they are written

A configuration is written as a pair for the prefix, one for the depth and one for each override, in
any order, with blanks around the keys and the values, and with parts between the pairs that are
none. It is read as it was written.
-/

namespace SchemaTypes.Config

open SchemaTypes.Text

/-! ## What is written -/

/-- The pairs that say all that a configuration says. -/
def assignments (config : Config) : List (String × String) :=
  ("namespace_prefix", config.namespacePrefix) :: ("max_depth", showInt config.maxDepth) ::
    config.overrides.entries.map fun (name, target) => (overrideKey name, target)

/-- Any number of blanks. -/
abbrev Spaces := { text : List Char // Blanks text }

/-- The blanks around a key and a value. -/
structure Padding where
  beforeKey : Spaces
  afterKey : Spaces
  beforeValue : Spaces
  afterValue : Spaces

/-- A part of a written configuration: a pair with blanks around its key and its value, or something
else that is no pair. -/
inductive Part where
  | pair (key value : String) (padding : Padding)
  | filler (text : List Char) (noComma : ',' ∉ text) (noEquals : '=' ∉ text)

/-- The letters of a part. -/
def Part.text : Part → List Char
  | .pair key value padding =>
    (padding.beforeKey.1 ++ key.toList ++ padding.afterKey.1) ++
      '=' :: (padding.beforeValue.1 ++ value.toList ++ padding.afterValue.1)
  | .filler text _ _ => text

/-- The pair in a part. -/
def Part.pair? : Part → Option (String × String)
  | .pair key value _ => some (key, value)
  | .filler _ _ _ => none

/-- The text of parts with commas between them. -/
def written (parts : List Part) : String :=
  String.ofList ([','].intercalate (parts.map Part.text))

/-! ## What can be written -/

/-- A text that can be the value in a pair. -/
structure PlainValue (value : String) : Prop where
  comma : ',' ∉ value.toList
  starts : StartsPlain value.toList
  ends : EndsPlain value.toList

/-- A text that can be the key in a pair. -/
structure PlainKey (key : String) : Prop extends PlainValue key where
  equals : '=' ∉ key.toList

/-- A configuration that can be written: it has a prefix, the depth is no longer than numbers may
be, and neither commas nor blanks at the ends nor, in the names of types, equals signs are in the
way. -/
structure Writable (config : Config) : Prop where
  nonempty : config.namespacePrefix ≠ ""
  namespacePrefix : PlainValue config.namespacePrefix
  maxDepth : (Nat.toDigits 10 config.maxDepth.natAbs).length ≤ maxNumeralDigits
  names : ∀ entry ∈ config.overrides.entries,
    ',' ∉ entry.1.toList ∧ '=' ∉ entry.1.toList ∧ EndsPlain entry.1.toList
  targets : ∀ entry ∈ config.overrides.entries, PlainValue entry.2

/-- A text without commas and blanks can be a value. -/
theorem PlainValue.of_forall {value : String}
    (plain : ∀ c ∈ value.toList, c ≠ ',' ∧ isBlank c = false) : PlainValue value where
  comma member := (plain _ member).1 rfl
  starts c first := (plain c (List.mem_of_mem_head? first)).2
  ends c last := (plain c (List.mem_of_mem_getLast? last)).2

/-- A whole number can be written as a value. -/
theorem plainValue_showInt (value : Int) : PlainValue (showInt value) := by
  refine .of_forall fun c member => ?_
  rcases isDigit_of_mem_showInt member with digit | rfl
  · refine ⟨?_, isBlank_of_isDigit digit⟩
    rintro rfl
    exact absurd digit (by decide)
  · decide

/-- The name of a type that can be written makes a key that can be written. It may start with
blanks, since it stands behind a dot. -/
theorem plainKey_overrideKey {name : String} (comma : ',' ∉ name.toList) (equals : '=' ∉ name.toList)
    (ends : EndsPlain name.toList) : PlainKey (overrideKey name) := by
  have letters := toList_overrideKey name
  refine ⟨⟨?_, ?_, ?_⟩, ?_⟩
  · rw [letters, List.mem_append, not_or]
    exact ⟨by decide, comma⟩
  · rw [letters]
    intro c first
    cases first
    decide
  · rw [letters]
    intro c last
    rw [List.getLast?_append] at last
    cases own : name.toList.getLast? with
    | none =>
      rw [own, Option.none_or] at last
      cases last
      decide
    | some d =>
      rw [own, Option.some_or] at last
      exact ends c (own.trans last)
  · rw [letters, List.mem_append, not_or]
    exact ⟨by decide, equals⟩

/-- A word of letters that are no separators can be a key. -/
theorem PlainKey.of_all {key : String}
    (letters : key.toList.all (fun c => c != ',' && c != '=' && !isBlank c) = true) :
    PlainKey key := by
  simp only [List.all_eq_true, Bool.and_eq_true, bne_iff_ne, Bool.not_eq_true'] at letters
  exact ⟨.of_forall fun c member => ⟨(letters c member).1.1, (letters c member).2⟩,
    fun equals => (letters _ equals).1.2 rfl⟩

/-- All pairs of a configuration that can be written can be. -/
theorem Writable.plain {config : Config} (writable : config.Writable) :
    ∀ pair ∈ config.assignments, PlainKey pair.1 ∧ PlainValue pair.2 := by
  have prefixKey : PlainKey "namespace_prefix" := .of_all (by decide)
  have depthKey : PlainKey "max_depth" := .of_all (by decide)
  intro pair member
  rcases List.mem_cons.1 member with rfl | member
  · exact ⟨prefixKey, writable.namespacePrefix⟩
  rcases List.mem_cons.1 member with rfl | member
  · exact ⟨depthKey, plainValue_showInt config.maxDepth⟩
  obtain ⟨entry, given, rfl⟩ := List.mem_map.1 member
  obtain ⟨comma, equals, ends⟩ := writable.names entry given
  exact ⟨plainKey_overrideKey comma equals ends, writable.targets entry given⟩

/-! ## Reading what is written -/

/-- There is no comma in spaces. -/
theorem Spaces.comma_notMem (spaces : Spaces) : ',' ∉ spaces.1 := spaces.2.notMem (by decide)

theorem Spaces.equals_notMem (spaces : Spaces) : '=' ∉ spaces.1 := spaces.2.notMem (by decide)

section Part

variable {part : Part} (plain : ∀ pair ∈ part.pair?, PlainKey pair.1 ∧ PlainValue pair.2)

include plain in
/-- A part is read as the pair in it, if that can be written. -/
theorem pairOf?_text : pairOf? part.text = part.pair? := by
  cases part with
  | filler text noComma noEquals =>
    rw [Part.text, pairOf?, cut?_eq_none_iff.2 noEquals]
    rfl
  | pair key value padding =>
    obtain ⟨plainKey, plainValue⟩ : PlainKey key ∧ PlainValue value := plain _ rfl
    -- Neither the key nor the blanks around it has an equals sign, so the first one ends the key.
    have first : '=' ∉ padding.beforeKey.1 ++ key.toList ++ padding.afterKey.1 := by
      simp [Spaces.equals_notMem, plainKey.equals]
    have keyAlone := strip_append_append padding.beforeKey.2 padding.afterKey.2 plainKey.starts
      plainKey.ends
    have valueAlone := strip_append_append padding.beforeValue.2 padding.afterValue.2
      plainValue.starts plainValue.ends
    rw [Part.text, pairOf?, cut?_eq_some_iff.2 ⟨rfl, first⟩]
    show some (String.ofList (strip _), String.ofList (strip _)) = some (key, value)
    rw [keyAlone, valueAlone, String.ofList_toList, String.ofList_toList]

include plain in
/-- There is no comma in a part whose pair can be written. -/
theorem comma_notMem_text : ',' ∉ part.text := by
  cases part with
  | filler text noComma noEquals => exact noComma
  | pair key value padding =>
    obtain ⟨plainKey, plainValue⟩ : PlainKey key ∧ PlainValue value := plain _ rfl
    simp [Part.text, Spaces.comma_notMem, plainKey.comma, plainValue.comma]

end Part

/-- A written text has the pairs that it was made of. -/
theorem pairs_written {parts : List Part}
    (plain : ∀ pair ∈ parts.filterMap Part.pair?, PlainKey pair.1 ∧ PlainValue pair.2) :
    pairs (written parts) = parts.filterMap Part.pair? := by
  have each : ∀ part ∈ parts, ∀ pair ∈ part.pair?, PlainKey pair.1 ∧ PlainValue pair.2 :=
    fun part member pair inside => plain pair (List.mem_filterMap.2 ⟨part, member, inside⟩)
  cases parts with
  | nil => rfl
  | cons first rest =>
    have separate : ∀ text ∈ (first :: rest).map Part.text, ',' ∉ text := by
      intro text member
      obtain ⟨part, inside, rfl⟩ := List.mem_map.1 member
      exact comma_notMem_text (each part inside)
    rw [pairs, written, String.toList_ofList, splitFields_intercalate (by simp) separate,
      List.filterMap_map]
    exact List.filterMap_congr fun part member => pairOf?_text (each part member)

/-- The settings that a configuration is written as. -/
def settingsOf (config : Config) : List Setting :=
  .namespacePrefix config.namespacePrefix :: .maxDepth config.maxDepth ::
    config.overrides.entries.map fun (name, target) => .override name target

/-- The pairs of a configuration that can be written stand for its settings. -/
theorem Writable.map_settingOf {config : Config} (writable : config.Writable) :
    config.assignments.map settingOf = config.settingsOf := by
  have namespacePrefix := settingOf_eq (.namespacePrefix writable.nonempty)
  have maxDepth := settingOf_eq (.maxDepth (readInt_showInt writable.maxDepth))
  rw [assignments, settingsOf, List.map_cons, List.map_cons, List.map_map, namespacePrefix, maxDepth]
  congr 2
  exact List.map_congr_left fun entry _ => settingOf_eq (.override entry.1 entry.2)

/-- Overrides of types that differ name what they name as a map. -/
theorem filterMap_targetOf? {entries : List (String × String)}
    (distinct : (entries.map Prod.fst).Nodup) (name : String) :
    (entries.map fun (key, target) => Setting.override key target).filterMap
      (Setting.targetOf? name) = (entries.lookup name).toList := by
  induction entries with
  | nil => rfl
  | cons entry rest inductionHypothesis =>
    obtain ⟨key, target⟩ := entry
    rw [List.map_cons, List.nodup_cons] at distinct
    by_cases same : key = name
    · subst same
      simp [Setting.targetOf?, inductionHypothesis distinct.2,
        Association.lookup_eq_none_of_notMem distinct.1]
    · have missed : (name == key) = false := by simpa using Ne.symm same
      simp [Setting.targetOf?, inductionHypothesis distinct.2, List.lookup_cons, missed, same]

/-- What is not said of types is said by the first two settings of a configuration. -/
theorem filterMap_settingsOf {β : Type} {says? : Setting → Option β} (config : Config)
    (ofNoType : ∀ name target, says? (.override name target) = none) :
    config.settingsOf.filterMap says? =
      (says? (.namespacePrefix config.namespacePrefix)).toList ++
        (says? (.maxDepth config.maxDepth)).toList := by
  have overrides : (config.overrides.entries.map fun (name, target) =>
      Setting.override name target).filterMap says? = [] := by
    rw [List.filterMap_map]
    exact List.filterMap_eq_nil_iff.2 fun entry _ => ofNoType entry.1 entry.2
  rw [settingsOf, List.filterMap_cons, List.filterMap_cons, overrides]
  cases says? (.namespacePrefix config.namespacePrefix) <;>
    cases says? (.maxDepth config.maxDepth) <;> rfl

section Order

variable {config : Config} {settings : List Setting} (order : settings.Perm config.settingsOf)

include order in
/-- The settings of a configuration name for a type what the configuration does, in whatever order
they are. -/
theorem filterMap_targetOf?_of_perm (name : String) :
    settings.filterMap (Setting.targetOf? name) = (config.overrides.find? name).toList := by
  have found : (settings.filterMap (Setting.targetOf? name)).Perm
      (config.overrides.find? name).toList := by
    rw [Overrides.find?, ← filterMap_targetOf? config.overrides.distinct]
    exact order.filterMap (Setting.targetOf? name)
  cases named : config.overrides.find? name with
  | none =>
    rw [named] at found
    exact List.perm_nil.1 found
  | some target =>
    rw [named] at found
    exact List.perm_singleton.1 found

include order in
/-- The settings of a configuration make what it is and do not warn, in whatever order they are. -/
theorem agree_of_perm_settingsOf :
    (settings.foldl apply {}).Agree config ∧ settings.filterMap Setting.warning? = [] := by
  have namespacePrefix := order.filterMap Setting.namespacePrefix?
  have maxDepth := order.filterMap Setting.maxDepth?
  have warnings := order.filterMap Setting.warning?
  -- Each of these lists has at most one member, and then an order makes no difference.
  rw [filterMap_settingsOf config fun _ _ => rfl] at namespacePrefix maxDepth warnings
  refine ⟨⟨?_, fun name => ?_, ?_⟩, List.perm_nil.1 warnings⟩
  · rw [namespacePrefix_foldl_apply, List.perm_singleton.1 namespacePrefix]
    rfl
  · rw [find?_overrides_foldl_apply, lastOverride?, filterMap_targetOf?_of_perm order]
    cases config.overrides.find? name <;> rfl
  · rw [maxDepth_foldl_apply, List.perm_singleton.1 maxDepth]
    rfl

end Order

/-- A configuration is read as it is written. -/
theorem read_written {config : Config} (writable : config.Writable) {parts : List Part}
    (order : (parts.filterMap Part.pair?).Perm config.assignments) :
    (read (written parts)).1.Agree config ∧ (read (written parts)).2 = [] := by
  have plain : ∀ pair ∈ parts.filterMap Part.pair?, PlainKey pair.1 ∧ PlainValue pair.2 :=
    fun pair member => writable.plain pair (order.mem_iff.1 member)
  have settings : (settings (written parts).toList).Perm config.settingsOf := by
    rw [settings_eq_map_settingOf, pairs_written plain, ← writable.map_settingOf]
    exact order.map settingOf
  exact agree_of_perm_settingsOf settings

/-- A configuration with two overrides, one of them of the type without a name. -/
def equationConfig : Config where
  namespacePrefix := "x=y"
  overrides := ⟨[("xs:date", "Day"), ("", "a = b")], by decide⟩
  maxDepth := -12

/-- No blanks around a key and a value. -/
def noPadding : Padding := ⟨⟨[], by decide⟩, ⟨[], by decide⟩, ⟨[], by decide⟩, ⟨[], by decide⟩⟩

/-- Blanks before a key, behind it, before a value and behind it. -/
def widePadding : Padding :=
  ⟨⟨[' '], by decide⟩, ⟨['\t'], by decide⟩, ⟨[' ', ' '], by decide⟩, ⟨['\n'], by decide⟩⟩

/-- The parts of a text that says what that configuration is, with two parts that say nothing. -/
def equationParts : List Part :=
  [.pair (overrideKey "") "a = b" widePadding, .filler "draft".toList (by decide) (by decide),
    .pair "max_depth" "-12" widePadding, .pair (overrideKey "xs:date") "Day" noPadding,
    .filler [] (by decide) (by decide), .pair "namespace_prefix" "x=y" noPadding]

theorem writable_equationConfig : equationConfig.Writable where
  nonempty := by decide
  namespacePrefix := ⟨by decide, by decide, by decide⟩
  maxDepth := by decide
  names := by decide
  targets := by
    have plain : ∀ target ∈ ["Day", "a = b"],
        ',' ∉ target.toList ∧ StartsPlain target.toList ∧ EndsPlain target.toList := by decide
    intro entry member
    obtain ⟨comma, starts, ends⟩ := plain entry.2 (List.mem_map_of_mem member)
    exact ⟨comma, starts, ends⟩

/-- The text of those parts. -/
def equationText : String :=
  " type.\t=  a = b\n,draft, max_depth\t=  -12\n,type.xs:date=Day,,namespace_prefix=x=y"

/-- The sample is read back as it was. -/
theorem read_written_equationParts :
    (read equationText).1.Agree equationConfig ∧ (read equationText).2 = [] := by
  have text : written equationParts = equationText := rfl
  rw [← text]
  exact read_written writable_equationConfig (by decide)

end SchemaTypes.Config
