import SchemaTypes.Proofs.Config.Pairs

/-!
# Configurations composed from left to right

The settings of texts that are joined by a comma are applied one text after the other. What the
second text does not set is as the first has it, and a text that sets nothing can stand anywhere.
-/

namespace SchemaTypes.Config

open SchemaTypes.Text

/-- The prefix that a pair sets, if it is not empty. -/
def givenPrefix? (pair : String × String) : Option String :=
  if pair.1 = "namespace_prefix" ∧ pair.2 ≠ "" then some pair.2 else none

/-- The depth that a pair sets, if it is a whole number. -/
def givenDepth? (pair : String × String) : Option Int :=
  if pair.1 = "max_depth" then (readInt pair.2).toOption else none

/-- A pair that sets nothing: an empty prefix, a depth that is no whole number, or a key that no
setting has. -/
inductive Unusable : String × String → Prop
  | emptyPrefix : Unusable ("namespace_prefix", "")
  | nonIntegerDepth {value : String} (noNumber : ∀ depth, readInt value ≠ .ok depth) :
    Unusable ("max_depth", value)
  | unknownKey {key value : String} (noType : ∀ name, key ≠ overrideKey name)
    (noPrefix : key ≠ "namespace_prefix") (noDepth : key ≠ "max_depth") : Unusable (key, value)

/-- A text that sets nothing: none of its pairs does, and parts without an equals sign are no
pairs. -/
def SetsNothing (text : String) : Prop := ∀ pair ∈ pairs text, Unusable pair

/-! ## What a pair sets -/

/-- The setting of a pair sets the prefix that the pair gives. -/
theorem namespacePrefix?_settingOf (pair : String × String) :
    (settingOf pair).namespacePrefix? = givenPrefix? pair := by
  have reads := reads_settingOf pair
  generalize settingOf pair = setting at reads ⊢
  cases reads with
  | namespacePrefix nonempty => simp [Setting.namespacePrefix?, givenPrefix?, nonempty]
  | emptyPrefix => rfl
  | maxDepth whole | nonIntegerDepth refused => rfl
  | override name target =>
    simp [Setting.namespacePrefix?, givenPrefix?, (overrideKey_ne name).1]
  | unknownKey noType noPrefix noDepth => simp [Setting.namespacePrefix?, givenPrefix?, noPrefix]

/-- The setting of a pair sets the greatest depth that the pair gives. -/
theorem maxDepth?_settingOf (pair : String × String) :
    (settingOf pair).maxDepth? = givenDepth? pair := by
  have reads := reads_settingOf pair
  generalize settingOf pair = setting at reads ⊢
  cases reads with
  | namespacePrefix nonempty | emptyPrefix => rfl
  | maxDepth whole => simp [Setting.maxDepth?, givenDepth?, whole, Except.toOption]
  | nonIntegerDepth refused => simp [Setting.maxDepth?, givenDepth?, refused, Except.toOption]
  | override name target => simp [Setting.maxDepth?, givenDepth?, (overrideKey_ne name).2]
  | unknownKey noType noPrefix noDepth => simp [Setting.maxDepth?, givenDepth?, noDepth]

/-- A pair that sets nothing stands for a warning. -/
theorem Unusable.exists_warning {pair : String × String} (unusable : Unusable pair) :
    ∃ warning, settingOf pair = .refused warning := by
  cases unusable with
  | emptyPrefix => exact ⟨_, settingOf_eq .emptyPrefix⟩
  | @nonIntegerDepth value noNumber =>
    cases read : readInt value with
    | ok depth => exact absurd read (noNumber depth)
    | error error => exact ⟨_, settingOf_eq (.nonIntegerDepth read)⟩
  | unknownKey noType noPrefix noDepth => exact ⟨_, settingOf_eq (.unknownKey noType noPrefix noDepth)⟩

/-! ## Texts one after the other -/

/-- The configuration with the settings of a text applied. -/
def applyText (config : Config) (text : String) : Config :=
  (settings text.toList).foldl apply config

theorem read_eq_applyText (text : String) : (read text).1 = applyText {} text := rfl

/-- Texts joined by a comma have the settings of one text and then those of the other. -/
theorem settings_joined (left right : String) :
    settings (left ++ "," ++ right).toList = settings left.toList ++ settings right.toList := by
  have joined : (left ++ "," ++ right).toList = left.toList ++ ',' :: right.toList := by simp
  rw [joined, settings_append]

/-- Texts joined by a comma are applied one after the other. -/
theorem applyText_append (config : Config) (left right : String) :
    config.applyText (left ++ "," ++ right) = (config.applyText left).applyText right := by
  rw [applyText, settings_joined, List.foldl_append]
  rfl

/-- A text that sets nothing leaves every configuration as it is. -/
theorem SetsNothing.applyText_eq {text : String} (idle : SetsNothing text) (config : Config) :
    config.applyText text = config := by
  rw [applyText, settings_eq_map_settingOf, List.foldl_map]
  unfold SetsNothing at idle
  generalize pairs text = given at idle
  induction given with
  | nil => rfl
  | cons pair rest inductionHypothesis =>
    obtain ⟨warning, refused⟩ := (idle pair List.mem_cons_self).exists_warning
    rw [List.foldl_cons, refused]
    exact inductionHypothesis fun other member => idle other (List.mem_cons_of_mem pair member)

/-- The last prefix that a text gives counts. -/
theorem namespacePrefix_applyText (config : Config) (text : String) :
    (config.applyText text).namespacePrefix =
      ((pairs text).filterMap givenPrefix?).getLast?.getD config.namespacePrefix := by
  rw [applyText, namespacePrefix_foldl_apply, settings_eq_map_settingOf, List.filterMap_map]
  simp only [Function.comp_def, namespacePrefix?_settingOf]

/-- The last depth that a text gives counts. -/
theorem maxDepth_applyText (config : Config) (text : String) :
    (config.applyText text).maxDepth =
      ((pairs text).filterMap givenDepth?).getLast?.getD config.maxDepth := by
  rw [applyText, maxDepth_foldl_apply, settings_eq_map_settingOf, List.filterMap_map]
  simp only [Function.comp_def, maxDepth?_settingOf]

/-- Texts joined by a comma warn one after the other. -/
theorem warnings_append (left right : String) :
    (read (left ++ "," ++ right)).2 = (read left).2 ++ (read right).2 := by
  simp only [read, settings_joined, List.filterMap_append]

/-- A text and another one behind it, with a comma between them, are read from left to right. The
prefix and the depth are as the last pair of the second text sets them that can, or else as the
first text has them; the overrides of the first text are updated by those of the second; and there
are the warnings of both. What sets nothing makes no difference, whether it stands behind the first
text, in front of the second, or between them. -/
theorem read_append (left right : String) :
    (read (left ++ "," ++ right)).1.namespacePrefix =
        ((pairs right).filterMap givenPrefix?).getLast?.getD (read left).1.namespacePrefix ∧
      (read (left ++ "," ++ right)).1.maxDepth =
        ((pairs right).filterMap givenDepth?).getLast?.getD (read left).1.maxDepth ∧
      (read (left ++ "," ++ right)).1.overrides =
        (read left).1.overrides.update (read right).1.overrides ∧
      (∀ name, (read (left ++ "," ++ right)).1.overrides.find? name =
        ((read right).1.overrides.find? name).or ((read left).1.overrides.find? name)) ∧
      (read (left ++ "," ++ right)).2 = (read left).2 ++ (read right).2 ∧
      ∀ idle, SetsNothing idle →
        (read (left ++ "," ++ idle)).1 = (read left).1 ∧
          (read (idle ++ "," ++ right)).1 = (read right).1 ∧
          (read (left ++ "," ++ idle ++ "," ++ right)).1 = (read (left ++ "," ++ right)).1 := by
  have overrides : (read (left ++ "," ++ right)).1.overrides =
      (read left).1.overrides.update (read right).1.overrides := by
    rw [read_eq_applyText, applyText_append]
    exact overrides_foldl_apply _ _
  refine ⟨?_, ?_, overrides, fun name => ?_, warnings_append left right, fun idle nothing => ?_⟩
  · rw [read_eq_applyText, applyText_append, namespacePrefix_applyText]
    rfl
  · rw [read_eq_applyText, applyText_append, maxDepth_applyText]
    rfl
  · rw [overrides, Overrides.find?_update]
  · simp only [read_eq_applyText, applyText_append, nothing.applyText_eq, and_self]

/-- A text that sets a prefix, a depth and the generated type of dates. -/
def dayText : String := "namespace_prefix=xsd,max_depth=7,type.date=Day"

/-- A text of four parts, none of which sets anything. -/
def idleText : String := "namespace_prefix= ,max_depth=seven,colour=red,plain"

theorem setsNothing_idleText : SetsNothing idleText := by
  have given : pairs idleText =
      [("namespace_prefix", ""), ("max_depth", "seven"), ("colour", "red")] := rfl
  rw [SetsNothing, given]
  rintro pair (_ | ⟨_, _ | ⟨_, _ | ⟨_, impossible⟩⟩⟩)
  · exact .emptyPrefix
  · have refused : readInt "seven" = .error .malformed := rfl
    exact .nonIntegerDepth fun depth read => by rw [refused] at read; cases read
  · have noType : ∀ name, "colour" ≠ overrideKey name := fun name same =>
      absurd (isPrefixOf_toList_iff.2 ⟨name, same⟩) (by decide)
    exact .unknownKey noType (by decide) (by decide)
  · cases impossible

/-- A text that sets nothing makes no difference between two that do. -/
theorem read_append_idleText :
    (read (dayText ++ "," ++ idleText ++ "," ++ " max_depth = 9")).1 =
        (read (dayText ++ "," ++ " max_depth = 9")).1 ∧
      (read (dayText ++ "," ++ " max_depth = 9")).1.namespacePrefix = "xsd" ∧
      (read (dayText ++ "," ++ " max_depth = 9")).1.maxDepth = 9 ∧
      (read (dayText ++ "," ++ " max_depth = 9")).1.overrides.find? "date" = some "Day" := by
  obtain ⟨namespacePrefix, maxDepth, -, overrides, -, between⟩ :=
    read_append dayText " max_depth = 9"
  exact ⟨(between idleText setsNothing_idleText).2.2, namespacePrefix, maxDepth, overrides "date"⟩

end SchemaTypes.Config
