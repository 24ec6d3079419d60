import Mathlib.Data.List.Induction
import SchemaTypes.Config
import SchemaTypes.Proofs.Overrides.Update

/-!
# What a configuration text sets

Settings are applied from left to right, and of those that set one thing the last one counts. So what
a configuration text says about a prefix, a depth or a type can be read off its settings, without
applying them.
-/

namespace SchemaTypes.Config

/-- Where every step either writes what is seen of a state or leaves it alone, the last of the
writes is seen in the end. -/
theorem view_foldl {σ α β : Type} {step : σ → α → σ} {write? : α → Option β} (view : σ → Option β)
    (law : ∀ state item, view (step state item) = (write? item).or (view state)) (items : List α)
    (state : σ) :
    view (items.foldl step state) = ((items.filterMap write?).getLast?).or (view state) := by
  induction items generalizing state with
  | nil => rfl
  | cons item rest inductionHypothesis =>
    rw [List.foldl_cons, inductionHypothesis, law]
    cases written : write? item with
    | none => rw [List.filterMap_cons_none written, Option.none_or]
    | some value =>
      rw [List.filterMap_cons_some written, List.getLast?_cons, Option.some_or]
      cases (rest.filterMap write?).getLast? <;> rfl

/-- Where every step either writes a part of a state or leaves it alone, the part is in the end as
the last write has it. -/
theorem value_foldl {σ α β : Type} {step : σ → α → σ} {write? : α → Option β} (value : σ → β)
    (law : ∀ state item, value (step state item) = (write? item).getD (value state))
    (items : List α) (state : σ) :
    value (items.foldl step state) = (items.filterMap write?).getLast?.getD (value state) := by
  have seen : ∀ state item,
      some (value (step state item)) = (write? item).or (some (value state)) := by
    intro state item
    rw [law, Option.or_some]
  have last := view_foldl (fun state => some (value state)) seen items state
  rwa [Option.or_some, Option.some.injEq] at last

/-- The prefix that a setting sets. -/
def Setting.namespacePrefix? : Setting → Option String
  | .namespacePrefix value => some value
  | .maxDepth _ | .override _ _ | .refused _ => none

/-- The depth that a setting sets. -/
def Setting.maxDepth? : Setting → Option Int
  | .maxDepth value => some value
  | .namespacePrefix _ | .override _ _ | .refused _ => none

/-- The generated type that a setting names for a schema type. -/
def Setting.targetOf? (name : String) : Setting → Option String
  | .override key target => if key = name then some target else none
  | .namespacePrefix _ | .maxDepth _ | .refused _ => none

/-- The generated type that the last override of a schema type names for it. -/
def lastOverride? (name : String) (settings : List Setting) : Option String :=
  (settings.filterMap (Setting.targetOf? name)).getLast?

variable (config : Config) (name : String)

/-- A setting overrides a type, or it leaves the override of the type alone. -/
theorem find?_overrides_apply (setting : Setting) :
    (config.apply setting).overrides.find? name =
      (setting.targetOf? name).or (config.overrides.find? name) := by
  cases setting with
  | override key target =>
    rw [apply, Overrides.find?_insert, Setting.targetOf?]
    by_cases same : name = key
    · rw [if_pos same, if_pos same.symm, Option.some_or]
    · rw [if_neg same, if_neg (Ne.symm same), Option.none_or]
  | namespacePrefix value | maxDepth value | refused warning => rfl

/-- Of the settings that are applied, the last override of a type counts. -/
theorem find?_overrides_foldl_apply (settings : List Setting) :
    (settings.foldl apply config).overrides.find? name =
      (lastOverride? name settings).or (config.overrides.find? name) :=
  view_foldl (fun config => config.overrides.find? name)
    (fun config setting => find?_overrides_apply config name setting) settings config

/-- A configuration text overrides a type as the last of its settings for that type says. -/
theorem find?_overrides_read (text : String) :
    (read text).1.overrides.find? name = lastOverride? name (settings text.toList) :=
  (find?_overrides_foldl_apply {} name _).trans (Option.or_none)

/-- Of the settings that are applied, the last prefix counts. -/
theorem namespacePrefix_foldl_apply (settings : List Setting) :
    (settings.foldl apply config).namespacePrefix =
      (settings.filterMap Setting.namespacePrefix?).getLast?.getD config.namespacePrefix :=
  value_foldl Config.namespacePrefix (fun _ setting => by cases setting <;> rfl) settings config

/-- Of the settings that are applied, the last depth counts. -/
theorem maxDepth_foldl_apply (settings : List Setting) :
    (settings.foldl apply config).maxDepth =
      (settings.filterMap Setting.maxDepth?).getLast?.getD config.maxDepth :=
  value_foldl Config.maxDepth (fun _ setting => by cases setting <;> rfl) settings config

/-- Settings that are applied update the overrides by those that they make of nothing. -/
theorem overrides_foldl_apply (settings : List Setting) :
    (settings.foldl apply config).overrides =
      config.overrides.update (settings.foldl apply {}).overrides := by
  induction settings using List.reverseRecOn with
  | nil => rfl
  | append_singleton earlier setting inductionHypothesis =>
    simp only [List.foldl_append, List.foldl_cons, List.foldl_nil]
    cases setting with
    | override name target =>
      rw [apply, apply, Overrides.update_insert, inductionHypothesis]
    | namespacePrefix value | maxDepth value | refused warning => exact inductionHypothesis

end SchemaTypes.Config
