import SchemaTypes.Proofs.Pattern.Omission
import SchemaTypes.Proofs.Schema.Parts
import SchemaTypes.Proofs.Schema.Types

/-!
# Productions that never count

Two productions of the grammar are tried behind another one that matches wherever they do: a field
whose class holds a single repeated field behind every field with a class, and a complex type that
extends another behind every complex type with a sequence of its own or of an extension. So the
grammar without the two recognizes the same, however deep the document.
-/

namespace SchemaTypes.Schema

open Pattern

/-! ## The two productions -/

/-- The chains of the two productions, by the names along them. -/
def idleChains : List (List String) :=
  [["element:comp", "complexType", "sequence", "element:array"],
   ["complexType:class", "complexContent", "extension", "sequence", matcherName]]

/-- Whether a pattern is one of the two productions. -/
def isIdle (pattern : Pattern) : Bool := idleChains.contains (pattern.chain.map Pattern.ownName)

variable (config : Config) {place : Option Cursor} {depth : Int}

/-- Among the alternatives for a field, one is left out. -/
theorem filter_isIdle_fieldOptions : (fieldOptions config).filter isIdle = [arrayField config] :=
  rfl

/-- Among the alternatives for a type, one is left out. -/
theorem filter_isIdle_typeOptions :
    (typeOptions config).filter isIdle = [extendedClass config] :=
  rfl

/-! ## What they are shadowed by -/

/-- A field with a class shadows a field whose class holds a single repeated field. -/
theorem nestedField_shadows_arrayField :
    Shadows (bindings config) (nestedField config) (arrayField config) := by
  have readsNested := fun depth => reads_nestedField config depth fun _ => by
    rw [show depth + 4 + Node.nestingStride = depth + 5 + 5 by rw [Node.nestingStride]; omega]
    exact reads_field config (depth + 5)
  choose array readsArray missing using fun depth => reads_arrayField config depth (bindings config)
  refine shadows_of_reads matchesFirstVisible_link matchesFirstVisible_link readsNested readsArray
    fun depth element nothing => ?_
  simp only [onTag] at nothing ⊢
  split
  · next isElement =>
    rw [if_pos isElement, Option.map_eq_none_iff] at nothing
    exact missing depth element nothing
  · rfl

/-- A complex type with a sequence, its own or that of an extension, shadows a complex type that
extends another. -/
theorem complexClass_shadows_extendedClass :
    Shadows (bindings config) (complexClass config) (extendedClass config) := by
  refine shadows_of_reads matchesFirstVisible_link matchesFirstVisible_link
    (reads_complexClass config) (reads_extendedClass config) fun depth element nothing => ?_
  simp only [onTag] at nothing ⊢
  split
  · next isComplex =>
    rw [if_pos isComplex] at nothing
    cases own : namedClass element with
    | none => rfl
    | some node =>
      rw [own, Option.bind_some, Option.or_eq_none_iff, Option.map_eq_none_iff,
        Option.map_eq_none_iff] at nothing
      rw [Option.bind_some, nothing.2, Option.map_none]
  · rfl

/-! ## The grammar without them -/

/-- Of the alternatives for a field the one that is left out never counts. -/
theorem idle_fieldOptions : Idle isIdle (bindings config) [] (fieldOptions config) := by
  refine ⟨nofun, fun _ place depth failed => ?_, idle_of_forall ?_⟩
  · exact (nestedField_shadows_arrayField config).eq_none
      (firstResult_eq_none_iff.1 failed _ (by simp))
  · simp only [List.forall_mem_cons]
    exact ⟨rfl, rfl, nofun⟩

/-- Of the alternatives for a type the one that is left out never counts. -/
theorem idle_typeOptions : Idle isIdle (bindings config) [] (typeOptions config) := by
  refine ⟨nofun, nofun, nofun, nofun, fun _ place depth failed => ?_, idle_of_forall ?_⟩
  · exact (complexClass_shadows_extendedClass config).eq_none
      (firstResult_eq_none_iff.1 failed _ (by simp))
  · simp only [List.forall_mem_cons]
    exact ⟨rfl, rfl, rfl, rfl, rfl, rfl, rfl, rfl, nofun⟩

/-- Among the options of a part only the two productions are left out, and those are idle. -/
def OptionsIdle (part : Pattern) : Prop :=
  (∀ option ∈ part.options,
    isIdle option = true → option = arrayField config ∨ option = extendedClass config) ∧
    Idle isIdle (bindings config) [] part.options

/-- All through the pattern of a field only idle productions are left out. -/
theorem optionsIdle_of_field : AllParts (OptionsIdle config) (field config) := by
  have own : OptionsIdle config (field config) := by
    refine ⟨fun option isOption picked => ?_, idle_fieldOptions config⟩
    have left := List.mem_filter.2 ⟨isOption, picked⟩
    exact Or.inl (List.mem_singleton.1 (filter_isIdle_fieldOptions config ▸ left))
  rw [field, anyOf] at own ⊢
  rw [allParts_oneOf, and_iff_right own]
  simp [fieldOptions, nestedField, arrayField, groupField, listing, around, holding, element,
    nestedFields, OptionsIdle, Pattern.options, Idle, isIdle, idleChains, chain]

/-- All through the patterns of types only idle productions are left out. -/
theorem optionsIdle_of_types : AllParts (OptionsIdle config) (anyOf (typeOptions config)) := by
  have own : OptionsIdle config (anyOf (typeOptions config)) := by
    refine ⟨fun option isOption picked => ?_, idle_typeOptions config⟩
    have left := List.mem_filter.2 ⟨isOption, picked⟩
    exact Or.inr (List.mem_singleton.1 (filter_isIdle_typeOptions config ▸ left))
  have alone : (field config).chain = [field config] := rfl
  rw [anyOf] at own ⊢
  rw [allParts_oneOf, and_iff_right own]
  simp [typeOptions, elementAlias, elementEnumeration, elementClass, complexClass, extendedClass,
    groupType, wrapperType, attributeGroup, elementAttributeClass, complexAttributeClass,
    emptyClass, namedAlias, namedEnumeration, fieldSequence, extendedContent, listedValues,
    attributeDeclaration, groupField, anyOf, listing, around, holding, element, OptionsIdle,
    Pattern.options, Idle, isIdle, idleChains, chain, alone, ownName, complexContent,
    Terminal.plain, optionsIdle_of_field]

/-- All through the grammar only idle productions are left out. -/
theorem optionsIdle_of_inGraph {part : Pattern}
    (inside : (bindings config).InGraph (schema config) part) : OptionsIdle config part := by
  cases inside with
  | own member =>
    rw [schema, listing, holding, parts, parts, List.mem_cons, List.mem_cons, mem_partsOf] at member
    rcases member with rfl | rfl | ⟨option, isOption, inOption⟩
    · exact ⟨by simp [Pattern.options], trivial⟩
    · have kept : ∀ option ∈ [anyOf (typeOptions config)], isIdle option = false :=
        List.forall_mem_singleton.2 rfl
      exact ⟨fun option isOption picked => absurd picked (by simp [kept option isOption]),
        idle_of_forall kept⟩
    · rw [List.mem_singleton.1 isOption] at inOption
      exact optionsIdle_of_types config part inOption
  | followed reaches bound member =>
    rw [eq_field_of_target? config bound] at member
    exact optionsIdle_of_field config part member

/-- What is left out of the grammar are the two productions and nothing else. -/
theorem isIdle_iff_of_inGraph {part option : Pattern}
    (inside : (bindings config).InGraph (schema config) part) (isOption : option ∈ part.options) :
    isIdle option = true ↔ option = arrayField config ∨ option = extendedClass config := by
  constructor
  · exact (optionsIdle_of_inGraph config inside).1 option isOption
  · rintro (rfl | rfl) <;> rfl

/-- The grammar without the two productions, and no others left out, gives the same as the whole
one, at every place and depth and under every configuration. Wherever one of the two matches, an
earlier alternative does: a field with a class of its own, or a complex type with a sequence. -/
theorem result_leaveOut_isIdle (config : Config) (place : Option Cursor) (depth : Int) :
    (∀ part, (bindings config).InGraph (schema config) part → ∀ option ∈ part.options,
        (isIdle option = true ↔ option = arrayField config ∨ option = extendedClass config)) ∧
      result ((bindings config).leaveOut isIdle) ((schema config).leaveOut isIdle) place depth =
        result (bindings config) (schema config) place depth ∧
      (∀ node, result (bindings config) (arrayField config) place depth = .ok (some node) →
        ∃ other, result (bindings config) (nestedField config) place depth = .ok (some other)) ∧
      ∀ node, result (bindings config) (extendedClass config) place depth = .ok (some node) →
        ∃ other, result (bindings config) (complexClass config) place depth = .ok (some other) := by
  refine ⟨fun part inside option => isIdle_iff_of_inGraph config inside, ?_, fun node => ?_,
    fun node => ?_⟩
  · exact result_leaveOut (fun part inside => (optionsIdle_of_inGraph config inside).2)
      (.own (self_mem_parts (schema config))) place depth
  · exact (nestedField_shadows_arrayField config).exists_match
  · exact (complexClass_shadows_extendedClass config).exists_match

/-- An element that may be repeated. -/
def repeatedLine : Element :=
  .mk "element" [("name", "line"), ("type", "xs:string"), ("maxOccurs", "unbounded")] []

/-- A field whose class holds a single repeated field. -/
def linesElement : Element :=
  .mk "element" [("name", "lines")] [.mk "complexType" [] [.mk "sequence" [] [repeatedLine]]]

/-- A complex type that extends another. -/
def extendedLines : Element :=
  .mk "complexType" [("name", "lines")] [.mk "complexContent" [] [
    .mk "extension" [("base", "list")] [.mk "sequence" [] [repeatedLine]]]]

theorem result_leaveOut_isIdle_lines :
    (∃ node, result (bindings {}) (arrayField {}) (some (.root linesElement)) 0 = .ok (some node)) ∧
      (∃ other,
        result (bindings {}) (nestedField {}) (some (.root linesElement)) 0 = .ok (some other)) ∧
      (∃ node,
        result (bindings {}) (extendedClass {}) (some (.root extendedLines)) 0 = .ok (some node)) ∧
      ∃ other,
        result (bindings {}) (complexClass {}) (some (.root extendedLines)) 0 =
          .ok (some other) := by
  obtain ⟨-, -, inField, -⟩ := result_leaveOut_isIdle {} (some (.root linesElement)) 0
  obtain ⟨-, -, -, inType⟩ := result_leaveOut_isIdle {} (some (.root extendedLines)) 0
  obtain ⟨array, isArray⟩ : ∃ node,
      result (bindings {}) (arrayField {}) (some (.root linesElement)) 0 = .ok (some node) :=
    ⟨_, rfl⟩
  have isExtended := (reads_extendedClass {} 0 (.root extendedLines) (by decide)).trans rfl
  exact ⟨⟨array, isArray⟩, inField array isArray, ⟨_, isExtended⟩, inType _ isExtended⟩

end SchemaTypes.Schema
