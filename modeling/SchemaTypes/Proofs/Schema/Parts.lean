import SchemaTypes.Proofs.Cursor.Remarks
import SchemaTypes.Proofs.Pattern.Graph
import SchemaTypes.Schema.Grammar

/-!
# The parts of the grammar

What holds of every part of the pattern for a schema and of the pattern for a field holds of the
whole graph, since the field is all that references lead to. So it is enough to look at each
production once: its constructor has no defects and does not see remarks, its alternatives stay on
the element they are tried on, and its only reference is the one to the alternatives for a field.
-/

namespace SchemaTypes.Schema

open Pattern

/-! ## Rules do not see remarks -/

section Rules

variable (element : Element)

@[simp]
theorem given?_withoutRemarks (name : String) :
    given? element.withoutRemarks name = given? element name := by
  rw [given?, given?, Element.get?_withoutRemarks]

@[simp]
theorem fieldOf_withoutRemarks (config : Config) :
    fieldOf config element.withoutRemarks = fieldOf config element := by
  simp [fieldOf, isOptional, isRepeated]

/-- What declares an attribute or refers to a group is no remark. -/
theorem isRemark_of_attributeTags {element : Element}
    (declares : element.localName?.any attributeTags.contains = true) :
    element.isRemark = false := by
  obtain ⟨name, named, member⟩ := (Option.any_eq_true _ _).1 declares
  have tag : name = "attribute" ∨ name = "group" := by simpa [attributeTags] using member
  rw [Element.isRemark, named]
  rcases tag with rfl | rfl <;> decide

@[simp]
theorem declaresAttributes_withoutRemarks :
    declaresAttributes element.withoutRemarks = declaresAttributes element := by
  rw [declaresAttributes, declaresAttributes, Element.children_withoutRemarks,
    Element.leaveOutRemarks_eq, List.any_map, List.any_filter]
  refine List.any_congr rfl fun child => ?_
  rw [Function.comp_apply, Element.localName?_withoutRemarks]
  cases declares : child.localName?.any attributeTags.contains with
  | false => rw [Bool.and_false]
  | true => rw [isRemark_of_attributeTags declares, Bool.and_true, Bool.not_false]

end Rules

/-! ## Productions -/

variable (config : Config)

/-- A part of the grammar: a matcher whose constructor has no defects and does not see remarks,
alternatives on the same element, a collection, or the reference to the alternatives for a field. -/
def IsProduction : Pattern → Prop
  | .single terminal _ | .link terminal .. => ∀ cursor : Cursor,
    (∃ own?, terminal.build cursor = .ok own?) ∧
      terminal.build cursor.withoutRemarks = terminal.build cursor
  | .oneOf _ step _ => step = .same
  | .collect .. => True
  | .reference key name maxDepth => nestedFields config = .reference key name maxDepth

/-- Every part of the pattern of a field is a production. -/
theorem isProduction_of_field : AllParts (IsProduction config) (field config) := by
  simp [field, fieldOptions, nestedField, arrayField, groupField, anyOf, listing, around, holding,
    element, nestedFields, IsProduction, terminal, Terminal.building, Terminal.plain,
    nestingElement, sequence, complexType, Cursor.withoutRemarks, nestingField, repeatedField,
    typedField, groupReference, isRepeated]

/-- Every part of the pattern of a schema is a production. -/
theorem isProduction_of_schema : AllParts (IsProduction config) (schema config) := by
  simp [schema, typeOptions, elementAlias, elementEnumeration, elementClass, complexClass,
    extendedClass, groupType, wrapperType, attributeGroup, elementAttributeClass,
    complexAttributeClass, emptyClass, namedAlias, namedEnumeration, fieldSequence, extendedContent,
    listedValues, attributeDeclaration, groupField, anyOf, listing, around, holding, element,
    IsProduction, terminal, Terminal.building, Terminal.plain, simpleElement,
    simpleType, integerBase, textBase, classElement, classType, sequence, complexType,
    complexContent, extensionElement, simpleTypeDefinition, isProduction_of_field,
    Cursor.withoutRemarks, schemaRule, elementSimpleType, namedSimpleType, integerRestriction,
    textRestriction, enumValue, namedClass, attributeClass, extension, namedGroup, wrapperClass,
    attributeField, groupReference]

/-- The only target is the one for a field. -/
theorem eq_field_of_target? {key : Nat} {target : Pattern}
    (bound : (bindings config).target? key = some target) : target = field config := by
  have member := Bindings.mem_targets_of_target? bound
  simp only [bindings, List.mem_singleton, Prod.mk.injEq] at member
  exact member.2

/-- Every part of the whole grammar is a production. -/
theorem isProduction_of_inGraph {part : Pattern}
    (inside : (bindings config).InGraph (schema config) part) : IsProduction config part := by
  cases inside with
  | own member => exact isProduction_of_schema config part member
  | followed reaches bound member =>
    rw [eq_field_of_target? config bound] at member
    exact isProduction_of_field config part member

/-- The only reference is the one to the alternatives for a field. -/
theorem reference_of_inGraph {key : Nat} {name : String} {maxDepth : Int}
    (inside : (bindings config).InGraph (schema config) (.reference key name maxDepth)) :
    fieldKey = key ∧ "Field Proxy" = name ∧ config.maxDepth = maxDepth := by
  have same := isProduction_of_inGraph config inside
  simpa [IsProduction, nestedFields] using same

/-- The constructors of the grammar have no defects and do not see remarks. -/
theorem builds_of_inGraph {part : Pattern} {terminal : Terminal}
    (inside : (bindings config).InGraph (schema config) part)
    (isTerminal : part.terminal? = some terminal) (cursor : Cursor) :
    (∃ own?, terminal.build cursor = .ok own?) ∧
      terminal.build cursor.withoutRemarks = terminal.build cursor := by
  have production := isProduction_of_inGraph config inside
  cases part with
  | single | link =>
    cases isTerminal
    exact production cursor
  | oneOf | collect | reference => cases isTerminal

end SchemaTypes.Schema
