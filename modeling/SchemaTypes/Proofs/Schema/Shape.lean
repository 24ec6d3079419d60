import SchemaTypes.Proofs.Node.Shape
import SchemaTypes.Proofs.Schema.Calls
import SchemaTypes.Proofs.Schema.Recognition

/-!
# The shape of a schema

Whatever a document declares, what is read from it has the shape of a schema: types without anything
left over from putting them together, at every depth. The declarations have their shapes by
construction, and truncation keeps them.
-/

namespace SchemaTypes.Schema

open Pattern

variable {config : Config} {element : Element}

/-- An attribute that is given is not empty. -/
theorem ne_empty_of_given? {name value : String} (found : given? element name = some value) :
    value ≠ "" := by
  have kept := (Option.filter_eq_some_iff.1 found).2
  simpa using kept

/-- A capital form is empty only for the empty text. -/
theorem capitalizeFirst_ne_empty {text : String} (given : text ≠ "") :
    Text.capitalizeFirst text ≠ "" := by
  have letters : text.toList ≠ [] := fun none => given (String.toList_injective none)
  rw [Text.capitalizeFirst]
  split
  · exact given
  · next c rest same =>
    intro empty
    have shown := congrArg String.toList empty
    rw [String.toList_ofList] at shown
    exact Text.capital_ne_nil c (List.append_eq_nil_iff.1 shown).1

namespace Outline

/-- What an element with a type becomes has the shape of a field. -/
theorem isField_fieldOf (config : Config) (element : Element) :
    (fieldOf config element).IsField :=
  .typed _ _

/-- A reference to a group has the shape of a field. -/
theorem isField_of_groupReference? {node : Node}
    (declared : groupReference? element = some node) : node.IsField := by
  obtain ⟨ref, given, rfl⟩ := Option.map_eq_some_iff.1 declared
  exact .reference (ne_empty_of_given? given)

/-- What an element declares in a sequence is a field. -/
theorem isField_of_field? {node : Node} (declared : field? config element = some node) :
    node.IsField := by
  induction element using Element.nesting_induction generalizing node with
  | step element inductionHypothesis =>
    rw [field?_eq] at declared
    split at declared
    · split at declared
      · next sequence found =>
        cases declared
        refine .nesting _ _ fun field member => ?_
        obtain ⟨child, inside, readsChild⟩ := List.mem_filterMap.1 member
        exact inductionHypothesis sequence found child inside readsChild
      · rw [typedField?] at declared
        split at declared
        · cases declared
          exact isField_fieldOf config element
        · cases declared
    · split at declared
      · exact isField_of_groupReference? declared
      · cases declared

/-- The fields of a sequence have the shape of fields. -/
theorem isField_of_mem_fields {sequence : Element} :
    ∀ field ∈ fields config sequence, field.IsField := by
  intro field member
  obtain ⟨child, _, readsChild⟩ := List.mem_filterMap.1 member
  exact isField_of_field? readsChild

/-- An attribute has the shape of a field. -/
theorem isField_of_attributeField? {node : Node}
    (declared : attributeField? config element = some node) : node.IsField := by
  rw [attributeField?] at declared
  split at declared
  · cases declared
    exact isField_fieldOf config element
  · cases declared

/-- The attributes of a type have the shape of fields. -/
theorem isField_of_mem_attributeFields :
    ∀ field ∈ attributeFields config element, field.IsField := by
  intro field member
  obtain ⟨child, _, readsChild⟩ := List.mem_filterMap.1 member
  exact isField_of_attributeField? readsChild

/-- The members of an attribute group have the shape of fields. -/
theorem isField_of_mem_attributeMembers :
    ∀ field ∈ attributeMembers config element, field.IsField := by
  intro field member
  obtain ⟨child, _, readsChild⟩ := List.mem_filterMap.1 member
  split at readsChild
  · exact isField_of_groupReference? readsChild
  · exact isField_of_attributeField? readsChild

/-- The values of a restriction have the shape of values. -/
theorem isEnumValue_of_mem_values {restriction : Element} :
    ∀ value ∈ values restriction, value.IsEnumValue := by
  intro value member
  obtain ⟨child, _, readsChild⟩ := List.mem_filterMap.1 member
  split at readsChild
  · obtain ⟨text, given, rfl⟩ := Option.map_eq_some_iff.1 readsChild
    exact .value (ne_empty_of_given? given)
  · cases readsChild

/-! ## Types -/

/-- A class of fields has the shape of a type. -/
theorem isType_classOf {fields : List Node} (inside : ∀ field ∈ fields, field.IsField) :
    (classOf element fields).IsType :=
  .classType _ none inside

/-- A group of fields has the shape of a type, if it has a name. -/
theorem isType_groupOf {name : String} {fields : List Node} (given : name ≠ "")
    (inside : ∀ field ∈ fields, field.IsField) : (groupOf name fields).IsType :=
  .group (capitalizeFirst_ne_empty given) inside

/-- What a simple type declares has the shape of a type. -/
theorem isType_of_simpleType? {name : Option String} {node : Node}
    (declared : simpleType? config name element = some node) : node.IsType := by
  obtain ⟨restriction, _, declared⟩ := Option.bind_eq_some_iff.1 declared
  simp only at declared
  split at declared
  · cases declared
    exact .aliasType name _
  · split at declared
    · cases declared
      exact .enumeration name isEnumValue_of_mem_values
    · cases declared

/-- A wrapper has the shape of a type. -/
theorem isType_of_wrapper? {type : String} {node : Node}
    (declared : wrapper? config element type = some node) : node.IsType := by
  rw [wrapper?] at declared
  split at declared
  · cases declared
    refine .classType _ none fun field member => ?_
    obtain rfl := List.mem_singleton.1 member
    exact isField_fieldOf config element
  · cases declared

/-- What an element declares with its content has the shape of a type. -/
theorem isType_of_contentType? {content : Element} {node : Node}
    (declared : contentType? config element content = some node) : node.IsType := by
  rw [contentType?] at declared
  split at declared
  · exact isType_of_simpleType? declared
  · split at declared
    · split at declared
      · cases declared
        exact isType_classOf isField_of_mem_fields
      · cases declared
        exact isType_classOf isField_of_mem_attributeFields
    · cases declared

/-- What an element declares has the shape of a type. -/
theorem isType_of_elementType? {node : Node}
    (declared : elementType? config element = some node) : node.IsType := by
  rw [elementType?] at declared
  split at declared
  · exact isType_of_wrapper? declared
  · obtain ⟨content, _, declared⟩ := Option.bind_eq_some_iff.1 declared
    exact isType_of_contentType? declared

/-- What a complex type declares has the shape of a type. -/
theorem isType_of_complexType? {node : Node}
    (declared : complexType? config element = some node) : node.IsType := by
  rw [complexType?] at declared
  split at declared
  · cases declared
  · split at declared
    · cases declared
      exact isType_classOf isField_of_mem_fields
    · next extension sequence _ _ =>
      cases declared
      exact .classType _ (extension.get? "base") isField_of_mem_fields
    · split at declared
      · cases declared
        exact isType_classOf isField_of_mem_attributeMembers
      · cases declared
        exact .classType _ none (by simp)

/-- What a child of a schema declares is a type. -/
theorem isType_of_type? {node : Node} (declared : type? config element = some node) :
    node.IsType := by
  rw [type?] at declared
  split at declared
  · exact isType_of_elementType? declared
  split at declared
  · exact isType_of_complexType? declared
  split at declared
  · obtain ⟨name, given, declared⟩ := Option.bind_eq_some_iff.1 declared
    obtain ⟨sequence, _, rfl⟩ := Option.map_eq_some_iff.1 declared
    exact isType_groupOf (ne_empty_of_given? given) isField_of_mem_fields
  split at declared
  · obtain ⟨name, given, rfl⟩ := Option.map_eq_some_iff.1 declared
    exact isType_groupOf (ne_empty_of_given? given) isField_of_mem_attributeFields
  split at declared
  · obtain ⟨name, _, declared⟩ := Option.bind_eq_some_iff.1 declared
    exact isType_of_simpleType? declared
  · cases declared

end Outline

/-! ## The schema -/

/-- A document element that is recognized is one of a schema, and what comes of it is a schema. -/
theorem isSchema_of_recognize {root : Element} {node : Node}
    (recognized : recognize config root = some node) :
    root.localName? = some "schema" ∧ node.IsSchema := by
  rw [recognize_eq] at recognized
  split at recognized
  · next named =>
    cases recognized
    refine ⟨Element.isNamed_iff.1 named, .schema fun type member => ?_⟩
    obtain ⟨child, _, truncated⟩ := List.mem_filterMap.1 member
    obtain ⟨whole, declared, rfl⟩ := Option.map_eq_some_iff.1 truncated
    exact (Outline.isType_of_type? declared).truncate _ _
  · cases recognized

/-- A document element with another local name is all that is not recognized. -/
theorem recognize_eq_none_iff {root : Element} :
    recognize config root = none ↔ root.localName? ≠ some "schema" := by
  rw [recognize_eq, Ne, ← Element.isNamed_iff]
  constructor
  · intro nothing named
    rw [if_pos named] at nothing
    cases nothing
  · intro other
    exact if_neg other

/-- Matching a document element meets no defect. -/
theorem result_eq_recognize (config : Config) (root : Element) :
    result (bindings config) (schema config) (some (.root root)) 0 = .ok (recognize config root) := by
  obtain ⟨outcome, -, -, -, same, -⟩ := endsWithin_schema config (some (.root root))
  rw [recognize, same]
  rfl

/-- Reading a document element gives a schema, or says that there is none, exactly for an element
with another local name; matching the grammar fails in no other way. A schema that is read carries
types of the shapes of finished results and nothing else, and no node inside it, at any depth, is
left over from putting it together. -/
theorem ofElement_isSchema (config : Config) (source : String) (root : Element) :
    (∃ outcome, result (bindings config) (schema config) (some (.root root)) 0 = .ok outcome) ∧
      match ofElement config source root with
      | .ok node =>
        root.localName? = some "schema" ∧ node.IsSchema ∧ node.FinishedThroughout
      | .error _ => root.localName? ≠ some "schema" := by
  refine ⟨⟨_, result_eq_recognize config root⟩, ?_⟩
  rw [ofElement]
  cases recognized : recognize config root with
  | some node =>
    obtain ⟨named, shaped⟩ := isSchema_of_recognize recognized
    exact ⟨named, shaped, shaped.finished⟩
  | none => exact recognize_eq_none_iff.1 recognized

end SchemaTypes.Schema
