import SchemaTypes.Proofs.Schema.Types
import SchemaTypes.Schema.Reading

/-!
# What the grammar recognizes

A document element is recognized as a schema by its tag alone, and each of its children becomes the
type that the outline gives for it, with nested classes truncated. Where several alternatives share
a tag, the earlier ones leave to the later ones exactly what the outline leaves to its later cases.
-/

namespace SchemaTypes.Schema

open Pattern Cursor

variable (config : Config)

/-- The depth of the classes in the fields of the type that a child of a schema declares. -/
def nestingDepth (element : Element) : Int :=
  if element.isNamed "group" then 11
  else if element.isNamed "complexType" && (Outline.extension? element).isSome then 14
  else 12

/-- The type that a child of a schema declares, with nested classes truncated. -/
def truncatedType? (element : Element) : Option Node :=
  (Outline.type? config element).map (Node.truncate config.maxDepth (nestingDepth element))

variable {config} {element : Element}

/-! ## Truncated types -/

section Truncated

variable {limit depth : Int}

/-- A node without fields has nothing to truncate. -/
theorem truncate_of_fields_eq_none {node : Node} (bare : node.fields = none) :
    node.truncate limit depth = node :=
  Node.truncate_of_forall fun fields given => by simp [bare] at given

/-- A node whose fields have no classes has nothing to truncate. -/
theorem truncate_of_flat {node : Node} {fields : List Node} (given : node.fields = some fields)
    (flat : ∀ field ∈ fields, field.nestedClass = none) : node.truncate limit depth = node := by
  refine Node.truncate_of_forall fun others same field member => ?_
  obtain rfl : fields = others := Option.some.inj (given.symm.trans same)
  exact Node.truncateField_of_nestedClass_eq_none (flat field member)

/-- Attributes are fields without classes. -/
theorem flat_attributeFields (element : Element) :
    ∀ field ∈ Outline.attributeFields config element, field.nestedClass = none := by
  intro field member
  obtain ⟨child, _, declared⟩ := List.mem_filterMap.1 member
  rw [Outline.attributeField?] at declared
  split at declared
  · cases declared
    rfl
  · cases declared

/-- Attributes and references to groups are fields without classes. -/
theorem flat_attributeMembers (element : Element) :
    ∀ field ∈ Outline.attributeMembers config element, field.nestedClass = none := by
  intro field member
  obtain ⟨child, inside, declared⟩ := List.mem_filterMap.1 member
  split at declared
  · rw [Outline.groupReference?, Option.map_eq_some_iff] at declared
    obtain ⟨ref, _, rfl⟩ := declared
    rfl
  · exact flat_attributeFields element field (List.mem_filterMap.2 ⟨child, inside, declared⟩)

/-- Simple types have no fields. -/
theorem fields_of_simpleType? {name : Option String} {simpleType : Element} {node : Node}
    (declared : Outline.simpleType? config name simpleType = some node) : node.fields = none := by
  obtain ⟨restriction, _, declared⟩ := Option.bind_eq_some_iff.1 declared
  simp only at declared
  split at declared
  · cases declared
    rfl
  · split at declared
    · cases declared
      rfl
    · cases declared

/-- Truncation leaves simple types as they are. -/
theorem map_truncate_simpleType? (name : Option String) (simpleType : Element) :
    (Outline.simpleType? config name simpleType).map (Node.truncate limit depth) =
      Outline.simpleType? config name simpleType := by
  cases declared : Outline.simpleType? config name simpleType with
  | none => rfl
  | some node => rw [Option.map_some, truncate_of_fields_eq_none (fields_of_simpleType? declared)]

/-- Truncation leaves wrappers as they are. -/
theorem map_truncate_wrapper? (type : String) :
    (Outline.wrapper? config element type).map (Node.truncate limit depth) =
      Outline.wrapper? config element type := by
  rw [Outline.wrapper?]
  split
  · rw [Option.map_some, truncate_of_flat rfl (by simp [fieldOf])]
  · rfl

end Truncated

/-! ## Elements -/

/-- The class around an element is for elements with a type. -/
theorem wrapperClass_eq :
    wrapperClass config element =
      (given? element "type").bind (Outline.wrapper? config element) := by
  have named : Node.nameFor wrapperBeginning (element.get? "name") =
      some ("For" ++ (Outline.title? element).getD "") := by
    rw [nameFor_eq_title?]
    cases Outline.title? element <;> rfl
  have beyond : Text.occursIn (config.namespacePrefix ++ ":").toList [] = false := by
    simp [Text.occursIn]
  simp only [wrapperClass, Node.withName, named, given?]
  cases element.get? "type" with
  | none => simpa using beyond
  | some type =>
    by_cases empty : type = ""
    · simpa [empty, Option.filter] using beyond
    · simp [empty, Outline.wrapper?, Option.filter]

/-- An element with content has it under its own tag only. -/
theorem contentNamed?_of_content? {content : Element} (found : element.content? = some content)
    (tag : String) :
    element.contentNamed? tag = if content.isNamed tag then some content else none := by
  rw [Element.contentNamed?, found, Option.filter_some]

/-- Truncating a class truncates its fields. -/
theorem truncate_classOf (limit depth : Int) (element : Element) (fields : List Node) :
    Node.truncate limit depth (Outline.classOf element fields) =
      Outline.classOf element (fields.map (Node.truncateField limit depth)) := by
  rw [Node.truncate_eq]
  rfl

/-- The alternatives for elements make the type of an element, in the order they are tried. -/
theorem elementType?_of_alternatives :
    (((elementSimpleType element).bind fun own =>
        (element.contentNamed? "simpleType").bind (aliasIn config own)).or
      (((elementSimpleType element).bind fun own =>
        (element.contentNamed? "simpleType").bind (enumerationIn own)).or
      (((namedClass element).bind fun own => element.sequenceInType?.map fun sequence =>
        { own with fields := some (cut config 12 (Outline.fields config sequence)) }).or
      ((wrapperClass config element).or
      ((namedClass element).bind fun own => (element.contentNamed? "complexType").map fun type =>
        { own with fields := some (Outline.attributeFields config type) }))))) =
      (Outline.elementType? config element).map (Node.truncate config.maxDepth 12) := by
  rw [Outline.elementType?, wrapperClass_eq, namedClass_eq, elementSimpleType,
    Element.sequenceInType?]
  cases given? element "type" with
  | some type => simp [map_truncate_wrapper?]
  | none =>
    simp only [Option.isSome_none, Bool.false_eq_true, if_false, Option.bind_some, Option.bind_none,
      Option.none_or]
    cases found : element.content? with
    | none => simp [Element.contentNamed?, found]
    | some content =>
      simp only [contentNamed?_of_content? found, Option.bind_some, Outline.contentType?]
      by_cases simple : content.isNamed "simpleType"
      · have notComplex := Element.isNamed_of_ne "complexType" simple (by decide)
        simp only [simple, notComplex, if_true, Bool.false_eq_true, if_false, Option.bind_some,
          Option.bind_none, Option.map_none, Option.or_none, map_truncate_simpleType?]
        exact aliasIn_or_enumerationIn config _ content
      · by_cases complex : content.isNamed "complexType"
        · simp only [simple, complex, if_true, Bool.false_eq_true, if_false, Option.bind_some,
            Option.bind_none, Option.none_or]
          cases content.contentNamed? "sequence" with
          | some sequence =>
            simp only [Option.map_some, Option.some_or, truncate_classOf]
            rfl
          | none =>
            simp only [Option.map_none, Option.none_or, Option.map_some]
            rw [truncate_of_flat rfl (flat_attributeFields content)]
            rfl
        · simp [simple, complex]

/-! ## Complex types -/

/-- A complex type that holds a sequence extends nothing. -/
theorem extension?_of_sequence {sequence : Element}
    (holds : element.contentNamed? "sequence" = some sequence) :
    Outline.extension? element = none := by
  obtain ⟨found, named⟩ := Option.filter_eq_some_iff.1 holds
  rw [Outline.extension?, contentNamed?_of_content? found,
    Element.isNamed_of_ne "complexContent" named (by decide)]
  rfl

/-- The alternatives for complex types make the class of a complex type, in the order they are
tried. The second one repeats a part of the first. -/
theorem complexType?_of_alternatives :
    (((namedClass element).bind fun own =>
        ((element.contentNamed? "sequence").map fun sequence =>
          { own with fields := some (cut config 12 (Outline.fields config sequence)) }).or
        ((Outline.extension? element).map fun (extension, sequence) =>
          { own with
            base := (extension.get? "base").or own.base
            fields := some (cut config 14 (Outline.fields config sequence)) })).or
      (((namedClass element).bind fun own =>
        (Outline.extension? element).map fun (extension, sequence) =>
          { own with
            base := (extension.get? "base").or own.base
            fields := some (cut config 13 (Outline.fields config sequence)) }).or
      (((attributeClass element).map fun own =>
        { own with fields := some (Outline.attributeMembers config element) }).or
      (namedClass element)))) =
      (Outline.complexType? config element).map (Node.truncate config.maxDepth
        (if (Outline.extension? element).isSome then 14 else 12)) := by
  rw [Outline.complexType?, attributeClass, namedClass_eq]
  cases given? element "type" with
  | some type => simp
  | none =>
    simp only [Option.isSome_none, Bool.false_eq_true, if_false, Option.bind_some]
    cases holds : element.contentNamed? "sequence" with
    | some sequence =>
      rw [extension?_of_sequence holds]
      simp only [Option.map_some, Option.some_or, truncate_classOf, Option.isSome_none,
        Bool.false_eq_true, if_false]
      rfl
    | none =>
      cases Outline.extension? element with
      | some extended =>
        obtain ⟨extension, sequence⟩ := extended
        simp [Node.truncate_eq, Outline.classOf, cut]
      | none =>
        simp only [Option.map_none, Option.none_or]
        split
        · simp only [Option.map_some]
          rw [truncate_of_flat rfl (flat_attributeMembers element)]
          rfl
        · rw [Option.map_some, truncate_of_fields_eq_none rfl]
          rfl

/-! ## Other types -/

/-- Truncating a group truncates its fields. -/
theorem truncate_groupOf (limit depth : Int) (name : String) (fields : List Node) :
    Node.truncate limit depth (Outline.groupOf name fields) =
      Outline.groupOf name (fields.map (Node.truncateField limit depth)) := by
  rw [Node.truncate_eq]
  rfl

/-- What the alternative for groups makes of a group. -/
theorem group_of_alternative :
    ((namedGroup element).bind fun own => (element.contentNamed? "sequence").map fun sequence =>
      { own with fields := some (cut config 11 (Outline.fields config sequence)) }) =
      ((given? element "name").bind fun name =>
        (element.contentNamed? "sequence").map fun sequence =>
          Outline.groupOf name (Outline.fields config sequence)).map
            (Node.truncate config.maxDepth 11) := by
  rw [namedGroup_eq]
  cases given? element "name" with
  | none => rfl
  | some name =>
    cases element.contentNamed? "sequence" with
    | none => rfl
    | some sequence =>
      simp only [Option.map_some, Option.bind_some, truncate_groupOf]
      rfl

/-- What the alternative for groups of attributes makes of one. -/
theorem attributeGroup_of_alternative (depth : Int) :
    ((namedGroup element).map fun own =>
      { own with fields := some (Outline.attributeFields config element) }) =
      ((given? element "name").map fun name =>
        Outline.groupOf name (Outline.attributeFields config element)).map
          (Node.truncate config.maxDepth depth) := by
  rw [namedGroup_eq]
  cases given? element "name" with
  | none => rfl
  | some name =>
    simp only [Option.map_some]
    rw [truncate_of_flat rfl (flat_attributeFields element)]
    rfl

/-- What the alternatives for simple types make of one. -/
theorem simpleType_of_alternatives (depth : Int) :
    ((namedSimpleType element).bind fun own => aliasIn config own element).or
      ((namedSimpleType element).bind fun own => enumerationIn own element) =
      ((given? element "name").bind fun name =>
        Outline.simpleType? config (some name) element).map
          (Node.truncate config.maxDepth depth) := by
  rw [namedSimpleType]
  cases given? element "name" with
  | none => rfl
  | some name =>
    simp only [Option.map_some, Option.bind_some, map_truncate_simpleType?]
    exact aliasIn_or_enumerationIn config (some name) element

/-! ## The schema -/

variable (config)

/-- The alternatives for a type read what the outline says, with nested classes truncated. -/
theorem reads_types :
    Reads (bindings config) 2 (anyOf (typeOptions config)) (truncatedType? config) := by
  refine (reads_oneOf (.cons (reads_elementAlias config _) (.cons (reads_elementEnumeration _)
    (.cons (reads_elementClass config _) (.cons (reads_complexClass config _)
    (.cons (reads_extendedClass config _) (.cons (reads_groupType config _)
    (.cons (reads_wrapperType config _) (.cons (reads_attributeGroup config _)
    (.cons (reads_elementAttributeClass config _) (.cons (reads_complexAttributeClass config _)
    (.cons (reads_emptyClass _) (.cons (reads_namedAlias config _)
    (.cons (reads_namedEnumeration _) .nil)))))))))))))).congr fun element => ?_
  have other {tag : String} (named : element.isNamed tag) (second : String)
      (different : tag ≠ second) :=
    Element.isNamed_of_ne second named different
  simp only [firstOf_cons, firstOf_nil, Option.or_none, onTag, truncatedType?, Outline.type?,
    nestingDepth]
  by_cases isElement : element.isNamed "element"
  · simp only [isElement, other isElement "complexType" (by decide),
      other isElement "group" (by decide), other isElement "attributeGroup" (by decide),
      other isElement "simpleType" (by decide), if_true, Bool.false_eq_true, if_false,
      Option.none_or, Option.or_none, Bool.false_and]
    exact elementType?_of_alternatives
  by_cases isComplex : element.isNamed "complexType"
  · simp only [isElement, isComplex, other isComplex "group" (by decide),
      other isComplex "attributeGroup" (by decide), other isComplex "simpleType" (by decide),
      if_true, Bool.false_eq_true, if_false, Option.none_or, Option.or_none, Bool.true_and]
    exact complexType?_of_alternatives
  by_cases isGroup : element.isNamed "group"
  · simp only [isElement, isComplex, isGroup, other isGroup "attributeGroup" (by decide),
      other isGroup "simpleType" (by decide), if_true, Bool.false_eq_true, if_false,
      Option.none_or, Option.or_none]
    exact group_of_alternative
  by_cases isAttributes : element.isNamed "attributeGroup"
  · simp only [isElement, isComplex, isGroup, isAttributes,
      other isAttributes "simpleType" (by decide), if_true, Bool.false_eq_true, if_false,
      Option.none_or, Option.or_none]
    exact attributeGroup_of_alternative _
  by_cases isSimple : element.isNamed "simpleType"
  · simp only [isElement, isComplex, isGroup, isAttributes, isSimple, if_true, Bool.false_eq_true,
      if_false, Option.none_or]
    exact simpleType_of_alternatives _
  · simp only [isElement, isComplex, isGroup, isAttributes, isSimple, Bool.false_eq_true, if_false,
      Option.none_or, Option.map_none]

/-- A document element is recognized as a schema by its tag, and as that of the types its children
declare. -/
theorem recognize_eq (root : Element) :
    recognize config root =
      if root.isNamed "schema" then
        some { kind := Kind.classType
               types := some (root.plainChildren.filterMap (truncatedType? config)) }
      else none := by
  have types : Reads (bindings config) (0 + 1 + 1) (anyOf (typeOptions config))
      (truncatedType? config) := by
    rw [show (0 : Int) + 1 + 1 = 2 by decide]
    exact reads_types config
  have follows : Follows (terminal "schema" schemaRule) "schema" schemaRule :=
    follows_terminal "schema" "schema" (by decide)
  have reads : Reads (bindings config) 0 (schema config) (onTag "schema" fun element =>
      some { kind := Kind.classType
             types := some (element.plainChildren.filterMap (truncatedType? config)) }) := by
    refine (reads_holding follows (readsContent_collect (.cons types .nil))).congr fun element => ?_
    rw [firstOf_singleton]
    rfl
  cases plain : root.isRemark with
  | false =>
    rw [recognize, reads (.root root) plain]
    rfl
  | true =>
    have hidden : visible (some (.root root)) = [] :=
      (visible_some (.root root)).trans (if_pos plain)
    have notSchema : root.isNamed "schema" = false := by
      rw [Bool.eq_false_iff, Ne, Element.isNamed_iff]
      intro named
      simp only [Element.isRemark, named] at plain
      revert plain
      decide
    rw [recognize, schema, listing, holding, result_link, hidden, notSchema]
    rfl

end SchemaTypes.Schema
