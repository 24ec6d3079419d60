import SchemaTypes.Proofs.Schema.Cardinality
import SchemaTypes.Proofs.Schema.Depth
import SchemaTypes.Proofs.Schema.Shape
import SchemaTypes.Proofs.Schema.TopLevel

/-!
# One declaration in two places

Some declarations may stand in two places: a simple type on its own or in an element, and an element
with a sequence inside at the top of a schema or in another sequence. The grammar has alternatives
of its own for each place, and what they read is the same.
-/

namespace SchemaTypes.Schema

/-! ## Simple types on their own and in elements -/

section SimpleTypes

variable {config : Config} {root child simpleType element : Element} {name : String}

/-- A schema with one child. -/
structure IsSchemaOf (child root : Element) : Prop where
  isSchema : root.localName? = some "schema"
  children : root.children = [child]

/-- The types of a schema with one child are what that child declares. -/
theorem IsSchemaOf.recognize_eq (alone : IsSchemaOf child root) (plain : child.isRemark = false) :
    recognize config root =
      some { kind := Kind.classType, types := some (truncatedType? config child).toList } := by
  have only : root.plainChildren = [child] := by
    rw [Element.plainChildren, alone.children, List.filter_singleton, plain]
    rfl
  rw [Schema.recognize_eq, if_pos (Element.isNamed_iff.2 alone.isSchema), only]
  cases declared : truncatedType? config child <;> simp [declared]

/-- A simple type with a name declares what its restriction makes of the name. -/
theorem truncatedType?_of_named (isSimple : simpleType.isNamed "simpleType" = true)
    (named : given? simpleType "name" = some name) :
    truncatedType? config simpleType = Outline.simpleType? config (some name) simpleType := by
  have other (tag : String) (different : "simpleType" ≠ tag) : simpleType.isNamed tag = false :=
    Element.isNamed_of_ne tag isSimple different
  rw [truncatedType?, Outline.type?, other "element" (by decide), other "complexType" (by decide),
    other "group" (by decide), other "attributeGroup" (by decide), isSimple]
  simp only [Bool.false_eq_true, if_false, if_true, named, Option.bind_some,
    map_truncate_simpleType?]

/-- An element without a type declares what the restriction in its simple type makes of its
name. -/
theorem truncatedType?_of_wrapper (isElement : element.isNamed "element" = true)
    (untyped : given? element "type" = none) (holds : element.content? = some simpleType)
    (isSimple : simpleType.isNamed "simpleType" = true) :
    truncatedType? config element =
      Outline.simpleType? config (element.get? "name") simpleType := by
  rw [truncatedType?, Outline.type?, if_pos isElement, Outline.elementType?, untyped, holds]
  simp only [Option.bind_some, Outline.contentType?, isSimple, if_true, map_truncate_simpleType?]

/-- What a simple type makes of a name is a matter of its children. -/
theorem simpleType?_of_children_eq {inner : Element} (same : inner.children = simpleType.children)
    (name : Option String) :
    Outline.simpleType? config name inner = Outline.simpleType? config name simpleType := by
  have content (tag : String) : inner.contentNamed? tag = simpleType.contentNamed? tag := by
    rw [Element.contentNamed?, Element.contentNamed?, Element.content?, Element.content?,
      Element.plainChildren, Element.plainChildren, same]
  rw [Outline.simpleType?, Outline.simpleType?, content]

/-- A restriction makes an alias or an enumeration of a name, or nothing. -/
theorem toList_simpleType? (name : Option String) (simpleType : Element) :
    (Outline.simpleType? config name simpleType).toList = [] ∨
      (∃ type, (Outline.simpleType? config name simpleType).toList =
        [{ kind := Kind.aliasType, name, type := some type }]) ∨
      ∃ values, (Outline.simpleType? config name simpleType).toList =
        [{ kind := Kind.enumeration, name, values := some values }] := by
  rw [Outline.simpleType?]
  cases simpleType.contentNamed? "restriction" with
  | none => exact Or.inl rfl
  | some restriction =>
    simp only [Option.bind_some]
    split
    · exact Or.inr (Or.inl ⟨_, rfl⟩)
    · split
      · exact Or.inr (Or.inr ⟨_, rfl⟩)
      · exact Or.inl rfl

/-- A simple type with a name and an element of this name that holds a simple type with the same
children are read the same, each in a schema of its own: as one alias, as one enumeration, or as
nothing. -/
theorem recognize_wrapped_simpleType (config : Config) (root root' : Element) {name : String}
    {named wrapper inner : Element} (written : name ≠ "")
    (alone : IsSchemaOf named root) (isSimple : named.localName? = some "simpleType")
    (hasName : named.get? "name" = some name)
    (alone' : IsSchemaOf wrapper root') (isElement : wrapper.localName? = some "element")
    (hasName' : wrapper.get? "name" = some name) (untyped : given? wrapper "type" = none)
    (holds : wrapper.content? = some inner) (isSimple' : inner.localName? = some "simpleType")
    (same : inner.children = named.children) :
    ∃ types,
      recognize config root = some { kind := Kind.classType, types := some types } ∧
      recognize config root' = some { kind := Kind.classType, types := some types } ∧
      (types = [] ∨
        (∃ type, types = [{ kind := Kind.aliasType, name := some name, type := some type }]) ∨
        ∃ values,
          types = [{ kind := Kind.enumeration, name := some name, values := some values }]) := by
  rw [← Element.isNamed_iff] at isSimple isElement isSimple'
  have given : given? named "name" = some name := by simp [given?, hasName, written]
  refine ⟨(Outline.simpleType? config (some name) named).toList, ?_, ?_,
    toList_simpleType? (some name) named⟩
  · rw [alone.recognize_eq ((Element.isRemark_of_isNamed isSimple).trans (by decide)),
      truncatedType?_of_named isSimple given]
  · rw [alone'.recognize_eq ((Element.isRemark_of_isNamed isElement).trans (by decide)),
      truncatedType?_of_wrapper isElement untyped holds isSimple', hasName',
      simpleType?_of_children_eq same]

/-- The restriction of a text type to two values. -/
def sizeRestriction : Element :=
  .mk "restriction" [("base", "xs:string")]
    [.mk "enumeration" [("value", "small")] [], .mk "enumeration" [("value", "large")] []]

/-- A simple type with a name and that restriction. -/
def namedSize : Element := .mk "simpleType" [("name", "size")] [sizeRestriction]

/-- A simple type with the same children and another name. -/
def innerSize : Element := .mk "simpleType" [("name", "width"), ("id", "s1")] [sizeRestriction]

/-- An element with that simple type, behind an annotation. -/
def wrappedSize : Element :=
  .mk "element" [("name", "size")] [.mk "annotation" [] [], innerSize]

theorem recognize_wrapped_simpleType_size :
    namedSize.get? "name" = some "size" ∧ wrappedSize.content? = some innerSize ∧
      innerSize.children = namedSize.children ∧
      ∃ types,
        recognize {} (.mk "schema" [] [namedSize]) =
          some { kind := Kind.classType, types := some types } ∧
        recognize {} (.mk "schema" [] [wrappedSize]) =
          some { kind := Kind.classType, types := some types } ∧
        (types = [] ∨
          (∃ type, types = [{ kind := Kind.aliasType, name := some "size", type := some type }]) ∨
          ∃ values,
            types = [{ kind := Kind.enumeration, name := some "size", values := some values }]) := by
  have hasName : namedSize.get? "name" = some "size" := by decide
  have holds : wrappedSize.content? = some innerSize := by rfl
  exact ⟨hasName, holds, rfl,
    recognize_wrapped_simpleType {} (.mk "schema" [] [namedSize]) (.mk "schema" [] [wrappedSize])
      (by decide) ⟨by decide, rfl⟩ (by decide) hasName ⟨by decide, rfl⟩ (by decide) (by decide)
      (by decide) holds (by decide) rfl⟩

end SimpleTypes

/-! ## Classes in fields and at the top -/

section Classes

variable {config : Config} {root child element sequence : Element} {type field : Node}

/-- Only elements declare fields with classes of their own, references to groups do not. -/
theorem isNamed_of_nestedClass {nested : Node}
    (declared : Outline.field? config element = some field)
    (nests : field.nestedClass = some nested) : element.isNamed "element" = true := by
  by_contra notElement
  rw [Outline.field?_eq, if_neg notElement] at declared
  split at declared
  · obtain ⟨ref, -, rfl⟩ := Option.map_eq_some_iff.1 declared
    cases nests
  · cases declared

/-- Where nothing is cut, every element contributes the field it declares. -/
theorem Uncut.field?_of_contributes (uncut : Uncut config root)
    (contributes : Contributes config root element field) :
    Outline.field? config element = some field := by
  induction contributes with
  | inType recognized given declares holds lists member =>
    have isSchema := Element.isNamed_iff.2 (isSchema_of_recognize recognized).1
    obtain rfl := Option.some.inj (recognized.symm.trans (uncut.recognize_eq isSchema))
    obtain rfl := Option.some.inj given
    obtain ⟨-, declared⟩ := (mem_paired_iff fun _ => rfl).1 declares
    rw [Outline.fields_of_type? declared holds] at lists
    obtain rfl := Option.some.inj lists
    exact ((mem_paired_iff (Outline.declaresField_eq config)).1 member).2
  | inField _ nests holds lists member inductionHypothesis =>
    -- The class of the outer field takes its fields from the sequence that the element is in.
    have isElement := isNamed_of_nestedClass inductionHypothesis nests
    rw [Outline.field?_of_sequenceInType? isElement holds] at inductionHypothesis
    obtain rfl := Option.some.inj inductionHypothesis
    obtain rfl := Option.some.inj nests
    obtain rfl := Option.some.inj lists
    exact ((mem_paired_iff (Outline.declaresField_eq config)).1 member).2

/-- Where nothing is cut, every child of a schema contributes the type it declares. -/
theorem Uncut.contribution_of_type? (uncut : Uncut config root)
    (isSchema : root.isNamed "schema" = true) (isChild : child ∈ root.plainChildren)
    (declared : Outline.type? config child = some type) :
    contribution config root child = [type] := by
  have same : root.plainChildren.filterMap (truncatedType? config) = Outline.types config root := by
    rw [← typesOf_eq isSchema, typesOf, uncut.recognize_eq isSchema]
    rfl
  -- One test tells which children declare types, cut or not, so the same child is paired with both.
  have pair : (child, type) ∈ paired (fun child => (Outline.type? config child).isSome)
      root.plainChildren (Outline.types config root) :=
    (mem_paired_iff fun _ => rfl).2 ⟨isChild, declared⟩
  rw [← same, mem_paired_iff (by simp [truncatedType?])] at pair
  rw [contribution_eq isSchema, (Element.mem_plainChildren_iff.1 isChild).2, pair.2]
  rfl

/-- The class in the field of an element with a name goes by the same title as a class of that
element at the top. -/
theorem nestedClass_nestingField {name : String} (named : given? element "name" = some name)
    (fields : List Node) :
    (Outline.nestingField element fields).nestedClass = some (Outline.classOf element fields) := by
  obtain ⟨found, -⟩ := Option.filter_eq_some_iff.1 named
  rw [Outline.nestingField, Outline.classOf, Outline.title?, named, found]

/-- An element with a name and without a type, with a sequence inside, is read as one and the same
class in both places, if neither document is cut: what it contributes as a child of a schema is the
class of the field it contributes in a sequence, at any level of nesting, and the type of this field
is the name of that class. -/
theorem contribution_eq_nestedClass (config : Config) (root other : Element) {name : String}
    (uncut : Uncut config root) (uncut' : Uncut config other)
    (isElement : element.localName? = some "element") (named : given? element "name" = some name)
    (untyped : given? element "type" = none) (holds : element.sequenceInType? = some sequence)
    (contributes : Contributes config root element field)
    (isSchema : other.localName? = some "schema") (isChild : element ∈ other.children) :
    ∃ type, contribution config other element = [type] ∧ type.kind = Kind.classType ∧
      field.nestedClass = some type ∧ field.fieldType = type.name := by
  rw [← Element.isNamed_iff] at isElement isSchema
  have declares := uncut.field?_of_contributes contributes
  rw [Outline.field?_of_sequenceInType? isElement holds] at declares
  obtain rfl := Option.some.inj declares
  have inSchema : element ∈ other.plainChildren := Element.mem_plainChildren_iff.2
    ⟨isChild, (Element.isRemark_of_isNamed isElement).trans (by decide)⟩
  have declared : Outline.type? config element =
      some (Outline.classOf element (Outline.fields config sequence)) :=
    (if_pos isElement).trans (Outline.elementType?_of_sequenceInType? untyped holds)
  have nests := nestedClass_nestingField named (Outline.fields config sequence)
  -- The type of a field is the name of its class.
  exact ⟨_, uncut'.contribution_of_type? isSchema inSchema declared, rfl, nests,
    congrArg Node.name (Option.some.inj nests)⟩

/-- The address inside an order is the class that it is on its own. -/
theorem contribution_eq_nestedClass_address :
    ∃ field, Uncut {} orderSchema ∧ Uncut {} (.mk "schema" [] [optionalAddress]) ∧
      Contributes {} orderSchema optionalAddress field ∧
      ∃ type, contribution {} (.mk "schema" [] [optionalAddress]) optionalAddress = [type] ∧
        type.kind = Kind.classType ∧ field.nestedClass = some type ∧
        field.fieldType = type.name := by
  obtain ⟨field, -, -, contributes⟩ := contributes_optionalAddress
  have named : given? optionalAddress "name" = some "address" := by decide
  have uncut : Uncut {} orderSchema := uncut_of_height_le (by decide) (by decide)
  have uncut' : Uncut {} (.mk "schema" [] [optionalAddress]) :=
    uncut_of_height_le (by decide) (by decide)
  exact ⟨_, uncut, uncut', contributes,
    contribution_eq_nestedClass {} orderSchema (.mk "schema" [] [optionalAddress]) uncut uncut'
      (by decide) named (by decide) rfl contributes (by decide) (List.mem_singleton.2 rfl)⟩

end Classes

end SchemaTypes.Schema
