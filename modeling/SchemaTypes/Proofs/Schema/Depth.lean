import SchemaTypes.Proofs.Schema.Recognition

/-!
# How the greatest depth matters

The greatest depth of a configuration decides where classes nested in fields are cut off, and
nothing else. A document that is not too high for it is read as the outline says, and of two
readings that differ in the greatest depth the shallower one is the deeper one truncated.
-/

namespace SchemaTypes.Schema

variable {config : Config}

namespace Outline

/-! ## Documents within the depth -/

section Within

variable {limit depth : Int}

/-- The sequence in the complex type of an element is at least two steps below it. -/
theorem height_of_sequenceInType? {sequence element : Element}
    (found : element.sequenceInType? = some sequence) : sequence.height + 2 ≤ element.height := by
  obtain ⟨type, holdsType, holdsSequence⟩ := Option.bind_eq_some_iff.1 found
  have inType := Element.height_lt_of_mem_plainChildren
    (Element.mem_plainChildren_of_contentNamed? holdsSequence)
  have inElement := Element.height_lt_of_mem_plainChildren
    (Element.mem_plainChildren_of_contentNamed? holdsType)
  omega

/-- A field within the limit has nothing to truncate: from a field to a field inside it, the depth
grows by one stride and the height of the element shrinks. -/
theorem truncateField_of_field? {element : Element} {field : Node}
    (declared : field? config element = some field)
    (within : depth + Node.nestingStride * element.height ≤ limit) :
    field.truncateField limit depth = field := by
  induction element using Element.nesting_induction generalizing field depth with
  | step element inductionHypothesis =>
    rw [field?_eq] at declared
    split at declared
    · split at declared
      · next sequence found =>
        cases declared
        have lower := height_of_sequenceInType? found
        rw [Node.nestingStride] at within
        have kept : ¬ depth > limit := by omega
        have same : (nestingField element (fields config sequence)).nestedClass.map
            (Node.truncate limit (depth + Node.nestingStride)) =
              (nestingField element (fields config sequence)).nestedClass := by
          refine congrArg some (Node.truncate_of_forall fun others given inner member => ?_)
          obtain rfl : fields config sequence = others := Option.some.inj given
          obtain ⟨child, inside, readsChild⟩ := List.mem_filterMap.1 member
          have below := Element.height_lt_of_mem_plainChildren inside
          refine inductionHypothesis sequence found child inside readsChild ?_
          rw [Node.nestingStride]
          omega
        rw [Node.truncateField_eq]
        simp only [kept, if_false, same]
        rfl
      · rw [typedField?] at declared
        split at declared
        · cases declared
          exact Node.truncateField_of_nestedClass_eq_none rfl
        · cases declared
    · split at declared
      · obtain ⟨ref, _, rfl⟩ := Option.map_eq_some_iff.1 declared
        exact Node.truncateField_of_nestedClass_eq_none rfl
      · cases declared

/-- The fields of a node that is made of an element: they have no classes, or they are read in a
sequence below the element. -/
def ReadsFieldsBelow (config : Config) (element : Element) (node : Node) : Prop :=
  ∀ fields, node.fields = some fields → ∀ field ∈ fields, field.nestedClass = none ∨
    ∃ sequence, sequence.height < element.height ∧ field ∈ Outline.fields config sequence

section Below

variable {element : Element} {node : Node} {fields : List Node}

/-- A node without fields can be made of any element. -/
theorem readsFieldsBelow_of_bare (bare : node.fields = none) :
    ReadsFieldsBelow config element node := by
  intro fields given
  rw [bare] at given
  cases given

/-- A node whose fields have no classes can be made of any element. -/
theorem readsFieldsBelow_of_flat (given : node.fields = some fields)
    (flat : ∀ field ∈ fields, field.nestedClass = none) : ReadsFieldsBelow config element node := by
  intro others same field member
  obtain rfl : fields = others := Option.some.inj (given.symm.trans same)
  exact Or.inl (flat field member)

/-- The fields of a node can be those of a lower sequence. -/
theorem readsFieldsBelow_of_sequence {sequence : Element}
    (given : node.fields = some (Outline.fields config sequence))
    (lower : sequence.height < element.height) : ReadsFieldsBelow config element node := by
  intro others same field member
  obtain rfl : Outline.fields config sequence = others := Option.some.inj (given.symm.trans same)
  exact Or.inr ⟨sequence, lower, member⟩

/-- The content of an element is lower than the element. -/
theorem height_lt_of_contentNamed? {content : Element} {tag : String}
    (found : element.contentNamed? tag = some content) : content.height < element.height :=
  Element.height_lt_of_mem_plainChildren (Element.mem_plainChildren_of_contentNamed? found)

/-- The sequence of an extension is lower than the complex type. -/
theorem height_lt_of_extension? {extension sequence : Element}
    (found : extension? element = some (extension, sequence)) :
    sequence.height < element.height := by
  obtain ⟨content, holdsContent, found⟩ := Option.bind_eq_some_iff.1 found
  obtain ⟨inner, holdsExtension, found⟩ := Option.bind_eq_some_iff.1 found
  obtain ⟨_, holdsSequence, same⟩ := Option.map_eq_some_iff.1 found
  cases same
  have first := height_lt_of_contentNamed? holdsContent
  have second := height_lt_of_contentNamed? holdsExtension
  have third := height_lt_of_contentNamed? holdsSequence
  omega

/-- What an element declares reads its fields below the element. -/
theorem readsFieldsBelow_of_elementType? (declared : elementType? config element = some node) :
    ReadsFieldsBelow config element node := by
  rw [elementType?] at declared
  split at declared
  · rw [wrapper?] at declared
    split at declared
    · cases declared
      exact readsFieldsBelow_of_flat rfl (by simp [fieldOf])
    · cases declared
  · obtain ⟨content, found, declared⟩ := Option.bind_eq_some_iff.1 declared
    have inside : content.height < element.height :=
      Element.height_lt_of_mem_plainChildren (List.mem_of_head? found)
    rw [contentType?] at declared
    split at declared
    · exact readsFieldsBelow_of_bare (fields_of_simpleType? declared)
    · split at declared
      · split at declared
        · next sequence holds =>
          cases declared
          exact readsFieldsBelow_of_sequence rfl
            (Nat.lt_trans (height_lt_of_contentNamed? holds) inside)
        · cases declared
          exact readsFieldsBelow_of_flat rfl (flat_attributeFields content)
      · cases declared

/-- What a complex type declares reads its fields below it. -/
theorem readsFieldsBelow_of_complexType? (declared : complexType? config element = some node) :
    ReadsFieldsBelow config element node := by
  rw [complexType?] at declared
  split at declared
  · cases declared
  · split at declared
    · next sequence extended holds =>
      cases declared
      exact readsFieldsBelow_of_sequence rfl (height_lt_of_contentNamed? holds)
    · next extension sequence holds found =>
      cases declared
      exact readsFieldsBelow_of_sequence rfl (height_lt_of_extension? found)
    · split at declared
      · cases declared
        exact readsFieldsBelow_of_flat rfl (flat_attributeMembers element)
      · cases declared
        exact readsFieldsBelow_of_bare rfl

/-- What a child of a schema declares reads its fields below the child. -/
theorem readsFieldsBelow_of_type? (declared : type? config element = some node) :
    ReadsFieldsBelow config element node := by
  rw [type?] at declared
  split at declared
  · exact readsFieldsBelow_of_elementType? declared
  split at declared
  · exact readsFieldsBelow_of_complexType? declared
  split at declared
  · obtain ⟨name, _, declared⟩ := Option.bind_eq_some_iff.1 declared
    obtain ⟨sequence, holds, rfl⟩ := Option.map_eq_some_iff.1 declared
    exact readsFieldsBelow_of_sequence rfl (height_lt_of_contentNamed? holds)
  split at declared
  · obtain ⟨name, _, rfl⟩ := Option.map_eq_some_iff.1 declared
    exact readsFieldsBelow_of_flat rfl (flat_attributeFields element)
  split at declared
  · obtain ⟨name, _, declared⟩ := Option.bind_eq_some_iff.1 declared
    exact readsFieldsBelow_of_bare (fields_of_simpleType? declared)
  · cases declared

end Below

/-- A type within the limit has nothing to truncate. -/
theorem truncate_of_type? {element : Element} {node : Node}
    (declared : type? config element = some node)
    (within : depth + Node.nestingStride * element.height ≤ limit) :
    node.truncate limit depth = node := by
  refine Node.truncate_of_forall fun fields given field member => ?_
  rcases readsFieldsBelow_of_type? declared fields given field member with
    flat | ⟨sequence, lower, inside⟩
  · exact Node.truncateField_of_nestedClass_eq_none flat
  · obtain ⟨child, isChild, readsChild⟩ := List.mem_filterMap.1 inside
    have below := Element.height_lt_of_mem_plainChildren isChild
    refine truncateField_of_field? readsChild ?_
    rw [Node.nestingStride] at within ⊢
    omega

end Within

end Outline

/-- No type has its nested classes below the depth of those in an extension. -/
theorem nestingDepth_le (element : Element) : nestingDepth element ≤ 14 := by
  rw [nestingDepth]
  split
  · decide
  · split <;> decide

/-- A schema that is not too high for the greatest depth is read as the outline says: nothing is
left out, and no alternative is taken in place of the right one. -/
theorem recognize_of_height_le (config : Config) (root : Element)
    (named : root.localName? = some "schema")
    (within : 14 + 6 * (root.height : Int) ≤ config.maxDepth) :
    recognize config root =
      some { kind := Kind.classType, types := some (Outline.types config root) } := by
  have untouched : ∀ child ∈ root.plainChildren,
      truncatedType? config child = Outline.type? config child := by
    intro child member
    rw [truncatedType?]
    cases declared : Outline.type? config child with
    | none => rfl
    | some type =>
      have below := Element.height_lt_of_mem_plainChildren member
      have bound := nestingDepth_le child
      rw [Option.map_some, Outline.truncate_of_type? declared]
      rw [Node.nestingStride]
      omega
  rw [recognize_eq, if_pos (Element.isNamed_iff.2 named), Outline.types,
    List.filterMap_congr untouched]

/-- A schema with a class in a field, behind an annotation. -/
def addressed : Element :=
  .mk "{http://www.w3.org/2001/XMLSchema}schema" [] [.mk "annotation" [] [],
    .mk "complexType" [("name", "order")] [.mk "sequence" [] [
      .mk "element" [("name", "address")] [.mk "complexType" [] [.mk "sequence" [] [
        .mk "element" [("name", "city"), ("type", "xs:string")] []]]]]]]

/-- Every nested class of the sample is read in full. -/
theorem recognize_addressed :
    addressed.localName? = some "schema" ∧
      14 + 6 * (addressed.height : Int) ≤ ({} : Config).maxDepth ∧
      recognize {} addressed =
        some { kind := Kind.classType, types := some (Outline.types {} addressed) } :=
  ⟨by decide, by decide, recognize_of_height_le {} addressed (by decide) (by decide)⟩

/-! ## Two depths -/

namespace Outline

variable {limit : Int} (element : Element)

/-- The outline does not depend on the greatest depth: what it says about fields, -/
theorem field?_maxDepth :
    field? { config with maxDepth := limit } element = field? config element := by
  induction element using Element.nesting_induction with
  | step element inductionHypothesis =>
    rw [field?_eq, field?_eq]
    split
    · split
      · next sequence found =>
        rw [fields, fields, List.filterMap_congr (inductionHypothesis sequence found)]
      · rfl
    · rfl

/-- what it says about sequences of fields, -/
theorem fields_maxDepth (sequence : Element) :
    fields { config with maxDepth := limit } sequence = fields config sequence :=
  List.filterMap_congr fun child _ => field?_maxDepth child

/-- what it says about types, -/
theorem type?_maxDepth :
    type? { config with maxDepth := limit } element = type? config element := by
  have content : contentType? { config with maxDepth := limit } element =
      contentType? config element := by
    funext content
    simp only [contentType?, fields_maxDepth]
    rfl
  simp only [type?, elementType?, content, complexType?, fields_maxDepth]
  rfl

/-- and what it says about schemas. -/
theorem types_maxDepth (root : Element) :
    types { config with maxDepth := limit } root = types config root :=
  List.filterMap_congr fun child _ => type?_maxDepth child

end Outline

/-! ## Documents that are not cut -/

section Uncut

variable {root : Element}

/-- The greatest depth of a configuration cuts nothing off a document: a greater one makes no
difference. -/
def Uncut (config : Config) (root : Element) : Prop :=
  ∀ limit, config.maxDepth ≤ limit →
    recognize { config with maxDepth := limit } root = recognize config root

/-- What is not cut is read as the outline says. -/
theorem Uncut.recognize_eq (uncut : Uncut config root) (isSchema : root.isNamed "schema" = true) :
    recognize config root =
      some { kind := Kind.classType, types := some (Outline.types config root) } := by
  have deep := recognize_of_height_le
    { config with maxDepth := max config.maxDepth (14 + 6 * (root.height : Int)) } root
    (Element.isNamed_iff.1 isSchema) (Int.le_max_right _ _)
  rw [uncut _ (Int.le_max_left _ _), Outline.types_maxDepth] at deep
  exact deep

/-- A document that is not too high for the greatest depth is not cut. -/
theorem uncut_of_height_le (isSchema : root.isNamed "schema" = true)
    (within : 14 + 6 * (root.height : Int) ≤ config.maxDepth) : Uncut config root := by
  intro limit lower
  have named := Element.isNamed_iff.1 isSchema
  have within' := Int.le_trans within lower
  rw [recognize_of_height_le config root named within,
    recognize_of_height_le { config with maxDepth := limit } root named within',
    Outline.types_maxDepth]

end Uncut

/-! ## Truncated types of a schema -/

/-- The depths of the nested classes in the types of a schema, type by type. -/
def nestingDepths (config : Config) (root : Element) : List Int :=
  (root.plainChildren.filter fun child => (Outline.type? config child).isSome).map nestingDepth

/-- The schema with the nested classes of its types truncated, each type at a depth of its own. -/
def truncateTypes (limit : Int) (depths : List Int) (schema : Node) : Node :=
  { schema with types := schema.types.map (List.zipWith (Node.truncate limit) depths) }

/-- The truncated types are all types, each truncated at the depth of its own nested classes. -/
theorem filterMap_truncatedType? (limit : Int) (children : List Element) :
    children.filterMap (truncatedType? { config with maxDepth := limit }) =
      List.zipWith (Node.truncate limit)
        ((children.filter fun child => (Outline.type? config child).isSome).map nestingDepth)
        (children.filterMap (Outline.type? config)) := by
  induction children with
  | nil => rfl
  | cons child rest inductionHypothesis =>
    rw [List.filterMap_cons, List.filterMap_cons, List.filter_cons, truncatedType?,
      Outline.type?_maxDepth]
    cases Outline.type? config child with
    | none => simpa using inductionHypothesis
    | some type => simp [inductionHypothesis]

/-- There is one depth for each type. -/
theorem length_nestingDepths (limit : Int) (root : Element) :
    (root.plainChildren.filterMap (truncatedType? { config with maxDepth := limit })).length =
      (nestingDepths config root).length := by
  rw [List.length_filterMap_eq_countP, nestingDepths, List.length_map,
    ← List.countP_eq_length_filter]
  refine List.countP_congr fun child _ => ?_
  rw [truncatedType?, Option.isSome_map, Outline.type?_maxDepth]

/-- The schema with its types as they are apart from the fields of nested classes. -/
def outermostTypes (schema : Node) : Node :=
  { schema with types := schema.types.map (·.map Node.outermost) }

/-- On the outside, truncated types are as they were. -/
theorem map_outermost_truncatedType? (limit : Int) (children : List Element) :
    (children.filterMap (truncatedType? { config with maxDepth := limit })).map Node.outermost =
      (children.filterMap (Outline.type? config)).map Node.outermost := by
  rw [List.map_filterMap, List.map_filterMap]
  refine List.filterMap_congr fun child _ => ?_
  rw [truncatedType?, Outline.type?_maxDepth]
  cases Outline.type? config child with
  | none => rfl
  | some type => simp only [Option.map_some, Node.outermost_truncate]

/-- Truncating first with a greater limit makes no difference. -/
theorem zipWith_truncate_truncate {limit limit' : Int} (lower : limit ≤ limit') (depths : List Int)
    (types : List Node) :
    List.zipWith (Node.truncate limit) depths (List.zipWith (Node.truncate limit') depths types) =
      List.zipWith (Node.truncate limit) depths types := by
  induction depths generalizing types with
  | nil => rfl
  | cons depth rest inductionHypothesis =>
    cases types with
    | nil => rfl
    | cons type others =>
      simp only [List.zipWith_cons_cons, Node.truncate_truncate lower, inductionHypothesis]

/-- Under a lower greatest depth a document gives the same schema with nested classes truncated, in
each type from the depth on that its nested classes have. There is one depth for each type, and what
lies outside nested classes is the same. -/
theorem recognize_of_maxDepth_le (config : Config) {limit limit' : Int} (lower : limit ≤ limit')
    (root : Element) :
    recognize { config with maxDepth := limit } root =
        (recognize { config with maxDepth := limit' } root).map
          (truncateTypes limit (nestingDepths config root)) ∧
      (∀ schema, recognize { config with maxDepth := limit' } root = some schema →
        schema.types.map List.length = some (nestingDepths config root).length) ∧
      (recognize { config with maxDepth := limit } root).map outermostTypes =
        (recognize { config with maxDepth := limit' } root).map outermostTypes := by
  rw [recognize_eq, recognize_eq]
  by_cases named : root.isNamed "schema"
  · simp only [named, if_true, Option.map_some, outermostTypes, map_outermost_truncatedType?,
      and_true]
    constructor
    · simp only [truncateTypes, filterMap_truncatedType?, nestingDepths, Option.map_some,
        zipWith_truncate_truncate lower]
    · intro schema given
      cases given
      simp only [Option.map_some, length_nestingDepths]
  · simp [named]

/-- One level less, and the innermost class of the sample has no fields. -/
theorem recognize_addressed_truncated :
    (11 : Int) ≤ 12 ∧
      recognize { maxDepth := 11 } addressed =
        (recognize { maxDepth := 12 } addressed).map
          (truncateTypes 11 (nestingDepths {} addressed)) :=
  ⟨by decide, (recognize_of_maxDepth_le {} (by decide) addressed).1⟩

end SchemaTypes.Schema
