import SchemaTypes.Proofs.Element.Content
import SchemaTypes.Schema.Construct

/-!
# What a schema declares

The declarations of a schema, read off the elements directly: by the tag of an element, by its
attributes, and by its content, which is its first child that is no remark. There are no patterns
here, no order of alternatives and no depth; fields nest as far as the document does.
-/

namespace SchemaTypes

namespace Element

/-- The sequence in the complex type that an element holds. -/
def sequenceInType? (element : Element) : Option Element :=
  (element.contentNamed? "complexType").bind (·.contentNamed? "sequence")

theorem sizeOf_lt_of_sequenceInType? {sequence element : Element}
    (found : element.sequenceInType? = some sequence) : sizeOf sequence < sizeOf element := by
  obtain ⟨type, holdsType, holdsSequence⟩ := Option.bind_eq_some_iff.1 found
  have inType := sizeOf_lt_of_mem_plainChildren (mem_plainChildren_of_contentNamed? holdsSequence)
  have inElement := sizeOf_lt_of_mem_plainChildren (mem_plainChildren_of_contentNamed? holdsType)
  omega

/-- Induction over the nesting of fields: what holds of an element if it holds of every element in
the sequence of its complex type holds of every element. -/
theorem nesting_induction {motive : Element → Prop}
    (step : ∀ element, (∀ sequence, element.sequenceInType? = some sequence →
      ∀ child ∈ sequence.plainChildren, motive child) → motive element) (element : Element) :
    motive element :=
  step element fun _ found child member =>
    have := sizeOf_lt_of_sequenceInType? found
    have := sizeOf_lt_of_mem_plainChildren member
    nesting_induction step child
  termination_by sizeOf element

end Element

namespace Schema.Outline

open SchemaTypes.Text

variable (config : Config)

/-- The capital form of an element's name, unless that is absent or empty. -/
def title? (element : Element) : Option String :=
  (given? element "name").map capitalizeFirst

/-- The reference to a group that an element makes, unless that is absent or empty. -/
def groupReference? (element : Element) : Option Node :=
  (given? element "ref").map fun ref => { kind := Kind.groupReference, ref := some ref }

/-- The field an element with a type declares. -/
def typedField? (element : Element) : Option Node :=
  if (given? element "type").isSome then some (fieldOf config element) else none

/-- The field with a class of its own. The class goes by the type of the field, and both are the
capital form of the element's name, also if that is empty. -/
def nestingField (element : Element) (fields : List Node) : Node :=
  let title := (element.get? "name").map capitalizeFirst
  { kind := Kind.field
    fieldName := element.get? "name"
    fieldType := title
    nestedClass := some { kind := Kind.classType, name := title, fields := some fields } }

private theorem filterMap_attach {α β : Type} (items : List α) (read : α → Option β) :
    items.attach.filterMap (fun item => read item.1) = items.filterMap read :=
  calc items.attach.filterMap (fun item => read item.1)
      = (items.attach.map Subtype.val).filterMap read := by rw [List.filterMap_map]; rfl
    _ = items.filterMap read := by rw [List.attach_map_subtype_val]

/-- The field that an element declares in a sequence. A sequence in the element's own complex type
comes before the element's type, and its fields are read the same way. -/
def field? (element : Element) : Option Node :=
  if element.isNamed "element" then
    match found : element.sequenceInType? with
    | some sequence =>
      some (nestingField element (sequence.plainChildren.attach.filterMap fun child =>
        have := Element.sizeOf_lt_of_mem_plainChildren child.2
        have := Element.sizeOf_lt_of_sequenceInType? found
        field? child.1))
    | none => typedField? config element
  else if element.isNamed "group" then groupReference? element
  else none
  termination_by sizeOf element

/-- The fields in a sequence. -/
def fields (sequence : Element) : List Node := sequence.plainChildren.filterMap (field? config)

/-- An element in a sequence is a field with a class if it has a sequence, and otherwise one with a
type, and a group is a reference. -/
theorem field?_eq (element : Element) :
    field? config element =
      if element.isNamed "element" then
        match element.sequenceInType? with
        | some sequence => some (nestingField element (fields config sequence))
        | none => typedField? config element
      else if element.isNamed "group" then groupReference? element
      else none := by
  rw [field?]
  split
  · split
    · next sequence found => simp only [found, fields, filterMap_attach]
    · next found => simp only [found]
  · rfl

/-- The field of an attribute. -/
def attributeField? (element : Element) : Option Node :=
  if element.isNamed "attribute" then some (fieldOf config element) else none

/-- The attributes among the children of an element. -/
def attributeFields (element : Element) : List Node :=
  element.plainChildren.filterMap (attributeField? config)

/-- The attributes and references to groups among the children of an element. -/
def attributeMembers (element : Element) : List Node :=
  element.plainChildren.filterMap fun child =>
    if child.isNamed "group" then groupReference? child else attributeField? config child

/-- The values that a restriction lists. -/
def values (restriction : Element) : List Node :=
  restriction.plainChildren.filterMap fun child =>
    if child.isNamed "enumeration" then
      (given? child "value").map fun value => { kind := Kind.enumValue, value := some value }
    else none

/-- What a name stands for that belongs to a simple type: an alias if the type restricts a whole
number type, and an enumeration if it restricts a text type. -/
def simpleType? (name : Option String) (simpleType : Element) : Option Node :=
  (simpleType.contentNamed? "restriction").bind fun restriction =>
    let base := restriction.get? "base"
    if TypeName.isIntegerLike base then
      some { kind := Kind.aliasType, name, type := some (TypeName.target config.overrides base) }
    else if TypeName.isTextLike base then
      some { kind := Kind.enumeration, name, values := some (values restriction) }
    else none

/-- A class with fields that goes by the name of an element. -/
def classOf (element : Element) (fields : List Node) : Node :=
  { kind := Kind.classType, name := title? element, fields := some fields }

/-- The class around a top level element of a builtin type. -/
def wrapper? (element : Element) (type : String) : Option Node :=
  if occursIn (config.namespacePrefix ++ ":").toList type.toList then
    some { kind := Kind.classType
           name := some ("For" ++ (title? element).getD "")
           fields := some [fieldOf config element] }
  else none

/-- What the content of an element without a type makes of the element: a simple type or a class. -/
def contentType? (element content : Element) : Option Node :=
  if content.isNamed "simpleType" then simpleType? config (element.get? "name") content
  else if content.isNamed "complexType" then
    match content.contentNamed? "sequence" with
    | some sequence => some (classOf element (fields config sequence))
    | none => some (classOf element (attributeFields config content))
  else none

/-- The type that a top level element declares. -/
def elementType? (element : Element) : Option Node :=
  match given? element "type" with
  | some type => wrapper? config element type
  | none => element.content?.bind (contentType? config element)

/-- An extension and the sequence it adds, in the complex content of a complex type. -/
def extension? (element : Element) : Option (Element × Element) :=
  (element.contentNamed? "complexContent").bind fun content =>
    (content.contentNamed? "extension").bind fun extension =>
      (extension.contentNamed? "sequence").map fun sequence => (extension, sequence)

/-- The class that a complex type declares: with the fields of its sequence, with those of the
sequence it extends another type by, with its attributes, or without fields. -/
def complexType? (element : Element) : Option Node :=
  if (given? element "type").isSome then none
  else match element.contentNamed? "sequence", extension? element with
    | some sequence, _ => some (classOf element (fields config sequence))
    | none, some (extension, sequence) =>
      some { classOf element (fields config sequence) with base := extension.get? "base" }
    | none, none =>
      if declaresAttributes element then some (classOf element (attributeMembers config element))
      else some { kind := Kind.classType, name := title? element }

/-- A group with fields that goes by a name. -/
def groupOf (name : String) (fields : List Node) : Node :=
  { kind := Kind.group, name := some (capitalizeFirst name), fields := some fields }

/-- The type that a child of a schema declares. -/
def type? (element : Element) : Option Node :=
  if element.isNamed "element" then elementType? config element
  else if element.isNamed "complexType" then complexType? config element
  else if element.isNamed "group" then
    (given? element "name").bind fun name =>
      (element.contentNamed? "sequence").map fun sequence => groupOf name (fields config sequence)
  else if element.isNamed "attributeGroup" then
    (given? element "name").map fun name => groupOf name (attributeFields config element)
  else if element.isNamed "simpleType" then
    (given? element "name").bind fun name => simpleType? config (some name) element
  else none

/-- The types that a schema declares, in the order of the document. -/
def types (root : Element) : List Node := root.plainChildren.filterMap (type? config)

end Schema.Outline

end SchemaTypes
