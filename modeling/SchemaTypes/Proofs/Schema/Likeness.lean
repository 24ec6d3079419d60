import SchemaTypes.Proofs.Element.Correspondence
import SchemaTypes.Proofs.Schema.Recognition

/-!
# Documents that look alike

Of an element a reading looks at the local name, at the name and the type, and at what else its tag
calls for; of a configuration it looks at what that makes of the types it comes across. Two
documents of one shape that look alike this far, each under a configuration of its own, are read
alike: every declaration of the outline looks only where the elements of both are known to agree.
-/

namespace SchemaTypes.Schema

open SchemaTypes.Text

/-- Whether the prefix of the schema namespace occurs in a type with a colon behind it. -/
def namesBuiltin (config : Config) (type : String) : Bool :=
  occursIn (config.namespacePrefix ++ ":").toList type.toList

/-- Two elements that look alike, each under a configuration of its own. Attributes are compared
where the tag calls for them. -/
structure LooksAlike (left right : Config) (element element' : Element) : Prop where
  localName? : element.localName? = element'.localName?
  name : element.get? "name" = element'.get? "name"
  type : element.get? "type" = element'.get? "type"
  ref : element.isNamed "group" = true → element.get? "ref" = element'.get? "ref"
  value : element.isNamed "enumeration" = true → element.get? "value" = element'.get? "value"
  base : element.isNamed "extension" = true ∨ element.isNamed "restriction" = true →
    element.get? "base" = element'.get? "base"
  field : element.isNamed "element" = true ∨ element.isNamed "attribute" = true →
    fieldOf left element = fieldOf right element'
  target : element.isNamed "restriction" = true →
    TypeName.target left.overrides (element.get? "base") =
      TypeName.target right.overrides (element'.get? "base")

/-- Documents that look alike, all the way down. -/
abbrev Alike (left right : Config) : Element → Element → Prop :=
  Element.Corresponds (LooksAlike left right)

variable {left right : Config} {element element' : Element}

namespace Alike

/-- Elements that look alike have the same tag. -/
theorem isNamed (alike : Alike left right element element') (tag : String) :
    element.isNamed tag = element'.isNamed tag :=
  Element.isNamed_of_corresponds (fun _ _ looks => looks.localName?) alike tag

/-- Without remarks, elements that look alike have children that look alike, one by one. -/
theorem plainChildren (alike : Alike left right element element') :
    List.Forall₂ (Alike left right) element.plainChildren element'.plainChildren :=
  Element.plainChildren_of_corresponds (fun _ _ looks => looks.localName?) alike

/-- Of elements that look alike either none has content under a tag, or both do and what they have
looks alike. -/
theorem contentNamed? (alike : Alike left right element element') (tag : String) :
    (element.contentNamed? tag = none ∧ element'.contentNamed? tag = none) ∨
      ∃ content content', element.contentNamed? tag = some content ∧
        element'.contentNamed? tag = some content' ∧ content.isNamed tag = true ∧
          Alike left right content content' :=
  Element.contentNamed?_of_corresponds (fun _ _ looks => looks.localName?) alike tag

/-- Elements that look alike are given the same name. -/
theorem given?_name (alike : Alike left right element element') :
    given? element "name" = given? element' "name" := by
  rw [given?, given?, alike.own.name]

/-- Elements that look alike are given the same type. -/
theorem given?_type (alike : Alike left right element element') :
    given? element "type" = given? element' "type" := by
  rw [given?, given?, alike.own.type]

/-- The sequences in the complex types of elements that look alike look alike. -/
theorem sequenceInType? (alike : Alike left right element element') :
    (element.sequenceInType? = none ∧ element'.sequenceInType? = none) ∨
      ∃ sequence sequence', element.sequenceInType? = some sequence ∧
        element'.sequenceInType? = some sequence' ∧ Alike left right sequence sequence' := by
  rw [Element.sequenceInType?, Element.sequenceInType?]
  obtain ⟨none, none'⟩ | ⟨type, type', found, found', -, types⟩ := alike.contentNamed? "complexType"
  · exact Or.inl ⟨by rw [none]; rfl, by rw [none']; rfl⟩
  · rw [found, found', Option.bind_some, Option.bind_some]
    obtain none | ⟨sequence, sequence', holds, holds', -, sequences⟩ :=
      types.contentNamed? "sequence"
    · exact Or.inl none
    · exact Or.inr ⟨sequence, sequence', holds, holds', sequences⟩

/-- The extensions in complex types that look alike have one base, and their sequences look
alike. -/
theorem extension? (alike : Alike left right element element') :
    (Outline.extension? element = none ∧ Outline.extension? element' = none) ∨
      ∃ extension extension' sequence sequence',
        Outline.extension? element = some (extension, sequence) ∧
        Outline.extension? element' = some (extension', sequence') ∧
        extension.get? "base" = extension'.get? "base" ∧ Alike left right sequence sequence' := by
  rw [Outline.extension?, Outline.extension?]
  obtain ⟨none, none'⟩ | ⟨content, content', found, found', -, contents⟩ :=
    alike.contentNamed? "complexContent"
  · exact Or.inl ⟨by rw [none]; rfl, by rw [none']; rfl⟩
  rw [found, found', Option.bind_some, Option.bind_some]
  obtain ⟨none, none'⟩ | ⟨extension, extension', found, found', named, extensions⟩ :=
    contents.contentNamed? "extension"
  · exact Or.inl ⟨by rw [none]; rfl, by rw [none']; rfl⟩
  rw [found, found', Option.bind_some, Option.bind_some]
  obtain ⟨none, none'⟩ | ⟨sequence, sequence', holds, holds', -, sequences⟩ :=
    extensions.contentNamed? "sequence"
  · exact Or.inl ⟨by rw [none]; rfl, by rw [none']; rfl⟩
  · rw [holds, holds']
    exact Or.inr ⟨extension, extension', sequence, sequence', rfl, rfl,
      extensions.own.base (Or.inl named), sequences⟩

end Alike

namespace Outline

/-! ## Fields -/

/-- Elements that look alike have the same capital name. -/
theorem title?_of_alike (alike : Alike left right element element') :
    title? element = title? element' := by
  rw [title?, title?, alike.given?_name]

/-- Groups that look alike refer to the same group. -/
theorem groupReference?_of_alike (alike : Alike left right element element')
    (named : element.isNamed "group" = true) :
    groupReference? element = groupReference? element' := by
  rw [groupReference?, groupReference?, given?, given?, alike.own.ref named]

/-- Elements with a type that look alike are the same field. -/
theorem typedField?_of_alike (alike : Alike left right element element')
    (named : element.isNamed "element" = true) :
    typedField? left element = typedField? right element' := by
  rw [typedField?, typedField?, alike.given?_type, alike.own.field (Or.inl named)]

/-- Elements that look alike make the same field of the fields nested in them. -/
theorem nestingField_of_alike (alike : Alike left right element element') (fields : List Node) :
    nestingField element fields = nestingField element' fields := by
  rw [nestingField, nestingField, alike.own.name]

/-- Elements that look alike declare the same field. -/
theorem field?_of_alike (alike : Alike left right element element') :
    field? left element = field? right element' := by
  induction element using Element.nesting_induction generalizing element' with
  | step element inductionHypothesis =>
    rw [field?_eq, field?_eq, ← alike.isNamed, ← alike.isNamed]
    split
    · next named =>
      obtain ⟨none, none'⟩ | ⟨sequence, sequence', found, found', sequences⟩ :=
        alike.sequenceInType?
      · rw [none, none']
        exact typedField?_of_alike alike named
      · -- The sequences lie inside, so their children declare the same fields by induction.
        simp only [found, found']
        have same : fields left sequence = fields right sequence' :=
          filterMap_eq_of_forall₂ sequences.plainChildren fun child member child' children =>
            inductionHypothesis sequence found child member children
        rw [same, nestingField_of_alike alike]
    · split
      · next named => exact groupReference?_of_alike alike named
      · rfl

/-- Sequences that look alike have the same fields. -/
theorem fields_of_alike (alike : Alike left right element element') :
    fields left element = fields right element' :=
  filterMap_eq_of_forall₂ alike.plainChildren fun _ _ _ children => field?_of_alike children

/-- Attributes that look alike are the same field. -/
theorem attributeField?_of_alike (alike : Alike left right element element') :
    attributeField? left element = attributeField? right element' := by
  rw [attributeField?, attributeField?, ← alike.isNamed]
  split
  · next named => rw [alike.own.field (Or.inr named)]
  · rfl

/-- Elements that look alike declare the same attributes. -/
theorem attributeFields_of_alike (alike : Alike left right element element') :
    attributeFields left element = attributeFields right element' :=
  filterMap_eq_of_forall₂ alike.plainChildren fun _ _ _ children =>
    attributeField?_of_alike children

/-- Attribute groups that look alike have the same members. -/
theorem attributeMembers_of_alike (alike : Alike left right element element') :
    attributeMembers left element = attributeMembers right element' := by
  refine filterMap_eq_of_forall₂ alike.plainChildren fun child _ child' children => ?_
  rw [← children.isNamed]
  split
  · next named => exact groupReference?_of_alike children named
  · exact attributeField?_of_alike children

/-! ## Simple types -/

/-- Restrictions that look alike list the same values. -/
theorem values_of_alike (alike : Alike left right element element') :
    values element = values element' := by
  refine filterMap_eq_of_forall₂ alike.plainChildren fun child _ child' children => ?_
  rw [← children.isNamed]
  split
  · next named => rw [given?, given?, children.own.value named]
  · rfl

/-- Simple types that look alike declare the same type. -/
theorem simpleType?_of_alike (alike : Alike left right element element') (name : Option String) :
    simpleType? left name element = simpleType? right name element' := by
  rw [simpleType?, simpleType?]
  obtain ⟨none, none'⟩ | ⟨restriction, restriction', found, found', named, restrictions⟩ :=
    alike.contentNamed? "restriction"
  · rw [none, none']
    rfl
  · -- The base is read twice: as written, and as the type it stands for.
    have base := restrictions.own.base (Or.inr named)
    have target := restrictions.own.target named
    rw [base] at target
    simp only [found, found', Option.bind_some, base, target, values_of_alike restrictions]

/-! ## Types -/

/-- Elements that look alike make the same class of its fields. -/
theorem classOf_of_alike (alike : Alike left right element element') (fields : List Node) :
    classOf element fields = classOf element' fields := by
  rw [classOf, classOf, title?_of_alike alike]

/-- Elements that look alike are wrapped alike, if the configurations tell builtin types by prefixes
that both occur in the type or both do not. -/
theorem wrapper?_of_alike (alike : Alike left right element element')
    (named : element.isNamed "element" = true) {type : String}
    (builtin : namesBuiltin left type = namesBuiltin right type) :
    wrapper? left element type = wrapper? right element' type := by
  have builtin : occursIn (left.namespacePrefix ++ ":").toList type.toList =
      occursIn (right.namespacePrefix ++ ":").toList type.toList := builtin
  rw [wrapper?, wrapper?, builtin, title?_of_alike alike, alike.own.field (Or.inl named)]

/-- Elements that look alike are made the same type by contents that look alike. -/
theorem contentType?_of_alike (alike : Alike left right element element')
    {content content' : Element} (contents : Alike left right content content') :
    contentType? left element content = contentType? right element' content' := by
  rw [contentType?, contentType?, ← contents.isNamed, ← contents.isNamed, alike.own.name,
    simpleType?_of_alike contents]
  split
  · rfl
  split
  · obtain ⟨none, none'⟩ | ⟨sequence, sequence', found, found', -, sequences⟩ :=
      contents.contentNamed? "sequence"
    · simp only [none, none', attributeFields_of_alike contents, classOf_of_alike alike]
    · simp only [found, found', fields_of_alike sequences, classOf_of_alike alike]
  · rfl

/-- Elements that look alike declare the same type, if both configurations agree on whether their
type is a builtin one. -/
theorem elementType?_of_alike (alike : Alike left right element element')
    (named : element.isNamed "element" = true)
    (builtin : ∀ type, element.get? "type" = some type →
      namesBuiltin left type = namesBuiltin right type) :
    elementType? left element = elementType? right element' := by
  rw [elementType?, elementType?, ← alike.given?_type]
  cases given : given? element "type" with
  | some type =>
    have written : element.get? "type" = some type := (Option.filter_eq_some_iff.1 given).1
    exact wrapper?_of_alike alike named (builtin type written)
  | none =>
    have plain := alike.plainChildren
    simp only [Element.content?]
    generalize element.plainChildren = children, element'.plainChildren = children' at plain
    cases plain with
    | nil => rfl
    | cons first _ => exact contentType?_of_alike alike first

/-- Elements that look alike both declare attributes or both do not. -/
theorem declaresAttributes_of_alike (alike : Alike left right element element') :
    declaresAttributes element = declaresAttributes element' := by
  have children := alike.children
  rw [declaresAttributes, declaresAttributes]
  generalize element.children = lefts, element'.children = rights at children
  induction children with
  | nil => rfl
  | cons first _ inductionHypothesis =>
    rw [List.any_cons, List.any_cons, first.own.localName?, inductionHypothesis]

/-- Complex types that look alike declare the same type. -/
theorem complexType?_of_alike (alike : Alike left right element element') :
    complexType? left element = complexType? right element' := by
  rw [complexType?, complexType?, alike.given?_type, declaresAttributes_of_alike alike,
    attributeMembers_of_alike alike, title?_of_alike alike]
  split
  · rfl
  obtain ⟨none, none'⟩ | ⟨sequence, sequence', found, found', -, sequences⟩ :=
    alike.contentNamed? "sequence"
  · obtain ⟨nothing, nothing'⟩ |
      ⟨extension, extension', sequence, sequence', found, found', base, sequences⟩ :=
        alike.extension?
    · simp only [none, none', nothing, nothing', classOf_of_alike alike]
    · simp only [none, none', found, found', base, fields_of_alike sequences,
        classOf_of_alike alike]
  · simp only [found, found', fields_of_alike sequences, classOf_of_alike alike]

/-- Children of schemas that look alike declare the same type. -/
theorem type?_of_alike (alike : Alike left right element element')
    (builtin : element.isNamed "element" = true → ∀ type, element.get? "type" = some type →
      namesBuiltin left type = namesBuiltin right type) :
    type? left element = type? right element' := by
  rw [type?, type?, ← alike.isNamed, ← alike.isNamed, ← alike.isNamed, ← alike.isNamed,
    ← alike.isNamed, ← alike.given?_name, ← complexType?_of_alike alike,
    ← attributeFields_of_alike alike]
  split
  · next named => exact elementType?_of_alike alike named (builtin named)
  split
  · rfl
  split
  · obtain ⟨none, none'⟩ | ⟨sequence, sequence', found, found', -, sequences⟩ :=
      alike.contentNamed? "sequence"
    · simp only [none, none', Option.map_none]
    · simp only [found, found', Option.map_some, fields_of_alike sequences]
  split
  · rfl
  split
  · simp only [simpleType?_of_alike alike]
  · rfl

end Outline

/-! ## Schemas -/

/-- The classes in the fields of what elements that look alike declare are at one depth. -/
theorem nestingDepth_of_alike (alike : Alike left right element element') :
    nestingDepth element = nestingDepth element' := by
  have extended : (Outline.extension? element).isSome = (Outline.extension? element').isSome := by
    obtain ⟨none, none'⟩ | ⟨_, _, _, _, found, found', -, -⟩ := alike.extension?
    · rw [none, none']
    · rw [found, found']
      rfl
  rw [nestingDepth, nestingDepth, alike.isNamed, alike.isNamed, extended]

/-- Documents that look alike are recognized as the same schema, if the configurations have one
greatest depth and agree on which types of top level elements are builtin. -/
theorem recognize_of_alike {root root' : Element} (alike : Alike left right root root')
    (depth : left.maxDepth = right.maxDepth)
    (builtin : ∀ child ∈ root.children, child.isNamed "element" = true →
      ∀ type, child.get? "type" = some type →
        namesBuiltin left type = namesBuiltin right type) :
    recognize left root = recognize right root' := by
  have types : root.plainChildren.filterMap (truncatedType? left) =
      root'.plainChildren.filterMap (truncatedType? right) := by
    refine filterMap_eq_of_forall₂ alike.plainChildren fun child member child' children => ?_
    rw [truncatedType?, truncatedType?, depth, nestingDepth_of_alike children,
      Outline.type?_of_alike children
        (builtin child (Element.mem_children_of_mem_plainChildren member))]
  rw [recognize_eq, recognize_eq, alike.isNamed, types]

end SchemaTypes.Schema
