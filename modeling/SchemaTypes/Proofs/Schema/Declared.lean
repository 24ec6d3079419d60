import SchemaTypes.Proofs.Element.Correspondence
import SchemaTypes.Proofs.Schema.Shape

/-!
# The forms of declared types

Whichever way a child of a schema is read, what it declares has one of four forms: the class around
an element with a type, a class or a group with fields that are listed inside the child, or what a
restriction makes of a name. What holds of every form holds of every declared type.
-/

namespace SchemaTypes

namespace Element

variable {content sequence element : Element}

/-- The content of an element is inside it. -/
theorem mem_everyElement_of_contentNamed? {tag : String}
    (found : element.contentNamed? tag = some content) : content ∈ element.everyElement :=
  mem_everyElement_of_mem_plainChildren (mem_plainChildren_of_contentNamed? found)

/-- The sequence in the type of an element is in the element. -/
theorem mem_everyElement_of_sequenceInType? (found : element.sequenceInType? = some sequence) :
    sequence ∈ element.everyElement := by
  obtain ⟨type, holdsType, holdsSequence⟩ := Option.bind_eq_some_iff.1 found
  exact mem_everyElement_trans (mem_everyElement_of_contentNamed? holdsSequence)
    (mem_everyElement_of_contentNamed? holdsType)

end Element

namespace Schema.Outline

/-- The restriction in the simple type that an element declares or holds. -/
def restriction? (element : Element) : Option Element :=
  (if element.isNamed "element" then element.contentNamed? "simpleType" else some element).bind
    (·.contentNamed? "restriction")

/-- What a restriction makes of a name. -/
inductive Restricts (config : Config) (restriction : Element) : Node → Prop where
  | aliasType (name : Option String)
      (spelled : TypeName.isIntegerLike (restriction.get? "base") = true) :
      Restricts config restriction
        { kind := Kind.aliasType
          name
          type := some (TypeName.target config.overrides (restriction.get? "base")) }
  | enumeration (name : Option String)
      (other : TypeName.isIntegerLike (restriction.get? "base") = false)
      (spelled : TypeName.isTextLike (restriction.get? "base") = true) :
      Restricts config restriction
        { kind := Kind.enumeration, name, values := some (values restriction) }

/-- Fields that are listed inside an element: in a sequence, as attributes, or as attributes and
references to groups of the element itself. -/
inductive ListsFields (config : Config) (element : Element) : List Node → Prop where
  | sequence {sequence : Element} (inside : sequence ∈ element.everyElement) :
      ListsFields config element (fields config sequence)
  | attributes {type : Element} (inside : type ∈ element.everyElement) :
      ListsFields config element (attributeFields config type)
  | members : ListsFields config element (attributeMembers config element)

/-- What a child of a schema declares. -/
inductive Declares (config : Config) (element : Element) : Node → Prop where
  | wrapper {type : String} (typed : given? element "type" = some type) :
      Declares config element
        { kind := Kind.classType
          name := some ("For" ++ (title? element).getD "")
          fields := some [fieldOf config element] }
  | classType (base : Option String) {fields : Option (List Node)}
      (lists : ∀ listed, fields = some listed → ListsFields config element listed) :
      Declares config element { kind := Kind.classType, name := title? element, base, fields }
  | group (name : String) {fields : List Node} (lists : ListsFields config element fields) :
      Declares config element (groupOf name fields)
  | restricted {restriction : Element} {node : Node} (holds : restriction? element = some restriction)
      (restricts : Restricts config restriction node) : Declares config element node

variable {config : Config} {element : Element} {node : Node}

/-- A class with listed fields is declared, if it goes by the element's own title. -/
theorem declares_classOf {listed : List Node} (lists : ListsFields config element listed) :
    Declares config element (classOf element listed) :=
  .classType none fun _ same => Option.some.inj same ▸ lists

/-- A simple type is made by its restriction. -/
theorem restricts_of_simpleType? {name : Option String}
    (declared : simpleType? config name element = some node) :
    ∃ restriction, element.contentNamed? "restriction" = some restriction ∧
      Restricts config restriction node := by
  obtain ⟨restriction, found, declared⟩ := Option.bind_eq_some_iff.1 declared
  refine ⟨restriction, found, ?_⟩
  simp only at declared
  split at declared
  · next spelled =>
    cases declared
    exact .aliasType name spelled
  · next other =>
    split at declared
    · next spelled =>
      cases declared
      exact .enumeration name (by simpa using other) spelled
    · cases declared

/-- What an element is made by its content is declared there. -/
theorem declares_of_contentType? (isElement : element.isNamed "element" = true) {content : Element}
    (found : element.content? = some content)
    (declared : contentType? config element content = some node) : Declares config element node := by
  have inside : content ∈ element.everyElement :=
    Element.mem_everyElement_of_mem_plainChildren (List.mem_of_head? found)
  rw [contentType?] at declared
  split at declared
  · next simple =>
    obtain ⟨restriction, holds, restricts⟩ := restricts_of_simpleType? declared
    refine .restricted ?_ restricts
    rw [restriction?, if_pos isElement, contentNamed?_of_content? found, if_pos simple]
    exact holds
  · split at declared
    · split at declared
      · next sequence holds =>
        cases declared
        exact declares_classOf (.sequence
          (Element.mem_everyElement_trans (Element.mem_everyElement_of_contentNamed? holds) inside))
      · cases declared
        exact declares_classOf (.attributes inside)
    · cases declared

/-- What an element declares is one of the declarations. -/
theorem declares_of_elementType? (isElement : element.isNamed "element" = true)
    (declared : elementType? config element = some node) : Declares config element node := by
  rw [elementType?] at declared
  split at declared
  · next type typed =>
    rw [wrapper?] at declared
    split at declared
    · cases declared
      exact .wrapper typed
    · cases declared
  · obtain ⟨content, found, declared⟩ := Option.bind_eq_some_iff.1 declared
    exact declares_of_contentType? isElement found declared

/-- The sequence of an extension is in the complex type. -/
theorem mem_everyElement_of_extension? {extension sequence : Element}
    (found : extension? element = some (extension, sequence)) :
    sequence ∈ element.everyElement := by
  obtain ⟨content, holdsContent, found⟩ := Option.bind_eq_some_iff.1 found
  obtain ⟨inner, holdsExtension, found⟩ := Option.bind_eq_some_iff.1 found
  obtain ⟨added, holdsSequence, same⟩ := Option.map_eq_some_iff.1 found
  cases same
  exact Element.mem_everyElement_trans
    (Element.mem_everyElement_trans (Element.mem_everyElement_of_contentNamed? holdsSequence)
      (Element.mem_everyElement_of_contentNamed? holdsExtension))
    (Element.mem_everyElement_of_contentNamed? holdsContent)

/-- What a complex type declares is one of the declarations. -/
theorem declares_of_complexType? (declared : complexType? config element = some node) :
    Declares config element node := by
  rw [complexType?] at declared
  split at declared
  · cases declared
  · split at declared
    · next sequence holds =>
      cases declared
      exact declares_classOf (.sequence (Element.mem_everyElement_of_contentNamed? holds))
    · next extension sequence _ holds =>
      cases declared
      refine .classType (extension.get? "base") ?_
      rintro listed ⟨⟩
      exact .sequence (mem_everyElement_of_extension? holds)
    · split at declared
      · cases declared
        exact declares_classOf .members
      · cases declared
        exact .classType none (by simp)

/-- What a child of a schema declares has one of the forms. -/
theorem declares_of_type? (declared : type? config element = some node) :
    Declares config element node := by
  rw [type?] at declared
  split at declared
  · next isElement => exact declares_of_elementType? isElement declared
  next notElement =>
  split at declared
  · exact declares_of_complexType? declared
  split at declared
  · obtain ⟨name, -, declared⟩ := Option.bind_eq_some_iff.1 declared
    obtain ⟨sequence, holds, rfl⟩ := Option.map_eq_some_iff.1 declared
    exact .group name (.sequence (Element.mem_everyElement_of_contentNamed? holds))
  split at declared
  · obtain ⟨name, -, rfl⟩ := Option.map_eq_some_iff.1 declared
    exact .group name (.attributes element.self_mem_everyElement)
  split at declared
  · obtain ⟨name, -, declared⟩ := Option.bind_eq_some_iff.1 declared
    obtain ⟨restriction, holds, restricts⟩ := restricts_of_simpleType? declared
    refine .restricted ?_ restricts
    rw [restriction?, if_neg notElement]
    exact holds
  · cases declared

end Schema.Outline

end SchemaTypes
