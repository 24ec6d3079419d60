import SchemaTypes.Proofs.Schema.Productions

/-!
# What the productions for types read

The thirteen alternatives for a type, one by one. An alternative reads the elements with one tag,
and what it makes of them is what the outline says for its case; which case counts where several
alternatives share a tag is left to the order of the alternatives.
-/

namespace SchemaTypes.Schema

open Pattern

variable (config : Config) (depth : Int)

/-! ## Names -/

/-- The name for an element is its title behind the fixed beginning. -/
theorem nameFor_eq_title? (beginning : String) (element : Element) :
    Node.nameFor beginning (element.get? "name") =
      match Outline.title? element with
      | some title => some (beginning ++ title)
      | none => if beginning = "" then none else some beginning := by
  rw [Outline.title?, given?]
  cases element.get? "name" with
  | none => rfl
  | some name =>
    by_cases empty : name = ""
    · simp [Node.nameFor, empty, Option.filter]
    · simp [Node.nameFor, empty, Option.filter]

/-- Only an element without a type makes a class of its own, which goes by its title. -/
theorem namedClass_eq (element : Element) :
    namedClass element =
      if (given? element "type").isSome then none
      else some { kind := Kind.classType, name := Outline.title? element } := by
  rw [namedClass, Node.withName, nameFor_eq_title?]
  cases Outline.title? element <;> simp

/-- A named group goes by the capital form of its name. -/
theorem namedGroup_eq (element : Element) :
    namedGroup element =
      (given? element "name").map fun name =>
        { kind := Kind.group, name := some (Text.capitalizeFirst name) } := by
  rw [namedGroup, given?]
  cases element.get? "name" with
  | none => rfl
  | some name =>
    by_cases empty : name = ""
    · simp [empty, Option.filter]
    · simp [Node.withName, Node.nameFor, empty, Option.filter]

/-! ## Simple types -/

/-- The alias for what a simple type belongs to, if that restricts a whole number type. -/
def aliasIn (own : Node) (simpleType : Element) : Option Node :=
  (simpleType.contentNamed? "restriction").bind fun restriction =>
    (integerRestriction config restriction).map (Assembly.aliasType own)

/-- The enumeration for what a simple type belongs to, if that restricts a text type. -/
def enumerationIn (own : Node) (simpleType : Element) : Option Node :=
  (simpleType.contentNamed? "restriction").bind fun restriction =>
    (textRestriction restriction).map fun base =>
      Assembly.enumeration own { base with items := some (Outline.values restriction) }

variable {graph : Bindings}

/-- A restriction of a whole number type is read as the type an alias has. -/
theorem reads_integerBase :
    Reads graph depth (element (integerBase config))
      (onTag "restriction" (integerRestriction config)) :=
  reads_single (follows_terminal "restriction:int" "restriction" (by decide))

/-- A restriction of a text type is read as the values it lists. -/
theorem reads_listedValues :
    Reads graph depth listedValues
      (onTag "restriction" fun restriction => (textRestriction restriction).map fun base =>
        { base with items := some (Outline.values restriction) }) := by
  have value : Reads graph (depth + 1 + 1) (element (terminal "enumeration" enumValue))
      (onTag "enumeration" enumValue) :=
    reads_single (follows_terminal "enumeration" "enumeration" (by decide))
  refine (reads_around (follows_terminal "restriction:str" "restriction" (by decide))
    (readsContent_collect (.cons value .nil))).congr fun restriction => ?_
  have values : restriction.plainChildren.filterMap (onTag "enumeration" enumValue) =
      Outline.values restriction := rfl
  simp only [onTag, textRestriction, firstOf_singleton, values]
  split
  · split <;> simp [Node.merge]
  · rfl

/-- A simple type with a name is read as an alias if it restricts a whole number type. -/
theorem reads_namedAlias :
    Reads graph depth (namedAlias config)
      (onTag "simpleType" fun element =>
        (namedSimpleType element).bind fun own => aliasIn config own element) := by
  refine (reads_holding (follows_terminal "simpleType:named" "simpleType" (by decide))
    (readsContent_of_onTag matchesFirstVisible_single
      (reads_integerBase config (depth + 1)))).congr fun element => ?_
  simp only [aliasIn, Option.map_bind]
  rfl

/-- A simple type with a name is read as an enumeration if it restricts a text type. -/
theorem reads_namedEnumeration :
    Reads graph depth namedEnumeration
      (onTag "simpleType" fun element =>
        (namedSimpleType element).bind fun own => enumerationIn own element) := by
  refine (reads_holding (follows_terminal "simpleType:named" "simpleType" (by decide))
    (readsContent_of_onTag matchesFirstVisible_link
      (reads_listedValues (depth + 1)))).congr fun element => ?_
  simp only [enumerationIn, Option.map_bind, Option.map_map, Function.comp_def]

/-- An element with a simple type is read as an alias if that restricts a whole number type. -/
theorem reads_elementAlias :
    Reads graph depth (elementAlias config)
      (onTag "element" fun element => (elementSimpleType element).bind fun own =>
        (element.contentNamed? "simpleType").bind (aliasIn config own)) := by
  refine (reads_holding (follows_terminal "element:enum" "element" (by decide))
    (readsContent_of_onTag matchesFirstVisible_link (reads_through "simpleType" (by decide)
      (readsContent_of_onTag matchesFirstVisible_single
        (reads_integerBase config (depth + 1 + 1)))))).congr fun element => ?_
  simp only [Option.map_bind, Option.map_map, Function.comp_def]
  rfl

/-- An element with a simple type is read as an enumeration if that restricts a text type. -/
theorem reads_elementEnumeration :
    Reads graph depth elementEnumeration
      (onTag "element" fun element => (elementSimpleType element).bind fun own =>
        (element.contentNamed? "simpleType").bind (enumerationIn own)) := by
  refine (reads_holding (follows_terminal "element:enum" "element" (by decide))
    (readsContent_of_onTag matchesFirstVisible_link (reads_through "simpleType" (by decide)
      (readsContent_of_onTag matchesFirstVisible_link
        (reads_listedValues (depth + 1 + 1)))))).congr fun element => ?_
  simp only [Option.map_bind, Option.map_map, Function.comp_def]
  rfl

/-- The alias and then the enumeration are what the outline makes of a simple type. -/
theorem aliasIn_or_enumerationIn (name : Option String) (simpleType : Element) :
    (aliasIn config { kind := Kind.simpleType, name } simpleType).or
      (enumerationIn { kind := Kind.simpleType, name } simpleType) =
        Outline.simpleType? config name simpleType := by
  rw [aliasIn, enumerationIn, Outline.simpleType?]
  cases simpleType.contentNamed? "restriction" with
  | none => rfl
  | some restriction =>
    simp only [Option.bind_some, integerRestriction, textRestriction]
    by_cases whole : TypeName.isIntegerLike (restriction.get? "base")
    · simp [whole, Assembly.aliasType]
    · by_cases text : TypeName.isTextLike (restriction.get? "base")
      · simp [whole, text, Assembly.enumeration, Assembly.collected]
      · simp [whole, text]

/-! ## Classes and groups -/

/-- What is left of fields when classes nested in them are at a depth. -/
def cut (fields : List Node) : List Node := fields.map (Node.truncateField config.maxDepth depth)

/-- An attribute is read as the field it declares. -/
theorem reads_attributeDeclaration :
    Reads graph depth (attributeDeclaration config) (Outline.attributeField? config) :=
  reads_single (follows_terminal "attribute" "attribute" (by decide))

/-- What an element holds is read as its attributes. -/
theorem readsContent_attributes {name : String} :
    ReadsContent graph depth (.collect name [attributeDeclaration config]) fun element =>
      some { kind := Kind.collection, items := some (Outline.attributeFields config element) } := by
  refine (readsContent_collect (.cons (reads_attributeDeclaration config (depth + 1)) .nil)).congr
    fun element => ?_
  rw [firstOf_singleton]
  rfl

/-- A sequence is read as its fields. -/
theorem reads_fieldSequence :
    Reads (bindings config) depth (fieldSequence config)
      (onTag "sequence" fun element =>
        some { kind := "sequence"
               fields := some (cut config (depth + 7) (Outline.fields config element)) }) := by
  refine (reads_holding (follows_plain "sequence" (by decide))
    (readsContent_collect (.cons (reads_field config (depth + 1 + 1)) .nil))).congr
      fun element => ?_
  rw [show depth + 1 + 1 + 5 = depth + 7 by omega]
  simp only [firstOf_singleton, Outline.fields, cut, List.map_filterMap]
  rfl

/-- The complex content of a type that extends another is read as the fields that it adds and the
type that it extends. -/
theorem reads_extendedContent :
    Reads (bindings config) depth (extendedContent config)
      (onTag "complexContent" fun content =>
        (content.contentNamed? "extension").bind fun extension =>
          (extension.contentNamed? "sequence").map fun sequence =>
            { kind := "complexContent"
              base := extension.get? "base"
              fields := some (cut config (depth + 9) (Outline.fields config sequence)) }) := by
  refine (reads_through "complexContent" (by decide) (readsContent_of_onTag matchesFirstVisible_link
    (reads_around (follows_terminal "extension" "extension" (by decide))
      (readsContent_of_onTag matchesFirstVisible_link
        (reads_fieldSequence config (depth + 1 + 1)))))).congr fun element => ?_
  rw [show depth + 1 + 1 + 7 = depth + 9 by omega]
  simp only [onTag]
  cases element.contentNamed? "extension" with
  | none => rfl
  | some extension =>
    cases sequence : extension.contentNamed? "sequence" with
    | none => simp [Schema.extension, sequence]
    | some sequence => simp [Schema.extension, sequence, Node.merge]

/-- The class of an element whose complex type holds a sequence. -/
theorem reads_elementClass :
    Reads (bindings config) depth (elementClass config)
      (onTag "element" fun element => (namedClass element).bind fun own =>
        element.sequenceInType?.map fun sequence =>
          { own with
            fields := some (cut config (depth + 9) (Outline.fields config sequence)) }) := by
  refine (reads_around (follows_terminal "element:class" "element" (by decide))
    (readsContent_of_onTag matchesFirstVisible_link (reads_through "complexType" (by decide)
      (readsContent_of_onTag matchesFirstVisible_link
        (reads_fieldSequence config (depth + 1 + 1)))))).congr fun element => ?_
  rw [show depth + 1 + 1 + 7 = depth + 9 by omega]
  simp only [onTag, Element.sequenceInType?]
  cases element.contentNamed? "complexType" with
  | none => simp
  | some type => cases sequence : type.contentNamed? "sequence" <;> simp [sequence]

/-- The class of a complex type that holds a sequence or extends another type by one. -/
theorem reads_complexClass :
    Reads (bindings config) depth (complexClass config)
      (onTag "complexType" fun element => (namedClass element).bind fun own =>
        ((element.contentNamed? "sequence").map fun sequence =>
          { own with
            fields := some (cut config (depth + 9) (Outline.fields config sequence)) }).or
        ((Outline.extension? element).map fun (extension, sequence) =>
          { own with
            base := (extension.get? "base").or own.base
            fields := some (cut config (depth + 11) (Outline.fields config sequence)) })) := by
  have options : Reads (bindings config) (depth + 1)
      (anyOf [fieldSequence config, extendedContent config]) _ :=
    reads_oneOf (.cons (reads_fieldSequence config (depth + 1 + 1))
      (.cons (reads_extendedContent config (depth + 1 + 1)) .nil))
  refine (reads_around (follows_terminal "complexType:class" "complexType" (by decide))
    (Reads.content (matchesFirstVisible_oneOf ?_) options)).congr fun element => ?_
  · simp only [List.forall_mem_cons]
    exact ⟨matchesFirstVisible_link, matchesFirstVisible_link, by simp⟩
  rw [show depth + 1 + 1 + 7 = depth + 9 by omega, show depth + 1 + 1 + 9 = depth + 11 by omega]
  simp only [onTag, content?_bind_firstOf, Outline.extension?]
  cases element.contentNamed? "sequence" with
  | some sequence => simp
  | none =>
    cases element.contentNamed? "complexContent" with
    | none => simp
    | some content =>
      cases extended : content.contentNamed? "extension" with
      | none => simp [extended]
      | some extension =>
        cases sequence : extension.contentNamed? "sequence" with
        | none => simp [extended, sequence]
        | some sequence => simp [extended, sequence, Node.merge]

/-- The class of a complex type that extends another type by a sequence. -/
theorem reads_extendedClass :
    Reads (bindings config) depth (extendedClass config)
      (onTag "complexType" fun element => (namedClass element).bind fun own =>
        (Outline.extension? element).map fun (extension, sequence) =>
          { own with
            base := (extension.get? "base").or own.base
            fields := some (cut config (depth + 10) (Outline.fields config sequence)) }) := by
  refine (reads_around (follows_terminal "complexType:class" "complexType" (by decide))
    (readsContent_of_onTag matchesFirstVisible_link
      (reads_extendedContent config (depth + 1)))).congr fun element => ?_
  rw [show depth + 1 + 9 = depth + 10 by omega]
  simp only [onTag, Outline.extension?]
  cases element.contentNamed? "complexContent" with
  | none => simp
  | some content =>
    cases extended : content.contentNamed? "extension" with
    | none => simp [extended]
    | some extension =>
      cases sequence : extension.contentNamed? "sequence" with
      | none => simp [extended, sequence]
      | some sequence => simp [extended, sequence, Node.merge]

/-- The group of a named group that holds a sequence. -/
theorem reads_groupType :
    Reads (bindings config) depth (groupType config)
      (onTag "group" fun element => (namedGroup element).bind fun own =>
        (element.contentNamed? "sequence").map fun sequence =>
          { own with
            fields := some (cut config (depth + 8) (Outline.fields config sequence)) }) := by
  refine (reads_around (follows_terminal "group:named" "group" (by decide))
    (readsContent_of_onTag matchesFirstVisible_link
      (reads_fieldSequence config (depth + 1)))).congr fun element => ?_
  rw [show depth + 1 + 7 = depth + 8 by omega]
  simp only [onTag]
  cases element.contentNamed? "sequence" <;> simp

/-- An element with a builtin type is read as a wrapper. -/
theorem reads_wrapperType :
    Reads graph depth (wrapperType config) (onTag "element" (wrapperClass config)) :=
  reads_single (follows_terminal "element:topFld" "element" (by decide))

/-- The group of a named group of attributes. -/
theorem reads_attributeGroup :
    Reads graph depth (attributeGroup config)
      (onTag "attributeGroup" fun element => (namedGroup element).map fun own =>
        { own with fields := some (Outline.attributeFields config element) }) := by
  refine (reads_holding (follows_terminal "attributeGroup:attrGrp" "attributeGroup" (by decide))
    (readsContent_attributes config (depth + 1))).congr fun element => ?_
  simp only [onTag]
  cases namedGroup element <;> rfl

/-- The class of an element whose complex type holds attributes. -/
theorem reads_elementAttributeClass :
    Reads graph depth (elementAttributeClass config)
      (onTag "element" fun element => (namedClass element).bind fun own =>
        (element.contentNamed? "complexType").map fun type =>
          { own with fields := some (Outline.attributeFields config type) }) := by
  refine (reads_around (follows_terminal "element:class" "element" (by decide))
    (readsContent_of_onTag matchesFirstVisible_link
      (reads_holding (follows_plain "complexType" (by decide))
        (readsContent_attributes config (depth + 1 + 1))))).congr fun element => ?_
  simp only [onTag]
  cases element.contentNamed? "complexType" <;> simp [Assembly.fields, Assembly.collected]

/-- The class of a complex type that holds attributes and references to groups. -/
theorem reads_complexAttributeClass :
    Reads graph depth (complexAttributeClass config)
      (onTag "complexType" fun element => (attributeClass element).map fun own =>
        { own with fields := some (Outline.attributeMembers config element) }) := by
  have members : firstOf [onTag "group" Outline.groupReference?, Outline.attributeField? config] =
      fun child => if child.isNamed "group" then Outline.groupReference? child
        else Outline.attributeField? config child := by
    funext child
    simp only [firstOf_cons, firstOf_nil, Option.or_none, onTag, Outline.attributeField?]
    by_cases group : child.isNamed "group"
    · simp [group, Element.isNamed_of_ne "attribute" group (by decide)]
    · simp [group]
  refine (reads_holding (follows_terminal "complexType:attrs" "complexType" (by decide))
    (readsContent_collect (.cons (reads_groupField (depth + 1 + 1))
      (.cons (reads_attributeDeclaration config (depth + 1 + 1)) .nil)))).congr fun element => ?_
  simp only [onTag, members, Option.map_some]
  cases attributeClass element <;> rfl

/-- A complex type without content is read as a class without fields. -/
theorem reads_emptyClass : Reads graph depth emptyClass (onTag "complexType" namedClass) :=
  reads_single (follows_terminal "complexType:class" "complexType" (by decide))

end SchemaTypes.Schema
