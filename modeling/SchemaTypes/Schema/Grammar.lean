import SchemaTypes.Pattern.Match
import SchemaTypes.Schema.Assembly
import SchemaTypes.Schema.Construct

/-!
# The grammar of schemas

A schema is a list of types, and each child of the document element is tried against the types in
a fixed order. An element is a class only if it has no type attribute; complex types are tried with
a sequence first, then with an extension, with attributes, and as empty classes at last.

Fields occur inside fields, so the fields of a nested class are behind a reference. It is the only
one, and it is bound to the alternatives for a field.
-/

namespace SchemaTypes.Schema

open Pattern

/-- A terminal for a rule. -/
def terminal (name : String) (rule : Rule) : Terminal :=
  .building name fun cursor => rule cursor.element

/-- An element with a pattern for its content, combined by a merger. -/
def holding (terminal : Terminal) (merge : Merger) (content : Pattern) : Pattern :=
  .link terminal merge .firstChild content

/-- An element with a pattern for its content. -/
def around (terminal : Terminal) (content : Pattern) : Pattern :=
  holding terminal rightWins content

/-- An element whose children are collected, combined by a merger. -/
def listing (terminal : Terminal) (merge : Merger) (options : List Pattern) : Pattern :=
  holding terminal merge (.collect matcherName options)

/-- A merger that never rejects. -/
def always (assemble : Node → Node → Node) : Merger := fun left right => some (assemble left right)

/-! ## Terminals -/

/-- A complex type on the way to its content. -/
def complexType : Terminal := .plain "complexType"

/-- A simple type on the way to its restriction. -/
def simpleType : Terminal := .plain "simpleType"

/-- A sequence of fields. -/
def sequence : Terminal := .plain "sequence"

/-- Complex content on the way to its extension. -/
def complexContent : Terminal := .plain "complexContent"

/-- The extension in complex content. -/
def extensionElement : Terminal := terminal "extension" extension

/-- An element that may be a field with a nested class. -/
def nestingElement : Terminal := terminal "element:comp" nestingField

/-- An element that may be a class. -/
def classElement : Terminal := terminal "element:class" namedClass

/-- A complex type that may be a class. -/
def classType : Terminal := terminal "complexType:class" namedClass

/-- An element that may hold a simple type. -/
def simpleElement : Terminal := terminal "element:enum" elementSimpleType

/-- A simple type with a name. -/
def simpleTypeDefinition : Terminal := terminal "simpleType:named" namedSimpleType

/-- A restriction of a whole number type. -/
def integerBase (config : Config) : Terminal :=
  terminal "restriction:int" (integerRestriction config)

/-- A restriction of a text type. -/
def textBase : Terminal := terminal "restriction:str" textRestriction

/-! ## Fields -/

/-- A reference to a group among fields. -/
def groupField : Pattern := element (terminal "group:ref" groupReference)

/-- A field declared by an attribute. -/
def attributeDeclaration (config : Config) : Pattern :=
  element (terminal "attribute" (attributeField config))

/-- The key of the reference to the alternatives for a field. -/
def fieldKey : Nat := 0

/-- The reference to the alternatives for a field. -/
def nestedFields (config : Config) : Pattern := .reference fieldKey "Field Proxy" config.maxDepth

/-- A field with a class of its own. -/
def nestedField (config : Config) : Pattern :=
  holding nestingElement (always Assembly.nestedClass)
    (around complexType (listing sequence rightWins [nestedFields config]))

/-- A field whose class holds a single repeated field. -/
def arrayField (config : Config) : Pattern :=
  around nestingElement
    (around complexType
      (around sequence (element (terminal "element:array" (repeatedField config)))))

/-- The alternatives for a field. -/
def fieldOptions (config : Config) : List Pattern :=
  [nestedField config, arrayField config, element (terminal "element:fld" (typedField config)),
   groupField]

/-- A field. -/
def field (config : Config) : Pattern := anyOf (fieldOptions config)

/-- The only reference, bound to the alternatives for a field. -/
def bindings (config : Config) : Bindings := ⟨[(fieldKey, field config)]⟩

/-! ## Types -/

/-- A sequence whose fields become those of what it stands in. -/
def fieldSequence (config : Config) : Pattern :=
  listing sequence (always Assembly.fields) [field config]

/-- Content that extends another type by a sequence of fields. -/
def extendedContent (config : Config) : Pattern :=
  around complexContent (around extensionElement (fieldSequence config))

/-- Listed values of a text type, in a restriction. -/
def listedValues : Pattern :=
  listing textBase rightWins [element (terminal "enumeration" enumValue)]

/-- An element with a restricted whole number type. -/
def elementAlias (config : Config) : Pattern :=
  holding simpleElement (always Assembly.aliasType)
    (around simpleType (element (integerBase config)))

/-- An element with a restricted text type. -/
def elementEnumeration : Pattern :=
  holding simpleElement (always Assembly.enumeration) (around simpleType listedValues)

/-- An element with a sequence of fields. -/
def elementClass (config : Config) : Pattern :=
  around classElement (around complexType (fieldSequence config))

/-- A complex type with a sequence of fields, its own or that of an extension. -/
def complexClass (config : Config) : Pattern :=
  around classType (anyOf [fieldSequence config, extendedContent config])

/-- A complex type that extends another. -/
def extendedClass (config : Config) : Pattern := around classType (extendedContent config)

/-- A group with a name. -/
def groupType (config : Config) : Pattern :=
  around (terminal "group:named" namedGroup) (fieldSequence config)

/-- A top level element of a builtin type. -/
def wrapperType (config : Config) : Pattern :=
  element (terminal "element:topFld" (wrapperClass config))

/-- A named group of attributes. -/
def attributeGroup (config : Config) : Pattern :=
  listing (terminal "attributeGroup:attrGrp" namedGroup) (always Assembly.fields)
    [attributeDeclaration config]

/-- An element whose complex type holds attributes. -/
def elementAttributeClass (config : Config) : Pattern :=
  around classElement
    (listing complexType (always Assembly.fields) [attributeDeclaration config])

/-- A complex type that holds attributes and references to groups. -/
def complexAttributeClass (config : Config) : Pattern :=
  listing (terminal "complexType:attrs" attributeClass) (always Assembly.fields)
    [groupField, attributeDeclaration config]

/-- A complex type without fields. -/
def emptyClass : Pattern := element classType

/-- A simple type that restricts a whole number type. -/
def namedAlias (config : Config) : Pattern :=
  holding simpleTypeDefinition (always Assembly.aliasType) (element (integerBase config))

/-- A simple type that restricts a text type. -/
def namedEnumeration : Pattern :=
  holding simpleTypeDefinition (always Assembly.enumeration) listedValues

/-- The alternatives for a type, in the order they are tried. -/
def typeOptions (config : Config) : List Pattern :=
  [elementAlias config, elementEnumeration, elementClass config, complexClass config,
   extendedClass config, groupType config, wrapperType config, attributeGroup config,
   elementAttributeClass config, complexAttributeClass config, emptyClass, namedAlias config,
   namedEnumeration]

/-- A schema: the types its children declare. -/
def schema (config : Config) : Pattern :=
  listing (terminal "schema" schemaRule) (always Assembly.types) [anyOf (typeOptions config)]

end SchemaTypes.Schema
