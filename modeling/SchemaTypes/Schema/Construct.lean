import SchemaTypes.Config
import SchemaTypes.Cursor
import SchemaTypes.Node
import SchemaTypes.Node.Kind
import SchemaTypes.Text.Capital
import SchemaTypes.TypeName

/-!
# Nodes from single elements

Each rule builds a node from one element of a schema, from its attributes alone, or rejects the
element. The one exception is the class of attributes, which asks whether the element has a child
that declares one. An attribute that is absent and one that is empty are told apart only where a
rule says so.
-/

namespace SchemaTypes.Schema

open SchemaTypes.Text

/-- A rule that builds a node from an element or rejects it. -/
abbrev Rule := Element → Option Node

/-- The value of an attribute that is neither absent nor empty. -/
def given? (element : Element) (name : String) : Option String :=
  (element.get? name).filter (· ≠ "")

/-- The mark behind the name of a field that may be missing. -/
def optionalMark : String := "?"

/-- The mark behind the type of a field that may be repeated. -/
def repeatedMark : String := "[]"

/-- The beginning of the name of a class that wraps a single field. -/
def wrapperBeginning : String := "For"

/-- Whether an element may be repeated without limit. -/
def isRepeated (element : Element) : Bool := element.get? "maxOccurs" = some "unbounded"

/-- Whether an element may be missing. -/
def isOptional (element : Element) : Bool := element.get? "minOccurs" = some "0"

/-- The field an element or attribute declares: its name, marked if it may be missing, and the
generated type, marked if it may be repeated. -/
def fieldOf (config : Config) (element : Element) : Node :=
  let name := (element.get? "name").getD ""
  let type := TypeName.target config.overrides (element.get? "type")
  { kind := Kind.field
    fieldName := some (if isOptional element then name ++ optionalMark else name)
    fieldType := some (if isRepeated element then type ++ repeatedMark else type) }

/-- A schema, whose types are filled in later. -/
def schemaRule : Rule := fun _ => some { kind := Kind.classType }

/-- The field of an element with a type. -/
def typedField (config : Config) : Rule := fun element =>
  (given? element "type").map fun _ => fieldOf config element

/-- The field of an element with a type that may be repeated. -/
def repeatedField (config : Config) : Rule := fun element =>
  if isRepeated element then typedField config element else none

/-- The field of an attribute, with or without a type. -/
def attributeField (config : Config) : Rule := fun element => some (fieldOf config element)

/-- A class around the field of a top level element. The type has to hold the prefix of the schema
namespace with a colon behind it. -/
def wrapperClass (config : Config) : Rule := fun element =>
  let builtin := (config.namespacePrefix ++ ":").toList
  if occursIn builtin ((element.get? "type").getD "").toList then
    some (Node.withName { kind := Kind.classType, fields := some [fieldOf config element] }
      wrapperBeginning (element.get? "name"))
  else none

/-- The beginning of a field with a nested class: the name of the field as it is written, and its
capital form as the type. -/
def nestingField : Rule := fun element =>
  let name := element.get? "name"
  some { kind := Kind.classType, fieldName := name, fieldType := name.map capitalizeFirst }

/-- A class named after an element that has no type. -/
def namedClass : Rule := fun element =>
  if (given? element "type").isSome then none
  else some (Node.withName { kind := Kind.classType } "" (element.get? "name"))

/-- The tags of what can stand in a class of attributes. -/
def attributeTags : List String := ["attribute", "group"]

/-- Whether some child declares an attribute or refers to a group. -/
def declaresAttributes (element : Element) : Bool :=
  element.children.any fun child => child.localName?.any attributeTags.contains

/-- A class named after an element that declares attributes. -/
def attributeClass : Rule := fun element =>
  if declaresAttributes element then namedClass element else none

/-- The simple type of an element that has no type. -/
def elementSimpleType : Rule := fun element =>
  if (given? element "type").isSome then none
  else some { kind := Kind.simpleType, name := element.get? "name" }

/-- A simple type with a name of its own. -/
def namedSimpleType : Rule := fun element =>
  (given? element "name").map fun name => { kind := Kind.simpleType, name := some name }

/-- One value of an enumeration. -/
def enumValue : Rule := fun element =>
  (given? element "value").map fun value => { kind := Kind.enumValue, value := some value }

/-- The extension of a type. -/
def extension : Rule := fun element =>
  some { kind := Kind.extension, base := element.get? "base" }

/-- The restriction of a whole number type, which carries the generated type. -/
def integerRestriction (config : Config) : Rule := fun element =>
  let base := element.get? "base"
  if TypeName.isIntegerLike base then
    some { kind := Kind.aliasType, value := some (TypeName.target config.overrides base) }
  else none

/-- The restriction of a text type. -/
def textRestriction : Rule := fun element =>
  if TypeName.isTextLike (element.get? "base") then
    some { kind := Kind.textRestriction, value := some TypeName.textTarget }
  else none

/-- A group with a name. -/
def namedGroup : Rule := fun element =>
  (given? element "name").map fun name => Node.withName { kind := Kind.group } "" (some name)

/-- A reference to a group. -/
def groupReference : Rule := fun element =>
  (given? element "ref").map fun ref => { kind := Kind.groupReference, ref := some ref }

end SchemaTypes.Schema
