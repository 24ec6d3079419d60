/-!
# Kinds of nodes

The words that tell nodes apart. The first group occurs in finished results. The second group names
intermediate results, which are merged into a node of the first group before a reading is over.
-/

namespace SchemaTypes.Kind

/-- A class, and the schema as a whole. -/
def classType : String := "Class"

/-- A field of a class or group. -/
def field : String := "Field"

/-- A type with listed values. -/
def enumeration : String := "Enumeration"

/-- One listed value. -/
def enumValue : String := "EnumValue"

/-- Another name for a basic type. -/
def aliasType : String := "AliasType"

/-- A named group of fields. -/
def group : String := "Group"

/-- A reference to a group, in place of its fields. -/
def groupReference : String := "Fields"

/-- Nodes collected from siblings. -/
def collection : String := "Sibblings"

/-- A simple type before its restriction is known. -/
def simpleType : String := "Enum"

/-- The restriction of a text type. -/
def textRestriction : String := "EnumType"

/-- The extension of another type. -/
def extension : String := "Extension"

end SchemaTypes.Kind
