/-!
# Slots of a node

A node has twelve optional attributes: seven hold a text, one a node, and four a list of nodes. Each
is known by its wire name, and three of them by a long name as well.
-/

namespace SchemaTypes.Node

/-- An attribute that holds a text. -/
inductive TextSlot where
  | name
  | value
  | type
  /-- The type that an extension extends. -/
  | base
  | ref
  | fieldName
  | fieldType
  deriving DecidableEq, Repr

/-- An attribute that holds a list of nodes. -/
inductive ListSlot where
  | fields
  | values
  | types
  | items
  deriving DecidableEq, Repr

/-- An attribute. -/
inductive Slot where
  | text (slot : TextSlot)
  | nestedClass
  | list (slot : ListSlot)
  deriving DecidableEq, Repr

/-- Every attribute, in the order they are written. -/
def Slot.all : List Slot :=
  [.text .name, .text .value, .text .type, .text .base, .text .ref, .text .fieldName,
   .text .fieldType, .nestedClass, .list .fields, .list .values, .list .types, .list .items]

/-- The name of an attribute in written form. -/
def Slot.wireName : Slot → String
  | .text .name => "name"
  | .text .value => "value"
  | .text .type => "type"
  | .text .base => "extends"
  | .text .ref => "ref"
  | .text .fieldName => "fieldName"
  | .text .fieldType => "fieldType"
  | .nestedClass => "nestedClass"
  | .list .fields => "fields"
  | .list .values => "values"
  | .list .types => "types"
  | .list .items => "items"

/-- The name of an attribute with its words apart. -/
def Slot.longName : Slot → String
  | .text .fieldName => "field_name"
  | .text .fieldType => "field_type"
  | .nestedClass => "nested_class"
  | slot => slot.wireName

/-- The attribute a key names, by either name. -/
def Slot.ofKey? (key : String) : Option Slot :=
  Slot.all.find? fun slot => slot.wireName = key || slot.longName = key

/-- Every attribute is listed. -/
theorem Slot.mem_all (slot : Slot) : slot ∈ Slot.all := by
  cases slot with
  | text slot => cases slot <;> decide
  | nestedClass => decide
  | list slot => cases slot <;> decide

/-- An attribute is found by its wire name. -/
theorem Slot.ofKey?_wireName (slot : Slot) : Slot.ofKey? slot.wireName = some slot := by
  cases slot with
  | text slot => cases slot <;> decide
  | nestedClass => decide
  | list slot => cases slot <;> decide

end SchemaTypes.Node
