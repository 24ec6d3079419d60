import SchemaTypes.Node.Slot
import SchemaTypes.Text.Capital

/-!
# Nodes

Everything that reading a schema can produce is a node: classes, fields, enumerations and their
values, aliases, groups, and the lists of siblings they are put together from. The kind tells them
apart. An attribute is present or absent, and an empty text or list is present. Two nodes merge by
letting what the right one carries win.
-/

namespace SchemaTypes

/-- A result of reading, or a part of one. -/
structure Node where
  kind : String
  name : Option String := none
  value : Option String := none
  type : Option String := none
  base : Option String := none
  ref : Option String := none
  fieldName : Option String := none
  fieldType : Option String := none
  nestedClass : Option Node := none
  fields : Option (List Node) := none
  values : Option (List Node) := none
  types : Option (List Node) := none
  items : Option (List Node) := none
  deriving Inhabited, BEq

namespace Node

/-- The text an attribute holds. -/
def getText (node : Node) : TextSlot → Option String
  | .name => node.name
  | .value => node.value
  | .type => node.type
  | .base => node.base
  | .ref => node.ref
  | .fieldName => node.fieldName
  | .fieldType => node.fieldType

/-- The list an attribute holds. -/
def getList (node : Node) : ListSlot → Option (List Node)
  | .fields => node.fields
  | .values => node.values
  | .types => node.types
  | .items => node.items

/-- The node with a text attribute set or made absent. -/
def setText (node : Node) (slot : TextSlot) (text : Option String) : Node :=
  match slot with
  | .name => { node with name := text }
  | .value => { node with value := text }
  | .type => { node with type := text }
  | .base => { node with base := text }
  | .ref => { node with ref := text }
  | .fieldName => { node with fieldName := text }
  | .fieldType => { node with fieldType := text }

/-- The node with a list attribute set or made absent. -/
def setList (node : Node) (slot : ListSlot) (list : Option (List Node)) : Node :=
  match slot with
  | .fields => { node with fields := list }
  | .values => { node with values := list }
  | .types => { node with types := list }
  | .items => { node with items := list }

/-- The node without an attribute. -/
def clear (node : Node) : Slot → Node
  | .text slot => node.setText slot none
  | .nestedClass => { node with nestedClass := none }
  | .list slot => node.setList slot none

/-- The value an attribute holds. -/
inductive Value where
  | text (text : String)
  | node (node : Node)
  | nodes (nodes : List Node)

/-- What a node carries in an attribute. -/
def get? (node : Node) : Slot → Option Value
  | .text slot => (node.getText slot).map .text
  | .nestedClass => node.nestedClass.map .node
  | .list slot => (node.getList slot).map .nodes

/-- Everything the right node carries and the rest of the left one. The kind stays unless another
is given. -/
def merge (left right : Node) (kind : Option String) : Node where
  kind := kind.getD left.kind
  name := right.name.or left.name
  value := right.value.or left.value
  type := right.type.or left.type
  base := right.base.or left.base
  ref := right.ref.or left.ref
  fieldName := right.fieldName.or left.fieldName
  fieldType := right.fieldType.or left.fieldType
  nestedClass := right.nestedClass.or left.nestedClass
  fields := right.fields.or left.fields
  values := right.values.or left.values
  types := right.types.or left.types
  items := right.items.or left.items

/-- The name a word gives to what it names: its capital form behind a fixed beginning. An absent
or empty word leaves the beginning, and an empty beginning no name. -/
def nameFor (beginning : String) (word : Option String) : Option String :=
  match word with
  | none | some "" => if beginning = "" then none else some beginning
  | some word => some (beginning ++ Text.capitalizeFirst word)

/-- The node named after a word. -/
def withName (node : Node) (beginning : String) (word : Option String) : Node :=
  { node with name := nameFor beginning word }

mutual

/-- The node and every node inside it, each in front of what is inside it. -/
def flatten : Node → List Node
  | ⟨kind, name, value, type, base, ref, fieldName, fieldType, nestedClass, fields, values, types,
      items⟩ =>
    ⟨kind, name, value, type, base, ref, fieldName, fieldType, nestedClass, fields, values, types,
      items⟩ :: (flattenOption nestedClass ++ flattenLists types ++ flattenLists fields
        ++ flattenLists values ++ flattenLists items)

/-- The nodes of an optional node. -/
def flattenOption : Option Node → List Node
  | none => []
  | some node => node.flatten

/-- The nodes of an optional list of nodes. -/
def flattenLists : Option (List Node) → List Node
  | none => []
  | some nodes => flattenList nodes

/-- The nodes of a list of nodes. -/
def flattenList : List Node → List Node
  | [] => []
  | node :: rest => node.flatten ++ flattenList rest

end

/-- What a merged node carries is what the right node carries, or else the left one. -/
theorem get?_merge (left right : Node) (kind : Option String) (slot : Slot) :
    (left.merge right kind).get? slot = (right.get? slot).or (left.get? slot) := by
  cases slot with
  | text slot => cases slot <;> simp [get?, getText, merge, Option.map_or]
  | nestedClass => simp [get?, merge, Option.map_or]
  | list slot => cases slot <;> simp [get?, getList, merge, Option.map_or]

end Node

end SchemaTypes
