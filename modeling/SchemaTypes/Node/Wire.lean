import SchemaTypes.Json
import SchemaTypes.Node

/-!
# Written form of nodes

A node is written as an object with its kind and one member for each attribute it carries. Reading
accepts every object with a kind whose other keys name attributes, by either name and in any order;
the value of a key may be null, and of two keys that name one attribute the later counts.
-/

namespace SchemaTypes.Node

/-- The key of the kind. -/
def kindKey : String := "kind"

/-- Members for the text attributes a node carries. -/
def textMembers (slot : TextSlot) : Option String → List (String × Json)
  | none => []
  | some text => [((Slot.text slot).wireName, .string text)]

mutual

/-- The object a node is written as. -/
def toJson : Node → Json
  | ⟨kind, name, value, type, base, ref, fieldName, fieldType, nestedClass, fields, values, types,
      items⟩ =>
    .object ((kindKey, .string kind) :: textMembers .name name ++ textMembers .value value
      ++ textMembers .type type ++ textMembers .base base ++ textMembers .ref ref
      ++ textMembers .fieldName fieldName ++ textMembers .fieldType fieldType
      ++ nodeMembers nestedClass ++ listMembers .fields fields ++ listMembers .values values
      ++ listMembers .types types ++ listMembers .items items)

/-- Members for the nested class a node carries. -/
def nodeMembers : Option Node → List (String × Json)
  | none => []
  | some node => [(Slot.nestedClass.wireName, node.toJson)]

/-- Members for a list of nodes a node carries. -/
def listMembers (slot : ListSlot) : Option (List Node) → List (String × Json)
  | none => []
  | some nodes => [((Slot.list slot).wireName, .array (toJsonList nodes))]

/-- The objects a list of nodes is written as. -/
def toJsonList : List Node → List Json
  | [] => []
  | node :: rest => node.toJson :: toJsonList rest

end

/-- Why a value is not read as a node. -/
inductive WireError where
  /-- An object without a kind. -/
  | missingKind
  /-- A key that names no attribute. -/
  | unknownKey (key : String)
  /-- A value of a form that the attribute it belongs to cannot hold. -/
  | wrongForm (key : String)
  deriving DecidableEq, Repr

/-- The error in words. -/
def WireError.message : WireError → String
  | .missingKind => kindKey
  | .unknownKey key => "Unknown AST attribute '" ++ key ++ "'"
  | .wrongForm key => "Attribute '" ++ key ++ "' cannot hold this value"

/-- What the value of a key was read as. -/
inductive Content where
  | absent
  | text (text : String)
  | node (node : Node)
  | nodes (nodes : List Node)
  /-- A value no attribute holds. -/
  | other

/-- The node with what was read put into the attribute a key names. -/
def store (node : Node) (key : String) (content : Content) : Except WireError Node :=
  match Slot.ofKey? key, content with
  | none, _ => .error (.unknownKey key)
  | some slot, .absent => .ok (node.clear slot)
  | some (.text slot), .text text => .ok (node.setText slot (some text))
  | some .nestedClass, .node nested => .ok { node with nestedClass := some nested }
  | some (.list slot), .nodes nodes => .ok (node.setList slot (some nodes))
  | some _, _ => .error (.wrongForm key)

mutual

/-- Reads the value of a key. -/
def contentOf : Json → Except WireError Content
  | .null => .ok .absent
  | .string text => .ok (.text text)
  | .object members =>
    match members.lookup kindKey with
    | some (.string kind) => (storeMembers members { kind := kind }).map .node
    | _ => .error .missingKind
  | .array items => (nodesOf items).map .nodes
  | .bool _ | .number _ => .ok .other
  termination_by structural value => value

/-- Reads the members of an object into a node, in order. -/
def storeMembers : List (String × Json) → Node → Except WireError Node
  | [], node => .ok node
  | (key, value) :: rest, node =>
    if key = kindKey then storeMembers rest node
    else do
      let content ← contentOf value
      let node ← node.store key content
      storeMembers rest node
  termination_by structural members => members

/-- Reads a list of nodes. -/
def nodesOf : List Json → Except WireError (List Node)
  | [] => .ok []
  | item :: rest => do
    match ← contentOf item with
    | .node node =>
      let nodes ← nodesOf rest
      return node :: nodes
    | _ => .error .missingKind
  termination_by structural items => items

end

/-- Reads a node from the value it is written as. -/
def ofJson (value : Json) : Except WireError Node := do
  match ← contentOf value with
  | .node node => return node
  | _ => .error .missingKind

end SchemaTypes.Node
