import SchemaTypes.Node.Wire

/-!
# Written nodes are read back

The members of a written node are stored one attribute after the other, each under its wire name and
each into an attribute that is still absent. So nothing is stored over anything else, and what comes
of the whole object is the node it was written for, with every node inside it.
-/

namespace SchemaTypes.Node

/-- Members are stored in order. -/
theorem storeMembers_append (front back : List (String × Json)) (node : Node) :
    storeMembers (front ++ back) node = (storeMembers front node).bind (storeMembers back) := by
  induction front generalizing node with
  | nil => rfl
  | cons member rest inductionHypothesis =>
    obtain ⟨key, value⟩ := member
    rw [List.cons_append, storeMembers, storeMembers]
    split
    · exact inductionHypothesis node
    · cases contentOf value with
      | error failure => rfl
      | ok content =>
        cases stored : node.store key content with
        | error failure => simp [bind, Except.bind, stored]
        | ok node => simp [bind, Except.bind, stored, inductionHypothesis]

/-- No attribute is written under the key of the kind. -/
theorem wireName_ne_kindKey (slot : Slot) : slot.wireName ≠ kindKey := by
  cases slot with
  | text slot => cases slot <;> decide
  | nestedClass => decide
  | list slot => cases slot <;> decide

/-- A single member with the wire name of an attribute is read and stored there. -/
theorem storeMembers_wireName (slot : Slot) {value : Json} {content : Content} {node after : Node}
    (reads : contentOf value = .ok content) (stores : node.store slot.wireName content = .ok after) :
    storeMembers [(slot.wireName, value)] node = .ok after := by
  rw [storeMembers, if_neg (wireName_ne_kindKey slot), reads]
  simp only [bind, Except.bind, stores]
  rfl

/-- Setting a text attribute to what it holds changes nothing. -/
@[simp]
theorem setText_getText (node : Node) (slot : TextSlot) :
    node.setText slot (node.getText slot) = node := by
  cases node
  cases slot <;> rfl

/-- Setting a list attribute to what it holds changes nothing. -/
@[simp]
theorem setList_getList (node : Node) (slot : ListSlot) :
    node.setList slot (node.getList slot) = node := by
  cases node
  cases slot <;> rfl

/-- Storing the member of a text attribute lets the text win over what was there. -/
theorem storeMembers_textMembers (slot : TextSlot) (text : Option String) (node : Node) :
    storeMembers (textMembers slot text) node =
      .ok (node.setText slot (text.or (node.getText slot))) := by
  cases text with
  | none =>
    rw [Option.none_or, setText_getText]
    rfl
  | some text =>
    refine storeMembers_wireName (.text slot) rfl ?_
    simp only [store, Slot.ofKey?_wireName, Option.some_or]

mutual

/-- What a node is written as is read as that node: its members are laid over a node that carries
nothing but the kind. -/
theorem contentOf_toJson : ∀ node : Node, contentOf node.toJson = .ok (.node node)
  | ⟨kind, name, value, type, base, ref, fieldName, fieldType, nestedClass, fields, values, types,
      items⟩ => by
    rw [toJson, contentOf]
    simp only [List.cons_append, List.lookup_cons, beq_self_eq_true]
    rw [storeMembers, if_pos rfl]
    simp only [storeMembers_append, storeMembers_textMembers, storeMembers_nodeMembers nestedClass,
      storeMembers_listMembers _ fields, storeMembers_listMembers _ values,
      storeMembers_listMembers _ types, storeMembers_listMembers _ items, Except.bind, Except.map]
    simp only [setText, getText, setList, getList, Option.or_none]

/-- Storing the member of a nested class lets the class win over what was there. -/
theorem storeMembers_nodeMembers : ∀ (nested : Option Node) (node : Node),
    storeMembers (nodeMembers nested) node =
      .ok { node with nestedClass := nested.or node.nestedClass }
  | none, node => by
    cases node
    rfl
  | some nested, node => by
    refine storeMembers_wireName .nestedClass (contentOf_toJson nested) ?_
    simp only [store, Slot.ofKey?_wireName, Option.some_or]

/-- Storing the member of a list attribute lets the list win over what was there. -/
theorem storeMembers_listMembers : ∀ (slot : ListSlot) (list : Option (List Node)) (node : Node),
    storeMembers (listMembers slot list) node =
      .ok (node.setList slot (list.or (node.getList slot)))
  | slot, none, node => by
    rw [Option.none_or, setList_getList]
    rfl
  | slot, some nodes, node => by
    have reads : contentOf (.array (toJsonList nodes)) = .ok (.nodes nodes) := by
      rw [contentOf, nodesOf_toJsonList nodes]
      rfl
    refine storeMembers_wireName (.list slot) reads ?_
    simp only [store, Slot.ofKey?_wireName, Option.some_or]

/-- What a list of nodes is written as is read as that list. -/
theorem nodesOf_toJsonList : ∀ nodes : List Node, nodesOf (toJsonList nodes) = .ok nodes
  | [] => rfl
  | node :: rest => by
    rw [toJsonList, nodesOf, contentOf_toJson node, nodesOf_toJsonList rest]
    rfl

end

/-- A node is read back from what it is written as. -/
theorem ofJson_toJson (node : Node) : ofJson node.toJson = .ok node := by
  rw [ofJson, contentOf_toJson]
  rfl

end SchemaTypes.Node
