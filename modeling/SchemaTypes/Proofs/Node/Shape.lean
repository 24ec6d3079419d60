import SchemaTypes.Node.Kind
import SchemaTypes.Proofs.Node.Truncation

/-!
# Shapes of finished nodes

A finished result is made of nodes of a few shapes. Each shape says which attributes a node carries,
and a node of that shape carries no other. Fields and references to groups stand only among the
fields of a class or group, and values only in an enumeration. Truncation keeps the shapes, and
nothing that is only there while a result is put together has one of them.
-/

namespace SchemaTypes.Node

/-- A value of an enumeration, with a text. -/
inductive IsEnumValue : Node → Prop where
  | value {text : String} (given : text ≠ "") :
      IsEnumValue { kind := Kind.enumValue, value := some text }

/-- What stands among the fields of a class or group. A field has a type, or a class of its own that
goes by the type of the field. -/
inductive IsField : Node → Prop where
  | typed (name type : String) :
      IsField { kind := Kind.field, fieldName := some name, fieldType := some type }
  | nesting (name title : Option String) {fields : List Node}
      (inside : ∀ field ∈ fields, IsField field) :
      IsField
        { kind := Kind.field
          fieldName := name
          fieldType := title
          nestedClass := some { kind := Kind.classType, name := title, fields := some fields } }
  | reference {ref : String} (given : ref ≠ "") :
      IsField { kind := Kind.groupReference, ref := some ref }

/-- What stands among the types of a schema. -/
inductive IsType : Node → Prop where
  | classType (name base : Option String) {fields : Option (List Node)}
      (inside : ∀ field ∈ fields.getD [], IsField field) :
      IsType { kind := Kind.classType, name, base, fields }
  | group {name : String} (given : name ≠ "") {fields : List Node}
      (inside : ∀ field ∈ fields, IsField field) :
      IsType { kind := Kind.group, name := some name, fields := some fields }
  | enumeration (name : Option String) {values : List Node}
      (inside : ∀ value ∈ values, IsEnumValue value) :
      IsType { kind := Kind.enumeration, name, values := some values }
  | aliasType (name : Option String) (type : String) :
      IsType { kind := Kind.aliasType, name, type := some type }

/-- A schema carries types and nothing else. -/
inductive IsSchema : Node → Prop where
  | schema {types : List Node} (inside : ∀ type ∈ types, IsType type) :
      IsSchema { kind := Kind.classType, types := some types }

/-! ## Truncation -/

variable {node : Node} (limit : Int)

/-- A field with its class truncated is a field. -/
theorem IsField.truncateField (shaped : IsField node) (depth : Int) :
    IsField (node.truncateField limit depth) := by
  induction shaped generalizing depth with
  | typed name type => exact .typed name type
  | reference given => exact .reference given
  | nesting name title inside inductionHypothesis =>
    rw [truncateField_eq]
    simp only [Option.map_some]
    split
    · exact .nesting name title (by simp)
    · rw [truncate_eq]
      refine .nesting name title fun field member => ?_
      obtain ⟨whole, memberWhole, rfl⟩ := List.mem_map.1 member
      exact inductionHypothesis whole memberWhole _

/-- Fields with their classes truncated are fields. -/
theorem isField_map_truncateField {fields : List Node} (inside : ∀ field ∈ fields, IsField field)
    (depth : Int) : ∀ field ∈ fields.map (Node.truncateField limit depth), IsField field := by
  intro field member
  obtain ⟨whole, memberWhole, rfl⟩ := List.mem_map.1 member
  exact (inside whole memberWhole).truncateField limit depth

/-- A type with its nested classes truncated is a type. -/
theorem IsType.truncate (shaped : IsType node) (depth : Int) :
    IsType (node.truncate limit depth) := by
  rw [truncate_eq]
  cases shaped with
  | @classType name base fields inside =>
    refine .classType name base ?_
    cases fields with
    | none => simp
    | some fields => exact isField_map_truncateField limit inside depth
  | group given inside => exact .group given (isField_map_truncateField limit inside depth)
  | enumeration name inside => exact .enumeration name inside
  | aliasType name type => exact .aliasType name type

/-! ## Every node inside -/

/-- The kinds of nodes in finished results. -/
def finishedKinds : List String :=
  [Kind.classType, Kind.field, Kind.enumeration, Kind.enumValue, Kind.aliasType, Kind.group,
   Kind.groupReference]

/-- Nothing about a node is left over from putting the result together: its kind is one of finished
results, and it holds no collected siblings. -/
structure IsFinished (node : Node) : Prop where
  kind_mem : node.kind ∈ finishedKinds
  items_eq : node.items = none

/-- The nodes inside a node are the node itself and those inside the nodes it carries. -/
theorem mem_flatten_iff {inner : Node} :
    inner ∈ node.flatten ↔
      inner = node ∨ (∃ nested, node.nestedClass = some nested ∧ inner ∈ nested.flatten) ∨
        ∃ slot parts, node.getList slot = some parts ∧ ∃ part ∈ parts, inner ∈ part.flatten := by
  have entries : ∀ list : Option (List Node), (∃ part ∈ list.getD [], inner ∈ part.flatten) ↔
      ∃ parts, list = some parts ∧ ∃ part ∈ parts, inner ∈ part.flatten := by
    rintro (_ | parts) <;> simp
  rw [flatten_eq, flatMap_carried]
  simp only [List.mem_cons, List.mem_append, List.mem_flatMap, Option.mem_toList, mem_listedSlots,
    true_and, entries]

/-- A node is finished throughout if every node inside it is finished, at any depth. -/
def FinishedThroughout (node : Node) : Prop := ∀ inner ∈ node.flatten, inner.IsFinished

/-- A finished node that carries nodes finished throughout is finished throughout. -/
theorem IsFinished.throughout (own : node.IsFinished)
    (nested : ∀ part, node.nestedClass = some part → part.FinishedThroughout)
    (listed : ∀ slot parts, node.getList slot = some parts →
      ∀ part ∈ parts, part.FinishedThroughout) : node.FinishedThroughout := by
  intro inner member
  rcases mem_flatten_iff.1 member with rfl | ⟨part, given, inside⟩ |
    ⟨slot, parts, given, part, memberPart, inside⟩
  · exact own
  · exact nested part given inner inside
  · exact listed slot parts given part memberPart inner inside

/-- A finished node that carries no nodes is finished throughout. -/
theorem IsFinished.throughout_of_bare (own : node.IsFinished) (bare : node.nestedClass = none)
    (empty : ∀ slot, node.getList slot = none) : node.FinishedThroughout := by
  apply own.throughout
  · intro part given
    rw [bare] at given
    cases given
  · intro slot parts given
    rw [empty slot] at given
    cases given

/-- A finished node that carries one list of nodes finished throughout is finished throughout. -/
theorem IsFinished.throughout_of_list (own : node.IsFinished) (bare : node.nestedClass = none)
    (slot : ListSlot) {parts : List Node} (given : node.getList slot = some parts)
    (only : ∀ other ≠ slot, node.getList other = none)
    (inside : ∀ part ∈ parts, part.FinishedThroughout) : node.FinishedThroughout := by
  apply own.throughout
  · intro part holds
    rw [bare] at holds
    cases holds
  · intro other list holds
    by_cases same : other = slot
    · subst same
      rw [given] at holds
      cases holds
      exact inside
    · rw [only other same] at holds
      cases holds

/-- Nothing in a value is left over from putting it together. -/
theorem IsEnumValue.finished (shaped : IsEnumValue node) : node.FinishedThroughout := by
  cases shaped with
  | @value text given =>
    have own : IsFinished { kind := Kind.enumValue, value := some text } :=
      ⟨by simp [finishedKinds], rfl⟩
    exact own.throughout_of_bare rfl (by rintro (_ | _) <;> rfl)

/-- Nothing in a field is left over from putting it together. -/
theorem IsField.finished (shaped : IsField node) : node.FinishedThroughout := by
  induction shaped with
  | typed name type =>
    have own : IsFinished { kind := Kind.field, fieldName := some name, fieldType := some type } :=
      ⟨by simp [finishedKinds], rfl⟩
    exact own.throughout_of_bare rfl (by rintro (_ | _) <;> rfl)
  | @reference ref given =>
    have own : IsFinished { kind := Kind.groupReference, ref := some ref } :=
      ⟨by simp [finishedKinds], rfl⟩
    exact own.throughout_of_bare rfl (by rintro (_ | _) <;> rfl)
  | @nesting name title fields inside inductionHypothesis =>
    have nested : IsFinished { kind := Kind.classType, name := title, fields := some fields } :=
      ⟨by simp [finishedKinds], rfl⟩
    have nestedThroughout := nested.throughout_of_list rfl .fields rfl
      (by rintro (_ | _) <;> simp [getList]) inductionHypothesis
    apply IsFinished.throughout ⟨by simp [finishedKinds], rfl⟩
    · rintro part ⟨⟩
      exact nestedThroughout
    · rintro (_ | _) parts ⟨⟩

/-- Nothing in a type is left over from putting it together. -/
theorem IsType.finished (shaped : IsType node) : node.FinishedThroughout := by
  cases shaped with
  | @classType name base fields inside =>
    have own : IsFinished { kind := Kind.classType, name, base, fields } :=
      ⟨by simp [finishedKinds], rfl⟩
    cases fields with
    | none => exact own.throughout_of_bare rfl (by rintro (_ | _) <;> rfl)
    | some fields =>
      exact own.throughout_of_list rfl .fields rfl (by rintro (_ | _) <;> simp [getList])
        fun field member => (inside field member).finished
  | @group name given fields inside =>
    have own : IsFinished { kind := Kind.group, name := some name, fields := some fields } :=
      ⟨by simp [finishedKinds], rfl⟩
    exact own.throughout_of_list rfl .fields rfl (by rintro (_ | _) <;> simp [getList])
      fun field member => (inside field member).finished
  | @enumeration name values inside =>
    have own : IsFinished { kind := Kind.enumeration, name, values := some values } :=
      ⟨by simp [finishedKinds], rfl⟩
    exact own.throughout_of_list rfl .values rfl (by rintro (_ | _) <;> simp [getList])
      fun value member => (inside value member).finished
  | aliasType name type =>
    have own : IsFinished { kind := Kind.aliasType, name, type := some type } :=
      ⟨by simp [finishedKinds], rfl⟩
    exact own.throughout_of_bare rfl (by rintro (_ | _) <;> rfl)

/-- A schema is finished, with every node inside it. -/
theorem IsSchema.finished (shaped : IsSchema node) : node.FinishedThroughout := by
  cases shaped with
  | @schema types inside =>
    have own : IsFinished { kind := Kind.classType, types := some types } :=
      ⟨by simp [finishedKinds], rfl⟩
    exact own.throughout_of_list rfl .types rfl (by rintro (_ | _) <;> simp [getList])
      fun type member => (inside type member).finished

end SchemaTypes.Node
