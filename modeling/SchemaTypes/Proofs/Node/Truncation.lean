import SchemaTypes.Proofs.Node.Carried

/-!
# Cutting off nested classes

A class holds fields, and a field may hold a class of its own. Counting depth from the fields of the
outermost class, one stride for each class inside a class, truncation empties every nested class
that lies below a limit and changes nothing else.
-/

namespace SchemaTypes.Node

/-- The depth from the fields of a class to the fields of a class nested in one of them. -/
def nestingStride : Int := 6

mutual

/-- The node with the classes nested in its fields emptied below the limit. The classes directly in
its fields are at the depth given. -/
def truncate (limit depth : Int) : Node → Node
  | ⟨kind, name, value, type, base, ref, fieldName, fieldType, nestedClass, fields, values, types,
      items⟩ =>
    ⟨kind, name, value, type, base, ref, fieldName, fieldType, nestedClass,
      truncateFields limit depth fields, values, types, items⟩

/-- An optional list of fields, each with its class truncated. -/
def truncateFields (limit depth : Int) : Option (List Node) → Option (List Node)
  | none => none
  | some fields => some (truncateEach limit depth fields)

/-- A list of fields, each with its class truncated. -/
def truncateEach (limit depth : Int) : List Node → List Node
  | [] => []
  | field :: rest => truncateField limit depth field :: truncateEach limit depth rest

/-- The field with its class truncated. -/
def truncateField (limit depth : Int) : Node → Node
  | ⟨kind, name, value, type, base, ref, fieldName, fieldType, nestedClass, fields, values, types,
      items⟩ =>
    ⟨kind, name, value, type, base, ref, fieldName, fieldType,
      truncateNested limit depth nestedClass, fields, values, types, items⟩

/-- A nested class, emptied below the limit and otherwise truncated further down. -/
def truncateNested (limit depth : Int) : Option Node → Option Node
  | none => none
  | some nested =>
    some (if depth > limit then { nested with fields := some [] }
      else truncate limit (depth + nestingStride) nested)

end

variable {limit limit' depth : Int}

theorem truncateEach_eq_map (fields : List Node) :
    truncateEach limit depth fields = fields.map (truncateField limit depth) := by
  induction fields with
  | nil => rfl
  | cons field rest inductionHypothesis => rw [truncateEach, inductionHypothesis, List.map_cons]

/-- Truncation changes the fields of a node. -/
theorem truncate_eq (node : Node) :
    truncate limit depth node =
      { node with fields := node.fields.map (·.map (truncateField limit depth)) } := by
  obtain ⟨kind, name, value, type, base, ref, fieldName, fieldType, nestedClass, fields, values,
    types, items⟩ := node
  cases fields <;> simp [truncate, truncateFields, truncateEach_eq_map]

/-- Truncation changes the class of a field. -/
theorem truncateField_eq (field : Node) :
    truncateField limit depth field =
      { field with nestedClass := field.nestedClass.map fun nested =>
          if depth > limit then { nested with fields := some [] }
          else truncate limit (depth + nestingStride) nested } := by
  obtain ⟨kind, name, value, type, base, ref, fieldName, fieldType, nestedClass, fields, values,
    types, items⟩ := field
  cases nestedClass <;> rfl

/-- A field without a class stays as it is. -/
theorem truncateField_of_nestedClass_eq_none {field : Node} (flat : field.nestedClass = none) :
    truncateField limit depth field = field := by
  rw [truncateField_eq, flat, Option.map_none, ← flat]
  cases field
  rfl

/-- A node all of whose fields stay as they are stays as it is. -/
theorem truncate_of_forall {node : Node}
    (same : ∀ fields, node.fields = some fields → ∀ field ∈ fields,
      truncateField limit depth field = field) :
    truncate limit depth node = node := by
  rw [truncate_eq]
  cases given : node.fields with
  | none =>
    rw [Option.map_none, ← given]
    cases node
    rfl
  | some fields =>
    rw [Option.map_some, List.map_congr_left (same fields given), List.map_id', ← given]
    cases node
    rfl

theorem sizeOf_nestedClass_lt {field nested : Node} (given : field.nestedClass = some nested) :
    sizeOf nested < sizeOf field :=
  sizeOf_lt_of_part? (show field.part? .nestedClass = some nested from given)

theorem sizeOf_field_lt {node field : Node} {fields : List Node} (given : node.fields = some fields)
    (member : field ∈ fields) : sizeOf field < sizeOf node := by
  obtain ⟨index, found⟩ := List.mem_iff_getElem?.1 member
  have leads : node.part? (.entry .fields index) = some field := by
    rw [part?, getList, given, Option.bind_some, found]
  exact sizeOf_lt_of_part? leads

/-- Induction over the nesting of classes: what holds of a node if it holds of every class in one
of its fields holds of every node. -/
theorem nesting_induction {motive : Node → Prop}
    (step : ∀ node, (∀ fields, node.fields = some fields → ∀ field ∈ fields, ∀ nested,
      field.nestedClass = some nested → motive nested) → motive node) (node : Node) :
    motive node :=
  step node fun _ given _ member nested holds =>
    have := sizeOf_field_lt given member
    have := sizeOf_nestedClass_lt holds
    nesting_induction step nested
  termination_by sizeOf node

/-- Of two truncations only the one with the lower limit counts. -/
theorem truncate_truncate (lower : limit ≤ limit') (node : Node) :
    truncate limit depth (truncate limit' depth node) = truncate limit depth node := by
  induction node using nesting_induction generalizing depth with
  | step node inductionHypothesis =>
    rw [truncate_eq node, truncate_eq node, truncate_eq]
    cases given : node.fields with
    | none => rfl
    | some fields =>
      simp only [Option.map_some, List.map_map]
      congr 2
      refine List.map_congr_left fun field member => ?_
      rw [Function.comp_apply, truncateField_eq field, truncateField_eq field, truncateField_eq]
      cases holds : field.nestedClass with
      | none => rfl
      | some nested =>
        simp only [Option.map_some]
        by_cases below : depth > limit
        · -- The class is emptied in the end, whatever the higher limit leaves of it.
          simp only [below, if_true]
          split
          · rfl
          · rw [truncate_eq]
        · have above : ¬ depth > limit' := by omega
          simp only [below, above, if_false]
          rw [inductionHypothesis fields given field member nested holds]

/-- The node with the classes in its fields reduced to what they are apart from their fields. -/
def outermost (node : Node) : Node :=
  { node with
    fields := node.fields.map (·.map fun field =>
      { field with nestedClass := field.nestedClass.map fun nested =>
          { nested with fields := none } }) }

/-- Truncation leaves everything alone but fields of nested classes. -/
theorem outermost_truncate (node : Node) :
    (truncate limit depth node).outermost = node.outermost := by
  rw [truncate_eq, outermost, outermost]
  cases node.fields with
  | none => rfl
  | some fields =>
    simp only [Option.map_some, List.map_map]
    congr 2
    refine List.map_congr_left fun field _ => ?_
    rw [Function.comp_apply, truncateField_eq]
    cases field.nestedClass with
    | none => rfl
    | some nested =>
      simp only [Option.map_some]
      split
      · rfl
      · rw [truncate_eq]

end SchemaTypes.Node
