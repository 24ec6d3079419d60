import SchemaTypes.Proofs.Node.Truncation
import SchemaTypes.Proofs.Pattern.Reading
import SchemaTypes.Proofs.Schema.Outline
import SchemaTypes.Schema.Grammar

/-!
# What the productions of the grammar read

Each production of the grammar is a pattern that reads elements, and what it reads can be said in
terms of the outline. Fields are read with their nested classes truncated: the reference inside a
field is five steps below the field's own alternatives, and the next field is one step further down.
-/

namespace SchemaTypes

/-- Laying a node over one that carries nothing changes its kind. -/
@[simp]
theorem Node.merge_of_bare (kind : String) (node : Node) :
    Node.merge { kind := kind } node none = { node with kind := kind } := by
  simp [Node.merge]

/-- Laying fields over a node replaces its fields. -/
@[simp]
theorem Node.merge_fields (own : Node) (kind : String) (fields : List Node) :
    own.merge { kind, fields := some fields } none = { own with fields := some fields } := by
  simp [Node.merge]

namespace Schema

open Pattern

/-! ## Elements with their content -/

section Content

variable {bindings : Bindings} {depth : Int} {name tag : String} {rule : Rule}
  {content : Pattern} {inner : Reading}

/-- A reading of the content that asks for a tag. -/
theorem content?_bind_onTag (element : Element) (reading : Reading) :
    element.content?.bind (onTag tag reading) = (element.contentNamed? tag).bind reading := by
  rw [Element.contentNamed?]
  cases element.content? with
  | none => rfl
  | some content =>
    simp only [Option.bind_some, onTag, Option.filter_some]
    split <;> rfl

/-- A reading of the content that asks for one of two tags. -/
theorem content?_bind_firstOf {other : String} (element : Element) (first second : Reading) :
    element.content?.bind (firstOf [onTag tag first, onTag other second]) =
      ((element.contentNamed? tag).bind first).or ((element.contentNamed? other).bind second) := by
  rw [← content?_bind_onTag, ← content?_bind_onTag]
  cases element.content? with
  | none => rfl
  | some content => simp only [Option.bind_some, firstOf_cons, firstOf_nil, Option.or_none]

/-- A terminal made from a rule follows the rule on its tag. -/
theorem follows_terminal (name tag : String) (named : Terminal.tagOf name = tag) :
    Follows (terminal name rule) tag rule :=
  ⟨named, fun _ => rfl⟩

/-- A plain terminal makes a node of its tag's kind. -/
theorem follows_plain (tag : String) (named : Terminal.tagOf tag = tag) :
    Follows (.plain tag) tag fun _ => some { kind := tag } :=
  ⟨named, fun _ => by simp only [Terminal.plain, named]⟩

variable {terminal : Terminal}

/-- An element whose rule and content are assembled. -/
theorem reads_holding {assemble : Node → Node → Node} (follows : Follows terminal tag rule)
    (reads : ReadsContent bindings (depth + 1) content inner) :
    Reads bindings depth (holding terminal (always assemble) content)
      (onTag tag fun element =>
        (rule element).bind fun own => (inner element).map (assemble own)) := by
  refine (reads_link follows reads).congr fun element => ?_
  simp only [always, Option.map_eq_bind]
  rfl

/-- An element whose content is laid over what its rule makes of it. -/
theorem reads_around (follows : Follows terminal tag rule)
    (reads : ReadsContent bindings (depth + 1) content inner) :
    Reads bindings depth (around terminal content)
      (onTag tag fun element =>
        (rule element).bind fun own => (inner element).map fun rest => own.merge rest none) := by
  refine (reads_link follows reads).congr fun element => ?_
  simp only [rightWins, Option.map_eq_bind]
  rfl

/-- An element that is only on the way to its content. -/
theorem reads_through (tag : String) (named : Terminal.tagOf tag = tag)
    (reads : ReadsContent bindings (depth + 1) content inner) :
    Reads bindings depth (around (.plain tag) content)
      (onTag tag fun element => (inner element).map fun rest => { rest with kind := tag }) := by
  refine (reads_around (follows_plain tag named) reads).congr fun element => ?_
  simp only [Option.bind_some, Node.merge_of_bare]

/-- What reads elements with a tag reads the content of others if that has the tag. -/
theorem readsContent_of_onTag {pattern : Pattern} {reading : Reading}
    (first : MatchesFirstVisible bindings pattern)
    (reads : Reads bindings depth pattern (onTag tag reading)) :
    ReadsContent bindings depth pattern fun element =>
      (element.contentNamed? tag).bind reading :=
  (reads.content first).congr fun element => content?_bind_onTag element reading

end Content

/-! ## Fields -/

section Fields

variable (config : Config) (depth : Int)

/-- A reference to a group is read as such. -/
theorem reads_groupField {bindings : Bindings} :
    Reads bindings depth groupField (onTag "group" Outline.groupReference?) :=
  reads_single (follows_terminal "group:ref" "group" (by decide))

/-- An element with a type is read as its field. -/
theorem reads_typedElement {bindings : Bindings} :
    Reads bindings depth (element (terminal "element:fld" (typedField config)))
      (onTag "element" (Outline.typedField? config)) := by
  refine (reads_single (follows_terminal "element:fld" "element" (by decide))).congr
    fun element => ?_
  simp only [onTag, typedField, Outline.typedField?]
  cases given? element "type" <;> rfl

/-- A sequence on the way to what is collected from it. -/
theorem readsContent_collectedSequence {bindings : Bindings} {options : List Pattern}
    {readings : List Reading}
    (reads : List.Forall₂ (Reads bindings (depth + 1 + 1)) options readings) :
    ReadsContent bindings depth (listing sequence rightWins options) fun element =>
      (element.contentNamed? "sequence").map fun sequence =>
        { kind := "sequence"
          items := some (sequence.plainChildren.filterMap (firstOf readings)) } := by
  refine (readsContent_of_onTag matchesFirstVisible_link
    (reads_through "sequence" (by decide) (readsContent_collect reads))).congr fun element => ?_
  simp only [Option.map_eq_bind]
  rfl

/-- Fields of a nested class are read through the reference, which is four steps further down. -/
theorem reads_nestedField
    (reads : depth + 4 ≤ config.maxDepth → Reads (bindings config) (depth + 5) (field config)
      fun element => (Outline.field? config element).map
        (Node.truncateField config.maxDepth (depth + 4 + Node.nestingStride))) :
    Reads (bindings config) depth (nestedField config)
      (onTag "element" fun element => element.sequenceInType?.map fun sequence =>
        Node.truncateField config.maxDepth (depth + 4)
          (Outline.nestingField element (Outline.fields config sequence))) := by
  have reference : Reads (bindings config) (depth + 4) (nestedFields config) fun element =>
      if depth + 4 > config.maxDepth then none
      else (Outline.field? config element).map
        (Node.truncateField config.maxDepth (depth + 4 + Node.nestingStride)) :=
    reads_reference rfl fun within => by
      rw [show depth + 4 + 1 = depth + 5 by omega]
      exact reads within
  have inSequence := readsContent_collectedSequence (depth + 1 + 1)
    (.cons (by rwa [show depth + 1 + 1 + 1 + 1 = depth + 4 by omega]) .nil)
  have inType := readsContent_of_onTag matchesFirstVisible_link
    (reads_through "complexType" (by decide) inSequence)
  refine (reads_holding (follows_terminal "element:comp" "element" (by decide)) inType).congr
    fun element => ?_
  simp only [onTag, Element.sequenceInType?]
  cases element.contentNamed? "complexType" with
  | none => rfl
  | some type =>
    simp only [Option.bind_some]
    cases type.contentNamed? "sequence" with
    | none => rfl
    | some sequence =>
      simp only [firstOf_singleton, Option.map_some, nestingField, Option.bind_some,
        Node.truncateField_eq]
      congr 2
      by_cases below : depth + 4 > config.maxDepth
      · simp [Assembly.nestedClass, Assembly.collected, Outline.nestingField, below]
      · simp [Assembly.nestedClass, Assembly.collected, Outline.nestingField, Outline.fields,
          Node.truncate_eq, List.map_filterMap, below]

/-- A field whose class holds a repeated field makes nothing of elements whose complex type holds no
sequence. -/
theorem reads_arrayField (bindings : Bindings) :
    ∃ reading : Reading, Reads bindings depth (arrayField config) (onTag "element" reading) ∧
      ∀ element, element.sequenceInType? = none → reading element = none := by
  have repeated : Reads bindings (depth + 1 + 1 + 1)
      (element (terminal "element:array" (repeatedField config)))
      (onTag "element" (repeatedField config)) :=
    reads_single (follows_terminal "element:array" "element" (by decide))
  have inSequence := readsContent_of_onTag matchesFirstVisible_single repeated
  have inType := readsContent_of_onTag matchesFirstVisible_link
    (reads_through "sequence" (by decide) inSequence)
  have inElement := readsContent_of_onTag matchesFirstVisible_link
    (reads_through "complexType" (by decide) inType)
  refine ⟨_, reads_around (follows_terminal "element:comp" "element" (by decide)) inElement, ?_⟩
  intro element missing
  have missing : ((element.contentNamed? "complexType").bind fun type =>
      type.contentNamed? "sequence") = none := missing
  cases holds : element.contentNamed? "complexType" with
  | none => simp [nestingField]
  | some type =>
    rw [holds, Option.bind_some] at missing
    simp [nestingField, missing]

/-- The field of an element with a type has no class to truncate. -/
theorem map_truncateField_typedField? (element : Element) :
    (Outline.typedField? config element).map (Node.truncateField config.maxDepth depth) =
      Outline.typedField? config element := by
  rw [Outline.typedField?]
  split
  · rw [Option.map_some, Node.truncateField_of_nestedClass_eq_none rfl]
  · rfl

/-- A reference to a group has no class to truncate. -/
theorem map_truncateField_groupReference? (element : Element) :
    (Outline.groupReference? element).map (Node.truncateField config.maxDepth depth) =
      Outline.groupReference? element := by
  rw [Outline.groupReference?]
  cases given? element "ref" with
  | none => rfl
  | some ref => simp only [Option.map_some, Node.truncateField_of_nestedClass_eq_none]

/-- The alternatives for a field read what the outline says, if they do so where the reference leads
to. -/
theorem reads_field_of_nested
    (reads : depth + 5 ≤ config.maxDepth → Reads (bindings config) (depth + 6) (field config)
      fun element => (Outline.field? config element).map
        (Node.truncateField config.maxDepth (depth + 5 + Node.nestingStride))) :
    Reads (bindings config) depth (field config) fun element =>
      (Outline.field? config element).map (Node.truncateField config.maxDepth (depth + 5)) := by
  obtain ⟨array, readsArray, shadowed⟩ := reads_arrayField config (depth + 1) (bindings config)
  have readsNested := reads_nestedField config (depth + 1)
  rw [show depth + 1 + 4 = depth + 5 by omega, show depth + 1 + 5 = depth + 6 by omega]
    at readsNested
  have options := List.Forall₂.cons (readsNested reads) (.cons readsArray
    (.cons (reads_typedElement config (depth + 1)) (.cons (reads_groupField (depth + 1)) .nil)))
  refine (reads_oneOf options).congr fun element => ?_
  rw [Outline.field?_eq]
  simp only [firstOf_cons, firstOf_nil, onTag, Option.or_none]
  by_cases isElement : element.isNamed "element"
  · have notGroup := Element.isNamed_of_ne "group" isElement (by decide)
    simp only [isElement, notGroup, if_true, Bool.false_eq_true, if_false, Option.or_none]
    cases sequence : element.sequenceInType? with
    | some sequence => rfl
    | none =>
      rw [shadowed element sequence, map_truncateField_typedField?]
      rfl
  · simp only [isElement, Bool.false_eq_true, if_false, Option.none_or]
    split
    · rw [map_truncateField_groupReference?]
    · rfl

/-- The alternatives for a field read what the outline says, with nested classes truncated. -/
theorem reads_field (depth : Int) :
    Reads (bindings config) depth (field config) fun element =>
      (Outline.field? config element).map (Node.truncateField config.maxDepth (depth + 5)) := by
  -- Induction on how often the reference can still be followed from here.
  suffices budget : ∀ (left : Nat) (depth : Int), config.maxDepth < depth + 5 + left →
      Reads (bindings config) depth (field config) fun element =>
        (Outline.field? config element).map (Node.truncateField config.maxDepth (depth + 5)) from
    budget (config.maxDepth - depth - 4).toNat depth (by omega)
  intro left
  induction left with
  | zero =>
    intro depth spent
    exact reads_field_of_nested config depth fun within => by omega
  | succ left inductionHypothesis =>
    intro depth spent
    refine reads_field_of_nested config depth fun _ => ?_
    have deeper := inductionHypothesis (depth + 6) (by omega)
    rwa [show depth + 6 + 5 = depth + 5 + Node.nestingStride by rw [Node.nestingStride]; omega]
      at deeper

end Fields
end Schema
end SchemaTypes
