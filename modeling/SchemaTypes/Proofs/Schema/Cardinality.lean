import SchemaTypes.Proofs.Schema.Recognition

/-!
# How often an element may occur

A field shows whether it may be missing by a mark behind its name, and whether it may be repeated by
a mark behind its type. To say which field shows what about which element, the fields of a schema
are followed back to the children of sequences that they are read from, at every level of nesting.
The marks are where they belong, with one exception: a field with a class of its own has none.
-/

namespace SchemaTypes.Schema

open SchemaTypes.Text

/-- The items that pass a test, each with what stands in its place in a list of results. -/
def paired {α β : Type} (test : α → Bool) (items : List α) (results : List β) : List (α × β) :=
  (items.filter test).zip results

/-- Items that something is made of are paired with what is made of them. -/
theorem mem_paired_iff {α β : Type} {read : α → Option β} {test : α → Bool}
    (tests : ∀ item, test item = (read item).isSome) {items : List α} {item : α} {result : β} :
    (item, result) ∈ paired test items (items.filterMap read) ↔
      item ∈ items ∧ read item = some result := by
  induction items with
  | nil => simp [paired]
  | cons first rest inductionHypothesis =>
    rw [paired] at inductionHypothesis ⊢
    cases found : read first with
    | none =>
      have fails : test first = false := by rw [tests, found, Option.isSome_none]
      rw [List.filter_cons_of_neg (by simp [fails]), List.filterMap_cons_none found,
        inductionHypothesis, List.mem_cons]
      constructor
      · rintro ⟨member, made⟩
        exact ⟨Or.inr member, made⟩
      · rintro ⟨rfl | member, made⟩
        · rw [found] at made
          cases made
        · exact ⟨member, made⟩
    | some node =>
      have passes : test first = true := by rw [tests, found, Option.isSome_some]
      rw [List.filter_cons_of_pos passes, List.filterMap_cons_some found, List.zip_cons_cons,
        List.mem_cons, inductionHypothesis, List.mem_cons, Prod.mk.injEq]
      constructor
      · rintro (⟨rfl, rfl⟩ | ⟨member, made⟩)
        · exact ⟨Or.inl rfl, found⟩
        · exact ⟨Or.inr member, made⟩
      · rintro ⟨rfl | member, made⟩
        · rw [found] at made
          exact Or.inl ⟨rfl, (Option.some.inj made).symm⟩
        · exact Or.inr ⟨member, made⟩

namespace Outline

/-- Whether an element in a sequence declares a field: an element with a sequence in a complex type
of its own or with a type, or a reference to a group. -/
def declaresField (element : Element) : Bool :=
  if element.isNamed "element" then
    element.sequenceInType?.isSome || (given? element "type").isSome
  else element.isNamed "group" && (given? element "ref").isSome

/-- The sequence that the fields of the type of a child of a schema are declared in. -/
def fieldSequence? (child : Element) : Option Element :=
  if child.isNamed "element" then
    if (given? child "type").isSome then none else child.sequenceInType?
  else if child.isNamed "complexType" then
    (child.contentNamed? "sequence").or ((extension? child).map (·.2))
  else if child.isNamed "group" then child.contentNamed? "sequence"
  else none

variable (config : Config) {element child sequence : Element} {type field : Node}

theorem declaresField_eq (element : Element) :
    declaresField element = (field? config element).isSome := by
  rw [declaresField, field?_eq]
  split
  · cases element.sequenceInType? with
    | some sequence => rfl
    | none => cases given : (given? element "type").isSome <;> simp [typedField?, given]
  · cases element.isNamed "group" with
    | false => rfl
    | true => simp [groupReference?]

variable {config}

/-- An element with a sequence inside declares a field with a class of its own. -/
theorem field?_of_sequenceInType? (isElement : element.isNamed "element" = true)
    (holds : element.sequenceInType? = some sequence) :
    field? config element = some (nestingField element (fields config sequence)) := by
  rw [field?_eq, if_pos isElement, holds]

/-- An element without a type, with a sequence inside, declares a class with the fields of that
sequence. -/
theorem elementType?_of_sequenceInType? (untyped : given? child "type" = none)
    (holds : child.sequenceInType? = some sequence) :
    elementType? config child = some (classOf child (fields config sequence)) := by
  obtain ⟨content, inType, inContent⟩ := Option.bind_eq_some_iff.1 holds
  obtain ⟨found, isType⟩ := Option.filter_eq_some_iff.1 inType
  have notSimple := Element.isNamed_of_ne "simpleType" isType (by decide)
  simp only [elementType?, untyped, found, Option.bind_some, contentType?, notSimple, isType,
    inContent, Bool.false_eq_true, if_false, if_true]

/-- The fields of the class of a complex type that holds a sequence or extends another type by
one. -/
theorem fields_of_complexType? (declared : complexType? config child = some type)
    (holds : (child.contentNamed? "sequence").or ((extension? child).map (·.2)) = some sequence) :
    type.fields = some (fields config sequence) := by
  rw [complexType?] at declared
  split at declared
  · cases declared
  cases inside : child.contentNamed? "sequence" with
  | some own =>
    simp only [inside, Option.some_or, Option.some.injEq] at holds declared
    subst holds declared
    rfl
  | none =>
    rw [inside, Option.none_or] at holds
    obtain ⟨⟨extension, added⟩, found, rfl⟩ := Option.map_eq_some_iff.1 holds
    simp only [inside, found, Option.some.injEq] at declared
    subst declared
    rfl

/-- The fields of a type with a sequence are those that the sequence declares. -/
theorem fields_of_type? (declared : type? config child = some type)
    (holds : fieldSequence? child = some sequence) :
    type.fields = some (fields config sequence) := by
  rw [fieldSequence?] at holds
  rw [type?] at declared
  split at holds
  · next isElement =>
    rw [if_pos isElement] at declared
    split at holds
    · cases holds
    · next untyped =>
      rw [elementType?_of_sequenceInType? (by simpa using untyped) holds] at declared
      obtain rfl := Option.some.inj declared
      rfl
  next notElement =>
  rw [if_neg notElement] at declared
  split at holds
  · next isComplex =>
    rw [if_pos isComplex] at declared
    exact fields_of_complexType? declared holds
  next notComplex =>
  rw [if_neg notComplex] at declared
  split at holds
  · next isGroup =>
    rw [if_pos isGroup, holds] at declared
    obtain ⟨name, _, declared⟩ := Option.bind_eq_some_iff.1 declared
    obtain rfl := Option.some.inj declared
    rfl
  · cases holds

end Outline

/-! ## From elements to fields -/

/-- An element in a sequence of a document and the field it contributes to what is read from the
document, at every level of nesting. -/
inductive Contributes (config : Config) (root : Element) : Element → Node → Prop where
  /-- The element is in the sequence that a type takes its fields from. -/
  | inType {schema type field : Node} {types fields : List Node} {child sequence element : Element}
      (recognized : recognize config root = some schema) (given : schema.types = some types)
      (declares : (child, type) ∈
        paired (fun child => (Outline.type? config child).isSome) root.plainChildren types)
      (holds : Outline.fieldSequence? child = some sequence) (lists : type.fields = some fields)
      (member : (element, field) ∈ paired Outline.declaresField sequence.plainChildren fields) :
      Contributes config root element field
  /-- The element is in the sequence that the class of a field takes its fields from. -/
  | inField {outerField nested field : Node} {fields : List Node}
      {outerElement sequence element : Element}
      (outer : Contributes config root outerElement outerField)
      (nests : outerField.nestedClass = some nested)
      (holds : outerElement.sequenceInType? = some sequence) (lists : nested.fields = some fields)
      (member : (element, field) ∈ paired Outline.declaresField sequence.plainChildren fields) :
      Contributes config root element field

variable {config : Config} {root element child sequence : Element} {type field : Node}

/-- Children of a sequence are paired with the fields they declare, as truncation leaves them. -/
theorem mem_paired_fields_iff {limit depth : Int} :
    (element, field) ∈ paired Outline.declaresField sequence.plainChildren
        ((Outline.fields config sequence).map (Node.truncateField limit depth)) ↔
      element ∈ sequence.plainChildren ∧
        ∃ whole, Outline.field? config element = some whole ∧
          whole.truncateField limit depth = field := by
  have tests : ∀ child, Outline.declaresField child =
      ((Outline.field? config child).map (Node.truncateField limit depth)).isSome := by
    intro child
    rw [Outline.declaresField_eq config, Option.isSome_map]
  rw [Outline.fields, List.map_filterMap, mem_paired_iff tests, Option.map_eq_some_iff]

/-- The class of a field that truncation leaves has no fields, or those of the sequence in the
element's complex type. -/
theorem fields_of_nestedClass {limit depth : Int} {whole nested : Node} {fields : List Node}
    (declared : Outline.field? config element = some whole)
    (holds : element.sequenceInType? = some sequence)
    (nests : (whole.truncateField limit depth).nestedClass = some nested)
    (lists : nested.fields = some fields) :
    fields = [] ∨ fields = (Outline.fields config sequence).map
      (Node.truncateField limit (depth + Node.nestingStride)) := by
  rw [Outline.field?_eq, holds] at declared
  split at declared
  · obtain rfl := Option.some.inj declared
    simp only [Node.truncateField_eq, Outline.nestingField, Option.map_some,
      Option.some.injEq] at nests
    subst nests
    split at lists
    · exact Or.inl (Option.some.inj lists).symm
    · rw [Node.truncate_eq] at lists
      exact Or.inr (Option.some.inj lists).symm
  · split at declared
    · obtain ⟨ref, -, rfl⟩ := Option.map_eq_some_iff.1 declared
      rw [Node.truncateField_of_nestedClass_eq_none rfl] at nests
      cases nests
    · cases declared

/-- What an element contributes is what the outline says it declares, with nested classes
truncated. -/
theorem exists_field?_of_contributes (contributes : Contributes config root element field) :
    ∃ whole depth, Outline.field? config element = some whole ∧
      whole.truncateField config.maxDepth depth = field := by
  induction contributes with
  | inType recognized given declares holds lists member =>
    rw [recognize_eq] at recognized
    split at recognized
    · obtain rfl := Option.some.inj recognized
      obtain rfl := Option.some.inj given
      rw [mem_paired_iff (by simp [truncatedType?])] at declares
      obtain ⟨whole, declared, rfl⟩ := Option.map_eq_some_iff.1 declares.2
      rw [Node.truncate_eq, Outline.fields_of_type? declared holds] at lists
      obtain rfl := Option.some.inj lists
      obtain ⟨-, whole, declared, same⟩ := mem_paired_fields_iff.1 member
      exact ⟨whole, _, declared, same⟩
    · cases recognized
  | inField _ nests holds lists member inductionHypothesis =>
    obtain ⟨whole, depth, declared, rfl⟩ := inductionHypothesis
    obtain rfl | rfl := fields_of_nestedClass declared holds nests lists
    · -- The class is emptied, so nothing contributes to it.
      simp [paired] at member
    · obtain ⟨-, whole, declared, same⟩ := mem_paired_fields_iff.1 member
      exact ⟨whole, _, declared, same⟩

/-- In a schema every element that declares a field in the sequence of a type contributes it, with
nested classes truncated. -/
theorem contributes_of_field? (isSchema : root.isNamed "schema" = true)
    (isChild : child ∈ root.plainChildren) (declared : Outline.type? config child = some type)
    (holds : Outline.fieldSequence? child = some sequence)
    (inside : element ∈ sequence.plainChildren)
    (declares : Outline.field? config element = some field) :
    Contributes config root element
      (field.truncateField config.maxDepth (nestingDepth child)) := by
  have pair : (child, type.truncate config.maxDepth (nestingDepth child)) ∈
      paired (fun child => (Outline.type? config child).isSome) root.plainChildren
        (root.plainChildren.filterMap (truncatedType? config)) := by
    rw [mem_paired_iff (by simp [truncatedType?])]
    exact ⟨isChild, by rw [truncatedType?, declared, Option.map_some]⟩
  refine .inType ((recognize_eq config root).trans (if_pos isSchema)) rfl pair holds ?_
    (mem_paired_fields_iff.2 ⟨inside, field, declares, rfl⟩)
  rw [Node.truncate_eq, Outline.fields_of_type? declared holds, Option.map_some]

/-- What an element contributes whose class is not emptied, every element in its sequence that
declares a field contributes to. -/
theorem contributes_of_nestedField? {outer : Element} {outerField : Node} {depth : Int}
    (contributes : Contributes config root outer (outerField.truncateField config.maxDepth depth))
    (isElement : outer.isNamed "element" = true)
    (declared : Outline.field? config outer = some outerField)
    (holds : outer.sequenceInType? = some sequence) (shallow : depth ≤ config.maxDepth)
    (inside : element ∈ sequence.plainChildren)
    (declares : Outline.field? config element = some field) :
    Contributes config root element
      (field.truncateField config.maxDepth (depth + Node.nestingStride)) := by
  rw [Outline.field?_of_sequenceInType? isElement holds] at declared
  obtain rfl := Option.some.inj declared
  have nests : ((Outline.nestingField outer (Outline.fields config sequence)).truncateField
        config.maxDepth depth).nestedClass =
      some (Node.truncate config.maxDepth (depth + Node.nestingStride)
        { kind := Kind.classType, name := (outer.get? "name").map capitalizeFirst,
          fields := some (Outline.fields config sequence) }) := by
    rw [Node.truncateField_eq]
    exact congrArg some (if_neg (by omega))
  refine .inField contributes nests holds ?_ (mem_paired_fields_iff.2 ⟨inside, field, declares, rfl⟩)
  rw [Node.truncate_eq]
  rfl

/-! ## Cardinality -/

/-- The type of the field that an element declares, before it is marked: the capital form of the
element's name if the field has a class of its own, and else what the element's type stands for. -/
def unmarkedType (config : Config) (element : Element) : String :=
  if element.sequenceInType?.isSome then ((element.get? "name").map capitalizeFirst).getD ""
  else TypeName.target config.overrides (element.get? "type")

/-- A field goes by the name of its element, marked exactly if the element may be missing, and has
the element's type, marked exactly if the element may be repeated. -/
structure ShowsCardinality (config : Config) (element : Element) (field : Node) : Prop where
  name : field.fieldName.getD "" =
    (element.get? "name").getD "" ++ if isOptional element then optionalMark else ""
  type : field.fieldType.getD "" =
    unmarkedType config element ++ if isRepeated element then repeatedMark else ""

/-- A text with something behind it is another text. -/
theorem eq_append_ite_iff (text : String) {mark : String} {marked : Bool} (written : mark ≠ "") :
    text = text ++ (if marked then mark else "") ↔ marked = false := by
  cases marked with
  | false => simp
  | true =>
    simp only [if_true, Bool.true_eq_false, iff_false]
    intro same
    have letters := congrArg String.toList same
    rw [String.toList_append, List.self_eq_append_right] at letters
    exact written (String.toList_injective letters)

/-- The field an element declares shows its cardinality, unless there is something to show and the
field has a class of its own. -/
theorem showsCardinality_of_field?_iff (isElement : element.isNamed "element" = true)
    (declared : Outline.field? config element = some field) :
    field.kind = Kind.field ∧
      (ShowsCardinality config element field ↔
        element.sequenceInType? = none ∨
          (isOptional element = false ∧ isRepeated element = false)) := by
  rw [Outline.field?_eq, if_pos isElement] at declared
  cases found : element.sequenceInType? with
  | some sequence =>
    rw [found] at declared
    obtain rfl := Option.some.inj declared
    refine ⟨rfl, ?_⟩
    have name : (Outline.nestingField element (Outline.fields config sequence)).fieldName.getD "" =
        (element.get? "name").getD "" := rfl
    have type : (Outline.nestingField element (Outline.fields config sequence)).fieldType.getD "" =
        unmarkedType config element := by
      rw [unmarkedType, found]
      rfl
    have noMark : optionalMark ≠ "" := by decide
    have noMark' : repeatedMark ≠ "" := by decide
    simp only [reduceCtorEq, false_or]
    rw [← eq_append_ite_iff ((element.get? "name").getD "") noMark,
      ← eq_append_ite_iff (unmarkedType config element) noMark']
    constructor
    · rintro ⟨shownName, shownType⟩
      exact ⟨name.symm.trans shownName, type.symm.trans shownType⟩
    · rintro ⟨plainName, plainType⟩
      exact ⟨name.trans plainName, type.trans plainType⟩
  | none =>
    rw [found] at declared
    obtain ⟨typed, declared⟩ : (given? element "type").isSome ∧ fieldOf config element = field := by
      simpa [Outline.typedField?] using declared
    subst declared
    refine ⟨rfl, iff_of_true ⟨?_, ?_⟩ (Or.inl rfl)⟩
    · cases marked : isOptional element <;> simp [fieldOf, marked]
    · cases marked : isRepeated element <;> simp [fieldOf, unmarkedType, found, marked]

/-- The field that an element in a sequence contributes, at any level of nesting, shows how often
the element may occur, unless there is something to show and the field has a class of its own: such
a field has no marks. -/
theorem showsCardinality_iff_of_contributes (config : Config) (root element : Element) (field : Node)
    (contributes : Contributes config root element field)
    (isElement : element.isNamed "element" = true) :
    field.kind = Kind.field ∧
      (ShowsCardinality config element field ↔
        element.sequenceInType? = none ∨
          (isOptional element = false ∧ isRepeated element = false)) := by
  obtain ⟨whole, depth, declared, rfl⟩ := exists_field?_of_contributes contributes
  obtain ⟨isField, shows⟩ := showsCardinality_of_field?_iff isElement declared
  rw [← shows, Node.truncateField_eq]
  exact ⟨isField, fun shown => ⟨shown.name, shown.type⟩, fun shown => ⟨shown.name, shown.type⟩⟩

/-- An element that may be repeated and has a type. -/
def repeatedCity : Element :=
  .mk "element" [("name", "city"), ("type", "city"), ("maxOccurs", "unbounded")] []

/-- An element that may be missing and has a complex type of its own. -/
def optionalAddress : Element :=
  .mk "element" [("name", "address"), ("minOccurs", "0")]
    [.mk "complexType" [] [.mk "sequence" [] [repeatedCity]]]

/-- A schema with the one inside the other. -/
def orderSchema : Element :=
  .mk "schema" [] [.mk "complexType" [("name", "order")] [.mk "sequence" [] [optionalAddress]]]

/-- The optional address of an order is one of its fields. -/
theorem contributes_optionalAddress :
    ∃ field, Outline.field? {} optionalAddress = some field ∧ field.fieldName = some "address" ∧
      Contributes {} orderSchema optionalAddress (field.truncateField 500 12) := by
  have isSchema : orderSchema.isNamed "schema" = true := by decide
  have declares := (Outline.field?_eq {} optionalAddress).trans rfl
  exact ⟨_, declares, rfl, contributes_of_field? isSchema (List.mem_singleton.2 rfl) rfl rfl
    (List.mem_singleton.2 rfl) declares⟩

theorem showsCardinality_repeatedCity :
    let field : Node :=
      { kind := Kind.field, fieldName := some "city", fieldType := some "city[]" }
    Contributes {} orderSchema repeatedCity field ∧ repeatedCity.isNamed "element" = true ∧
      ShowsCardinality {} repeatedCity field := by
  intro field
  obtain ⟨outer, declared, -, outerContributes⟩ := contributes_optionalAddress
  have contributes : Contributes {} orderSchema repeatedCity field :=
    contributes_of_nestedField? outerContributes (by decide) declared rfl (by decide)
      (List.mem_singleton.2 rfl) ((Outline.field?_eq {} repeatedCity).trans rfl)
  exact ⟨contributes, by decide,
    (showsCardinality_iff_of_contributes {} orderSchema repeatedCity field contributes
      (by decide)).2.2 (Or.inl rfl)⟩

/-- Not every element shows how often it may occur: an element with a complex type of its own goes
by its bare name although it may be missing. -/
theorem not_showsCardinality_optionalAddress :
    ¬ ∀ (element : Element) (field : Node), Contributes {} orderSchema element field →
      element.isNamed "element" = true → ShowsCardinality {} element field := by
  intro shows
  obtain ⟨field, -, named, contributes⟩ := contributes_optionalAddress
  have marked := (shows optionalAddress _ contributes (by decide)).name
  rw [Node.truncateField_eq, named] at marked
  exact absurd marked (by decide)

end SchemaTypes.Schema
