import SchemaTypes.Proofs.Schema.Likeness
import SchemaTypes.Proofs.Schema.SimpleTypes
import SchemaTypes.Proofs.Text.Fields

/-!
# Classes around single elements

A top level element whose type is taken for a builtin one becomes a class around its only field, and
nothing else does: no other declaration goes by the name of such a class. The prefix of the schema
namespace is looked for anywhere in the type, so that a type is taken for a builtin one as well if
some prefix in it merely ends with that of the schema namespace.
-/

namespace SchemaTypes.Schema

open SchemaTypes.Text

/-- The name of the class around an element. -/
def wrapperName (element : Element) : String :=
  wrapperBeginning ++ (Outline.title? element).getD ""

/-- The class around an element: it has the field of the element and nothing else. -/
def wrapperOf (config : Config) (element : Element) : Node :=
  { kind := Kind.classType
    name := some (wrapperName element)
    fields := some [fieldOf config element] }

/-- A child of a document element contributes a class that goes by the name of the class around
it. -/
def YieldsWrapper (config : Config) (root child : Element) : Prop :=
  ∃ type ∈ contribution config root child,
    type.kind = Kind.classType ∧ type.name = some (wrapperName child)

/-- The parts of a type that stand in front of a colon. -/
def prefixesOf (type : String) : List (List Char) := (splitFields ':' type.toList).dropLast

/-- A type starts with a prefix and a colon. -/
def HasPrefix (namespacePrefix type : String) : Prop :=
  ∃ localName, type = namespacePrefix ++ ":" ++ localName

variable {config : Config} {root child : Element}

/-- An element that is no remark contributes the type it declares. -/
theorem contribution_of_element (isSchema : root.isNamed "schema" = true)
    (isElement : child.isNamed "element" = true) :
    contribution config root child =
      ((Outline.elementType? config child).map (Node.truncate config.maxDepth 12)).toList := by
  have plain : child.isRemark = false := by
    rw [Element.isRemark, Element.isNamed_iff.1 isElement]
    decide
  have depth : nestingDepth child = 12 := by
    rw [nestingDepth, Element.isNamed_of_ne "group" isElement (by decide),
      Element.isNamed_of_ne "complexType" isElement (by decide)]
    rfl
  rw [contribution_eq isSchema, plain, if_neg (by simp), truncatedType?, depth, Outline.type?,
    if_pos isElement]

/-- A type makes a wrapper of an element if the prefix of the schema namespace occurs in it. -/
theorem wrapper?_eq (type : String) :
    Outline.wrapper? config child type =
      if namesBuiltin config type then some (wrapperOf config child) else none :=
  rfl

/-- An element with a type contributes the class around it if its type is taken for a builtin one,
and nothing otherwise. -/
theorem contribution_of_typed (isSchema : root.isNamed "schema" = true)
    (isElement : child.isNamed "element" = true) {type : String}
    (typed : given? child "type" = some type) :
    contribution config root child =
      if namesBuiltin config type then [wrapperOf config child] else [] := by
  rw [contribution_of_element isSchema isElement, Outline.elementType?, typed]
  simp only [wrapper?_eq]
  split <;> rfl

/-- Nothing goes by its own title and by the name of the class around it. -/
theorem title?_ne_wrapperName (element : Element) :
    Outline.title? element ≠ some (wrapperName element) := by
  intro same
  have longer : wrapperName element = wrapperBeginning ++ wrapperName element := by
    conv_lhs => rw [wrapperName, same, Option.getD_some]
  have lengths := congrArg String.length longer
  rw [String.length_append] at lengths
  have beginning : wrapperBeginning.length = 3 := rfl
  omega

/-- An element without a type contributes no class around it: whatever else is a class goes by the
element's own title. -/
theorem not_yieldsWrapper_of_untyped (isSchema : root.isNamed "schema" = true)
    (isElement : child.isNamed "element" = true) (untyped : given? child "type" = none) :
    ¬ YieldsWrapper config root child := by
  rintro ⟨type, member, isClass, named⟩
  rw [contribution_of_element isSchema isElement, Option.mem_toList] at member
  obtain ⟨whole, declared, rfl⟩ := Option.map_eq_some_iff.1 member
  rw [Node.truncate_eq] at isClass named
  cases Outline.declares_of_elementType? isElement declared with
  | wrapper typed =>
    rw [untyped] at typed
    cases typed
  | classType => exact title?_ne_wrapperName child named
  | group => exact absurd isClass (by decide : Kind.group ≠ Kind.classType)
  | restricted _ restricts => exact absurd isClass (restricts.isSimple.kind_ne (by decide))

/-- An element contributes the class around it exactly if its type is taken for a builtin one. -/
theorem yieldsWrapper_iff_namesBuiltin (isSchema : root.isNamed "schema" = true)
    (isElement : child.isNamed "element" = true) :
    YieldsWrapper config root child ↔
      ∃ type, given? child "type" = some type ∧ namesBuiltin config type = true := by
  cases typed : given? child "type" with
  | none => simp [not_yieldsWrapper_of_untyped isSchema isElement typed]
  | some type =>
    rw [YieldsWrapper, contribution_of_typed isSchema isElement typed]
    cases builtin : namesBuiltin config type with
    | false => simp [builtin]
    | true =>
      refine iff_of_true ⟨_, List.mem_singleton_self _, rfl, rfl⟩ ⟨type, rfl, builtin⟩

/-! ## The prefix of the schema namespace -/

section Prefix

variable (noColon : ':' ∉ config.namespacePrefix.toList) {type : String}
include noColon

/-- A type is taken for a builtin one exactly if some prefix in it ends with that of the schema
namespace. -/
theorem namesBuiltin_iff :
    namesBuiltin config type = true ↔
      ∃ part ∈ prefixesOf type, config.namespacePrefix.toList <:+ part := by
  have joined : (config.namespacePrefix ++ ":").toList =
      config.namespacePrefix.toList ++ [':'] := by
    rw [String.toList_append]
    rfl
  rw [namesBuiltin, occursIn_iff, joined, exists_eq_append_separator_iff noColon, prefixesOf]

/-- A type that starts with the prefix of the schema namespace is taken for a builtin one. -/
theorem namesBuiltin_of_hasPrefix (starts : HasPrefix config.namespacePrefix type) :
    namesBuiltin config type = true := by
  obtain ⟨localName, rfl⟩ := starts
  refine (namesBuiltin_iff noColon).2 ⟨config.namespacePrefix.toList, ?_, List.suffix_refl _⟩
  have letters : (config.namespacePrefix ++ ":" ++ localName).toList =
      config.namespacePrefix.toList ++ ':' :: localName.toList := by simp
  rw [prefixesOf, letters, splitFields_field _ noColon,
    List.dropLast_cons_of_ne_nil (splitFields_ne_nil ':' _)]
  exact List.mem_cons_self

/-- No part of the empty type stands in front of a colon, so that it does not matter whether an
empty type is told apart from none. -/
theorem exists_given?_namesBuiltin_iff {element : Element} :
    (∃ type, given? element "type" = some type ∧ namesBuiltin config type = true) ↔
      ∃ type, element.get? "type" = some type ∧
        ∃ part ∈ prefixesOf type, config.namespacePrefix.toList <:+ part := by
  refine exists_congr fun type => ?_
  rw [namesBuiltin_iff noColon, given?, Option.filter_eq_some_iff, and_assoc]
  refine and_congr_right fun _ => and_iff_right_of_imp ?_
  rintro ⟨part, listed, -⟩
  have notEmpty : type ≠ "" := by
    rintro rfl
    exact List.not_mem_nil listed
  simpa using notEmpty

end Prefix

/-- The types of a schema are what its children contribute, in order. An element among them
contributes a class around it, and nothing else then, exactly if some prefix in its type ends with
the prefix of the schema namespace. So the class is there exactly for the types that start with the
prefix of the schema namespace as long as no type has another prefix that merely ends with it. -/
theorem yieldsWrapper_iff (config : Config) (root : Element)
    (isSchema : root.isNamed "schema" = true)
    (noColon : ':' ∉ config.namespacePrefix.toList) :
    typesOf config root = root.children.flatMap (contribution config root) ∧
      ∀ child ∈ root.children, child.isNamed "element" = true →
        (YieldsWrapper config root child →
          contribution config root child = [wrapperOf config child]) ∧
        (YieldsWrapper config root child ↔
          ∃ type, child.get? "type" = some type ∧
            ∃ part ∈ prefixesOf type, config.namespacePrefix.toList <:+ part) ∧
        ((YieldsWrapper config root child ↔
            ∃ type, child.get? "type" = some type ∧ HasPrefix config.namespacePrefix type) ↔
          ∀ type, child.get? "type" = some type → HasPrefix config.namespacePrefix type ∨
            ∀ part ∈ prefixesOf type, ¬ config.namespacePrefix.toList <:+ part) := by
  refine ⟨typesOf_eq_flatMap isSchema, fun child _ isElement => ?_⟩
  have yields : YieldsWrapper config root child ↔
      ∃ type, child.get? "type" = some type ∧
        ∃ part ∈ prefixesOf type, config.namespacePrefix.toList <:+ part :=
    (yieldsWrapper_iff_namesBuiltin isSchema isElement).trans
      (exists_given?_namesBuiltin_iff noColon)
  refine ⟨fun wrapped => ?_, yields, ?_⟩
  · obtain ⟨type, typed, builtin⟩ := (yieldsWrapper_iff_namesBuiltin isSchema isElement).1 wrapped
    rw [contribution_of_typed isSchema isElement typed, if_pos builtin]
  · rw [yields]
    constructor
    · intro same type typed
      by_cases merely : ∃ part ∈ prefixesOf type, config.namespacePrefix.toList <:+ part
      · obtain ⟨type', typed', starts⟩ := same.1 ⟨type, typed, merely⟩
        obtain rfl : type' = type := Option.some.inj (typed'.symm.trans typed)
        exact Or.inl starts
      · exact Or.inr fun part listed ends => merely ⟨part, listed, ends⟩
    · intro starts
      constructor
      · rintro ⟨type, typed, part, listed, ends⟩
        exact ⟨type, typed, (starts type typed).resolve_right fun none => none part listed ends⟩
      · rintro ⟨type, typed, starts⟩
        exact ⟨type, typed, (namesBuiltin_iff noColon).1 (namesBuiltin_of_hasPrefix noColon starts)⟩

/-- An element of a builtin type. -/
def noteElement : Element := .mk "element" [("name", "note"), ("type", "xs:string")] []

/-- A schema with that element. -/
def noteSchema : Element := .mk "schema" [] [noteElement]

theorem yieldsWrapper_noteElement :
    noteSchema.isNamed "schema" = true ∧ ':' ∉ ({} : Config).namespacePrefix.toList ∧
      YieldsWrapper {} noteSchema noteElement := by
  have isSchema : noteSchema.isNamed "schema" = true := by decide
  have noColon : ':' ∉ ({} : Config).namespacePrefix.toList := by decide
  refine ⟨isSchema, noColon, ?_⟩
  have wrapped :=
    (yieldsWrapper_iff {} noteSchema isSchema noColon).2 noteElement List.mem_cons_self (by decide)
  exact wrapped.2.1.2 ⟨"xs:string", rfl, "xs".toList, by decide, by decide⟩

/-- A class may stand around an element whose type does not start with the prefix of the schema
namespace: if that is `s`, the types with the prefix `xs` are taken for builtin ones. -/
theorem not_yieldsWrapper_iff_hasPrefix :
    ¬ ∀ config : Config, config.namespacePrefix ≠ "" → ':' ∉ config.namespacePrefix.toList →
      (YieldsWrapper config noteSchema noteElement ↔
        ∃ type, noteElement.get? "type" = some type ∧ HasPrefix config.namespacePrefix type) := by
  intro same
  let config : Config := { namespacePrefix := "s" }
  have wrapped : YieldsWrapper config noteSchema noteElement :=
    (yieldsWrapper_iff_namesBuiltin (by decide) (by decide)).2 ⟨"xs:string", by decide, by decide⟩
  obtain ⟨type, typed, localName, starts⟩ := (same config (by decide) (by decide)).1 wrapped
  obtain rfl : "xs:string" = type := Option.some.inj typed
  have first := congrArg (fun text => text.toList.head?) starts
  simp [config] at first

end SchemaTypes.Schema
