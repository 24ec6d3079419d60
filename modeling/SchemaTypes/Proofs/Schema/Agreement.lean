import SchemaTypes.Proofs.Config.Fingerprint
import SchemaTypes.Proofs.Schema.Likeness

/-!
# Reading under configurations that agree

A reading looks overrides up by the types that a document refers to and uses nothing else of them,
and it looks for the prefix in the types of top level elements only. Configurations that agree this
far on a document read it alike, and configurations that mean the same read every document alike.
-/

namespace SchemaTypes

namespace Element

/-- The types that an element and everything inside it refer to, as a type or as a base. -/
def references (element : Element) : List String :=
  element.everyElement.flatMap fun inner =>
    (inner.get? "type").toList ++ (inner.get? "base").toList

/-- The types of the top level elements of a document. -/
def topLevelTypes (root : Element) : List String :=
  (root.children.filter (·.isNamed "element")).filterMap (·.get? "type")

/-- The type of an element in a document is referred to there. -/
theorem mem_references_of_type {root element : Element} {type : String}
    (inside : element ∈ root.everyElement) (named : element.get? "type" = some type) :
    type ∈ root.references :=
  List.mem_flatMap.2 ⟨element, inside, by simp [named]⟩

/-- The base of an element in a document is referred to there. -/
theorem mem_references_of_base {root element : Element} {base : String}
    (inside : element ∈ root.everyElement) (named : element.get? "base" = some base) :
    base ∈ root.references :=
  List.mem_flatMap.2 ⟨element, inside, by simp [named]⟩

/-- The type of an element that is a child of a schema is one of the top level. -/
theorem mem_topLevelTypes {root child : Element} {type : String} (member : child ∈ root.children)
    (isElement : child.isNamed "element" = true) (named : child.get? "type" = some type) :
    type ∈ root.topLevelTypes :=
  List.mem_filterMap.2 ⟨child, List.mem_filter.2 ⟨member, isElement⟩, named⟩

end Element

/-- A reference stands for the same type under overrides that map the names alike under which it is
looked up. -/
theorem TypeName.target_congr {left right : Overrides} {reference : Option String}
    (same : ∀ name, reference = some name → left.find? name = right.find? name ∧
      left.find? (lookupName name) = right.find? (lookupName name)) :
    target left reference = target right reference := by
  cases reference with
  | none => rfl
  | some name =>
    obtain ⟨whole, withoutPrefix⟩ := same name rfl
    rw [target, target, whole, withoutPrefix]

/-- Configurations that agree on a document: they have one greatest depth, their prefixes occur in
the same types of top level elements, and their overrides map the types alike that the document
refers to, as they are written and without their prefixes. -/
structure Config.AgreeOn (left right : Config) (root : Element) : Prop where
  maxDepth : left.maxDepth = right.maxDepth
  namespacePrefix : ∀ type ∈ root.topLevelTypes,
    Schema.namesBuiltin left type = Schema.namesBuiltin right type
  overrides : ∀ type ∈ root.references,
    left.overrides.find? type = right.overrides.find? type ∧
      left.overrides.find? (TypeName.lookupName type) =
        right.overrides.find? (TypeName.lookupName type)

/-- Configurations that mean the same agree on every document. -/
theorem Config.Agree.on {left right : Config} (agree : left.Agree right) (root : Element) :
    left.AgreeOn right root where
  maxDepth := agree.maxDepth
  namespacePrefix type _ := by
    rw [Schema.namesBuiltin, Schema.namesBuiltin, agree.namespacePrefix]
  overrides type _ := ⟨agree.overrides type, agree.overrides (TypeName.lookupName type)⟩

namespace Schema

variable {left right : Config} {root : Element}

/-- Under configurations that agree on a document every element of it looks the same. -/
theorem looksAlike_of_agreeOn (agree : left.AgreeOn right root) {element : Element}
    (inside : element ∈ root.everyElement) : LooksAlike left right element element where
  localName? := rfl
  name := rfl
  type := rfl
  ref _ := rfl
  value _ := rfl
  base _ := rfl
  field _ := by
    rw [fieldOf, fieldOf, TypeName.target_congr fun type named =>
      agree.overrides type (Element.mem_references_of_type inside named)]
  target _ := TypeName.target_congr fun base named =>
    agree.overrides base (Element.mem_references_of_base inside named)

/-- Configurations that agree on a document recognize the same schema in it. -/
theorem recognize_eq_of_agreeOn (agree : left.AgreeOn right root) :
    recognize left root = recognize right root :=
  recognize_of_alike (.of_forall_everyElement fun _ inside => looksAlike_of_agreeOn agree inside)
    agree.maxDepth fun _ member isElement _ named =>
      agree.namespacePrefix _ (Element.mem_topLevelTypes member isElement named)

/-- A document is read alike under configurations that mean the same. -/
theorem ofText_of_agree (agree : left.Agree right) (text : String) :
    ofText left text = ofText right text := by
  simp only [ofText, ofElement, recognize_eq_of_agreeOn (agree.on _)]

/-- A document is recognized as the same schema under configurations that agree on it. So an
override makes no difference to a document that refers to no type under its name, and the prefix
makes none to a document without types of top level elements. -/
theorem recognize_of_agreeOn :
    (∀ (left right : Config) (root : Element), left.AgreeOn right root →
      recognize left root = recognize right root) ∧
    (∀ (config : Config) (name target : String) (root : Element),
      (∀ type ∈ root.references, type ≠ name ∧ TypeName.lookupName type ≠ name) →
        recognize { config with overrides := config.overrides.insert name target } root =
          recognize config root) ∧
    ∀ (config : Config) (namespacePrefix : String) (root : Element),
      root.topLevelTypes = [] →
        recognize { config with namespacePrefix } root = recognize config root := by
  refine ⟨fun left right root agree => recognize_eq_of_agreeOn agree, ?_, ?_⟩
  · intro config name target root unnamed
    refine recognize_eq_of_agreeOn ⟨rfl, fun _ _ => rfl, fun type member => ?_⟩
    obtain ⟨whole, withoutPrefix⟩ := unnamed type member
    rw [Overrides.find?_insert, Overrides.find?_insert, if_neg whole, if_neg withoutPrefix]
    exact ⟨rfl, rfl⟩
  · intro config namespacePrefix root untyped
    refine recognize_eq_of_agreeOn ⟨rfl, fun type member => ?_, fun _ _ => ⟨rfl, rfl⟩⟩
    rw [untyped] at member
    cases member

/-- A schema with a builtin type behind a prefix, a type of its own at the top level, and a
restriction. -/
def referring : Element :=
  .mk "schema" [] [
    .mk "element" [("name", "order"), ("type", "own:order")] [],
    .mk "complexType" [("name", "order")] [.mk "sequence" [] [
      .mk "element" [("name", "price"), ("type", "xs:decimal")] []]],
    .mk "simpleType" [("name", "size")] [.mk "restriction" [("base", "xs:int")] []]]

theorem recognize_of_agreeOn_referring :
    let left : Config := { overrides := .ofList [("decimal", "Money"), ("date", "Day")] }
    let right : Config :=
      { namespacePrefix := "xsd", overrides := .ofList [("time", "Hour"), ("decimal", "Money")] }
    left.AgreeOn right referring ∧ recognize left referring = recognize right referring ∧
      recognize { right with overrides := right.overrides.insert "long" "Big" } referring =
        recognize right referring ∧
      recognize { left with namespacePrefix := "x" } (.mk "schema" [] []) =
        recognize left (.mk "schema" [] []) := by
  intro left right
  have agree : left.AgreeOn right referring := ⟨rfl, by decide, by decide⟩
  exact ⟨agree, recognize_of_agreeOn.1 left right referring agree,
    recognize_of_agreeOn.2.1 right "long" "Big" referring (by decide),
    recognize_of_agreeOn.2.2 left "x" (.mk "schema" [] []) (by decide)⟩

end Schema

end SchemaTypes
