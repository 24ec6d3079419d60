import SchemaTypes.Proofs.Schema.Likeness

/-!
# What counts in a document

What a document means is a matter of its shape, of the local names of its elements and of the values
of seven attributes, of which most count on a few tags only. Namespaces, prefixes and whatever else
is written in a tag make no difference to what is read.
-/

namespace SchemaTypes.Schema

/-- The attributes that carry the meaning of a schema. -/
def meaningfulAttributes : List String :=
  ["name", "type", "ref", "base", "value", "minOccurs", "maxOccurs"]

/-- The attributes a reading uses on elements with a local name. -/
def usedAttributes (localName? : Option String) : List String :=
  ["name", "type"] ++
    match localName? with
    | some "enumeration" => ["value"]
    | some "extension" | some "restriction" => ["base"]
    | some "group" => ["ref"]
    | some "element" | some "attribute" => ["minOccurs", "maxOccurs"]
    | _ => []

/-- Two elements have one local name and one value, or none, of every attribute that counts on
elements of this name. -/
def SameMeaning (counts : Option String → List String) (element element' : Element) : Prop :=
  element.localName? = element'.localName? ∧
    ∀ name ∈ counts element.localName?, element.get? name = element'.get? name

/-- Every attribute that is used is one of those that carry meaning. -/
theorem usedAttributes_subset (localName? : Option String) :
    usedAttributes localName? ⊆ meaningfulAttributes := by
  unfold usedAttributes
  split <;> decide

/-- Elements with the same meaningful attributes have the same used ones. -/
theorem SameMeaning.used_of_meaningful {element element' : Element}
    (same : SameMeaning (fun _ => meaningfulAttributes) element element') :
    SameMeaning usedAttributes element element' :=
  ⟨same.1, fun name used => same.2 name (usedAttributes_subset _ used)⟩

/-- Elements that agree on the attributes that are used look alike to a reading. -/
theorem SameMeaning.looksAlike {config : Config} {element element' : Element}
    (same : SameMeaning usedAttributes element element') :
    LooksAlike config config element element' := by
  obtain ⟨localName?, values⟩ := same
  have name : element.get? "name" = element'.get? "name" := values "name" (by simp [usedAttributes])
  have type : element.get? "type" = element'.get? "type" := values "type" (by simp [usedAttributes])
  have base : element.isNamed "extension" = true ∨ element.isNamed "restriction" = true →
      element.get? "base" = element'.get? "base" := by
    rintro (named | named) <;>
      exact values "base" (by simp [usedAttributes, Element.isNamed_iff.1 named])
  refine ⟨localName?, name, type, ?ref, ?value, base, ?field, ?target⟩
  case ref =>
    intro named
    exact values "ref" (by simp [usedAttributes, Element.isNamed_iff.1 named])
  case value =>
    intro named
    exact values "value" (by simp [usedAttributes, Element.isNamed_iff.1 named])
  case field =>
    intro named
    have occurs : element.get? "minOccurs" = element'.get? "minOccurs" ∧
        element.get? "maxOccurs" = element'.get? "maxOccurs" := by
      rcases named with named | named <;>
        exact ⟨values "minOccurs" (by simp [usedAttributes, Element.isNamed_iff.1 named]),
          values "maxOccurs" (by simp [usedAttributes, Element.isNamed_iff.1 named])⟩
    have optional : isOptional element = isOptional element' := by
      rw [isOptional, isOptional, occurs.1]
    have repeated : isRepeated element = isRepeated element' := by
      rw [isRepeated, isRepeated, occurs.2]
    rw [fieldOf, fieldOf, optional, repeated, name, type]
  case target =>
    intro named
    rw [base (Or.inr named)]

/-- Documents that agree on what is used are recognized as the same schema. -/
theorem recognize_eq_of_usedAttributes (config : Config) {root root' : Element}
    (same : root.Corresponds (SameMeaning usedAttributes) root') :
    recognize config root = recognize config root' :=
  recognize_of_alike (same.mono fun _ _ own => own.looksAlike) rfl fun _ _ _ _ _ => rfl

/-- Documents of one shape are recognized as the same schema if elements in the same place have one
local name and the same values, or none, of the attributes that carry meaning, whatever else tells
them apart. It is even enough that they agree on those attributes that are used on elements of their
name. -/
theorem recognize_of_sameMeaning (config : Config) (root root' : Element) :
    (root.Corresponds (SameMeaning fun _ => meaningfulAttributes) root' →
      recognize config root = recognize config root') ∧
    (root.Corresponds (SameMeaning usedAttributes) root' →
      recognize config root = recognize config root') :=
  ⟨fun same => recognize_eq_of_usedAttributes config
      (same.mono fun _ _ own => own.used_of_meaningful),
    recognize_eq_of_usedAttributes config⟩

/-- A schema with its elements in a namespace. -/
def qualified : Element :=
  .mk "{http://www.w3.org/2001/XMLSchema}schema" [("version", "1")] [
    .mk "{http://www.w3.org/2001/XMLSchema}element"
      [("id", "e1"), ("name", "city"), ("type", "xs:string"), ("minOccurs", "0")] []]

/-- The same schema without a namespace, its attributes in another order. -/
def unqualified : Element :=
  .mk "schema" [] [
    .mk "element" [("minOccurs", "0"), ("{urn:x}type", "own:text"), ("type", "xs:string"),
      ("name", "city")] []]

/-- The same schema with attributes that are not used where they stand. -/
def overloaded : Element :=
  .mk "schema" [("minOccurs", "0")] [
    .mk "element" [("name", "city"), ("type", "xs:string"), ("minOccurs", "0"), ("base", "xs:int"),
      ("ref", "town"), ("value", "none")] []]

/-- Neither prefixes nor attributes that no tag calls for change what is recognized. -/
theorem recognize_of_sameMeaning_qualified :
    qualified.Corresponds (SameMeaning fun _ => meaningfulAttributes) unqualified ∧
      recognize {} qualified = recognize {} unqualified ∧
      unqualified.Corresponds (SameMeaning usedAttributes) overloaded ∧
      recognize {} unqualified = recognize {} overloaded := by
  have first : qualified.Corresponds (SameMeaning fun _ => meaningfulAttributes) unqualified :=
    .mk ⟨by decide, by decide⟩ (.cons (.mk ⟨by decide, by decide⟩ .nil) .nil)
  have second : unqualified.Corresponds (SameMeaning usedAttributes) overloaded :=
    .mk ⟨by decide, by decide⟩ (.cons (.mk ⟨by decide, by decide⟩ .nil) .nil)
  exact ⟨first, (recognize_of_sameMeaning {} qualified unqualified).1 first, second,
    (recognize_of_sameMeaning {} unqualified overloaded).2 second⟩

end SchemaTypes.Schema
