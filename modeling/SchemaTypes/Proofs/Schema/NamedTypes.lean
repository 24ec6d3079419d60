import SchemaTypes.Proofs.Config.Settings
import SchemaTypes.Proofs.Schema.FieldSources

/-!
# Names of types in schemas

No declaration leaves a field or an alias without the name of a type: where a document names none,
the name of the text type stands in. Only a configuration can take a name away, by an override
without a target.
-/

namespace SchemaTypes.Schema

open SchemaTypes.TypeName

/-- The types in the schema that a document is read as have names. A field without a class of its
own is made of an element or attribute of the document, and whichever it is made of, the type in
front of the mark for repetition is not empty; nor is the type of an alias. -/
def NamesTypes (config : Config) (root : Element) : Prop :=
  ∀ schema, recognize config root = some schema → ∀ inner ∈ schema.flatten,
    (inner.kind = Kind.field → inner.nestedClass = none →
      (∃ source ∈ root.everyElement, inner = fieldOf config source) ∧
      ∀ source ∈ root.everyElement, inner = fieldOf config source →
        target config.overrides (source.get? "type") ≠ "") ∧
    (inner.kind = Kind.aliasType → ∃ type, inner.type = some type ∧ type ≠ "")

variable {config : Config}

/-- Types have names if no reference stands for the empty text. -/
theorem namesTypes_of_target_ne_empty
    (named : ∀ reference, target config.overrides reference ≠ "") (root : Element) :
    NamesTypes config root := by
  intro schema recognized inner member
  refine ⟨fun isField flat => ⟨fieldsStemFrom_of_recognize recognized inner member isField flat,
    fun source _ _ => named _⟩, fun isAlias => ?_⟩
  obtain ⟨restriction, -, restricts⟩ :=
    exists_restricts_of_mem_flatten recognized member (Or.inl isAlias)
  cases restricts with
  | aliasType name spelled => exact ⟨_, rfl, named _⟩
  | enumeration => exact absurd isAlias (by decide : Kind.enumeration ≠ Kind.aliasType)

/-- An attribute that refers to a type. -/
def kindAttribute (type : String) : Element :=
  .mk "attribute" [("name", "kind"), ("type", type)] []

/-- A group of that attribute. -/
def kindGroup (type : String) : Element :=
  .mk "attributeGroup" [("name", "kinds")] [kindAttribute type]

/-- A schema with that group. -/
def kindSchema (type : String) : Element := .mk "schema" [] [kindGroup type]

theorem localName?_kindAttribute (type : String) :
    (kindAttribute type).localName? = some "attribute" :=
  (Element.localName?_mk _ _ _).trans (by decide)

theorem localName?_kindGroup (type : String) :
    (kindGroup type).localName? = some "attributeGroup" :=
  (Element.localName?_mk _ _ _).trans (by decide)

theorem isNamed_kindSchema (type : String) : (kindSchema type).isNamed "schema" = true :=
  Element.isNamed_iff.2 ((Element.localName?_mk _ _ _).trans (by decide))

theorem attributeFields_kindGroup (type : String) :
    Outline.attributeFields config (kindGroup type) = [fieldOf config (kindAttribute type)] := by
  have plain : (kindAttribute type).isRemark = false := by
    rw [Element.isRemark, localName?_kindAttribute]
    decide
  simp [Outline.attributeFields, Element.plainChildren, kindGroup, Element.children, plain,
    Outline.attributeField?, Element.isNamed, localName?_kindAttribute]

/-- The schema holds the group, with the field of the attribute. -/
theorem recognize_kindSchema (type : String) :
    recognize config (kindSchema type) =
      some { kind := Kind.classType
             types := some [Outline.groupOf "kinds" [fieldOf config (kindAttribute type)]] } := by
  have plain : (kindGroup type).isRemark = false := by
    rw [Element.isRemark, localName?_kindGroup]
    decide
  have named : given? (kindGroup type) "name" = some "kinds" :=
    (by decide : (some "kinds").filter (fun name => decide (name ≠ "")) = some "kinds")
  have declared : Outline.type? config (kindGroup type) =
      some (Outline.groupOf "kinds" [fieldOf config (kindAttribute type)]) := by
    simp [Outline.type?, Element.isNamed, localName?_kindGroup, named, attributeFields_kindGroup]
  have truncated : truncatedType? config (kindGroup type) =
      some (Outline.groupOf "kinds" [fieldOf config (kindAttribute type)]) := by
    rw [truncatedType?, declared, Option.map_some, truncate_of_flat rfl (by simp [fieldOf])]
  rw [recognize_eq, if_pos (isNamed_kindSchema type)]
  simp [Element.plainChildren, kindSchema, Element.children, plain, truncated]

/-- The type of an attribute has no name if its override takes it away. -/
theorem not_namesTypes_kindSchema {type : String} (given : type ≠ "")
    (override : config.overrides.find? type = some "") : ¬ NamesTypes config (kindSchema type) := by
  intro named
  have memberGroup : fieldOf config (kindAttribute type) ∈
      (Outline.groupOf "kinds" [fieldOf config (kindAttribute type)]).flatten :=
    Node.mem_flatten_of_mem_list .fields rfl List.mem_cons_self (Node.self_mem_flatten _)
  have member : fieldOf config (kindAttribute type) ∈
      ({ kind := Kind.classType
         types := some [Outline.groupOf "kinds" [fieldOf config (kindAttribute type)]] } :
        Node).flatten :=
    Node.mem_flatten_of_mem_list .types rfl List.mem_cons_self memberGroup
  have inside : kindAttribute type ∈ (kindSchema type).everyElement := by
    simp [kindSchema, kindGroup, kindAttribute, Element.everyElement, Element.everyElementOf]
  have typed := ((named _ (recognize_kindSchema type) _ member).1 rfl rfl).2 _ inside rfl
  exact typed (target_eq_empty_iff.2 ⟨type, rfl, given, by rw [override, Option.some_or]⟩)

/-- Under the configuration that is read from a text the types of every schema have names, exactly
if no type is left without a name by the last override that the text has for it. An override of the
empty name does not count, as nothing refers to a type by that. -/
theorem namesTypes_iff (text : String) :
    (∀ root, NamesTypes (Config.read text).1 root) ↔
      ∀ name ≠ "", Config.lastOverride? name (Config.settings text.toList) ≠ some "" := by
  simp only [← Config.find?_overrides_read]
  constructor
  · intro named name given override
    exact not_namesTypes_kindSchema given override (named (kindSchema name))
  · intro kept
    refine namesTypes_of_target_ne_empty fun reference empty => ?_
    obtain ⟨name, -, given, override⟩ := target_eq_empty_iff.1 empty
    rcases Option.or_eq_some_iff.1 override with whole | ⟨-, withoutPrefix⟩
    · exact kept name given whole
    · exact kept (lookupName name) (lookupName_ne_empty name) withoutPrefix

/-- Not every configuration text leaves the types their names: one with an override that has no
target takes the name of a type away. -/
theorem not_namesTypes_emptyOverride :
    ¬ ∀ text root, NamesTypes (Config.read text).1 root := by
  intro named
  have override : (Config.read "type.foo=").1.overrides.find? "foo" = some "" := by decide
  exact not_namesTypes_kindSchema (by decide) override (named "type.foo=" (kindSchema "foo"))

end SchemaTypes.Schema
