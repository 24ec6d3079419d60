import SchemaTypes.Proofs.Node.Inside
import SchemaTypes.Proofs.Schema.Declared
import SchemaTypes.Proofs.Schema.TopLevel
import SchemaTypes.Proofs.TypeName.Spelling

/-!
# Where aliases and enumerations come from

Every alias and every enumeration in a schema is contributed by a child of the document element that
declares a simple type, in an element or on its own, and the restriction of that simple type
decides: its base is spelled like a whole number type for an alias, and like a text type, but not
like a whole number type, for an enumeration of the values that the restriction lists.
-/

namespace SchemaTypes.Schema

namespace Outline

variable {config : Config} {element : Element} {node : Node}

/-- What a restriction makes of a name stands for a simple type. -/
theorem Restricts.isSimple {restriction : Element} (restricts : Restricts config restriction node) :
    node.IsSimple := by
  cases restricts with
  | aliasType => exact Or.inl rfl
  | enumeration => exact Or.inr rfl

/-- What a restriction makes of a name has no fields. -/
theorem Restricts.fields_eq_none {restriction : Element}
    (restricts : Restricts config restriction node) : node.fields = none := by
  cases restricts with
  | aliasType => rfl
  | enumeration => rfl

/-- What a child of a schema declares is made by a restriction if it stands for a simple type. -/
theorem Declares.restricts (declares : Declares config element node) (simple : node.IsSimple) :
    ∃ restriction, restriction? element = some restriction ∧ Restricts config restriction node := by
  have notClass : node.kind ≠ Kind.classType := simple.kind_ne (by decide)
  have notGroup : node.kind ≠ Kind.group := simple.kind_ne (by decide)
  cases declares with
  | wrapper => exact absurd rfl notClass
  | classType => exact absurd rfl notClass
  | group => exact absurd rfl notGroup
  | restricted holds restricts => exact ⟨_, holds, restricts⟩

end Outline

/-! ## Inside a schema -/

/-- A node is all that some child of a document element contributes, and the child holds the
restriction of a simple type. -/
def ContributedBy (config : Config) (root restriction : Element) (node : Node) : Prop :=
  ∃ child ∈ root.children, contribution config root child = [node] ∧
    Outline.restriction? child = some restriction

variable {config : Config} {root : Element} {schema inner : Node}

/-- What stands for a simple type inside a schema comes from a child of the document element, and it
is made by the restriction that this child holds. -/
theorem exists_restricts_of_mem_flatten (recognized : recognize config root = some schema)
    (member : inner ∈ schema.flatten) (simple : inner.IsSimple) :
    ∃ restriction, ContributedBy config root restriction inner ∧
      Outline.Restricts config restriction inner := by
  obtain ⟨named, shaped⟩ := isSchema_of_recognize recognized
  have isSchema : root.isNamed "schema" = true := Element.isNamed_iff.2 named
  have listed : inner ∈ typesOf config root := by
    rw [typesOf, recognized]
    exact shaped.mem_types member simple
  rw [typesOf_eq isSchema] at listed
  obtain ⟨child, among, truncated⟩ := List.mem_filterMap.1 listed
  obtain ⟨whole, declared, shortened⟩ := Option.map_eq_some_iff.1 truncated
  obtain ⟨inRoot, plain⟩ := List.mem_filter.1 among
  have sameKind : inner.kind = whole.kind := by rw [← shortened, Node.truncate_eq]
  have wholeSimple : whole.IsSimple := by rwa [Node.IsSimple, ← sameKind]
  obtain ⟨restriction, holds, restricts⟩ := (Outline.declares_of_type? declared).restricts wholeSimple
  obtain rfl : whole = inner :=
    (truncate_of_fields_eq_none restricts.fields_eq_none).symm.trans shortened
  refine ⟨restriction, ⟨child, inRoot, ?_, holds⟩, restricts⟩
  rw [contribution_eq isSchema, if_neg (by simpa using plain), truncated, Option.toList_some]

/-! ## Spelling and meaning of bases -/

open SchemaTypes.TypeName in
/-- Without overrides a base that is spelled like a whole number type stands for a number if its
local part is the name of a builtin type, and for its local part otherwise. A base that is spelled
like a text type, but not like a whole number type, stands for text if its local part is the name of
a builtin type, and for its local part otherwise; only where the local part is the name of a builtin
type for numbers, truth values or points in time, it is the prefix that is spelled like a text type,
and that has no meaning. The aliases in a schema come from restrictions of the former and have the
type the base stands for, and the enumerations come from restrictions of the latter. -/
theorem spelling_agrees (config : Config) (root : Element) (plain : config.overrides = .empty) :
    (∀ base, isIntegerLike (some base) = true → StandsForWhereBuiltin "number" base) ∧
    (∀ base, isTextLike (some base) = true → isIntegerLike (some base) = false →
      lookupName base ∉ otherBuiltinNames → StandsForWhereBuiltin textTarget base) ∧
    ∀ schema, recognize config root = some schema → ∀ inner ∈ schema.flatten,
      (inner.kind = Kind.aliasType →
        ∃ restriction base, ContributedBy config root restriction inner ∧
          restriction.get? "base" = some base ∧ isIntegerLike (some base) = true ∧
          inner.type =
            some (if lookupName base ∈ builtinNames then "number" else lookupName base)) ∧
      (inner.kind = Kind.enumeration →
        ∃ restriction base, ContributedBy config root restriction inner ∧
          restriction.get? "base" = some base ∧ isTextLike (some base) = true ∧
          isIntegerLike (some base) = false ∧
          inner.values = some (Outline.values restriction) ∧
          (lookupName base ∉ otherBuiltinNames → StandsForWhereBuiltin textTarget base)) := by
  refine ⟨fun base => standsForWhereBuiltin_of_isIntegerLike,
    fun base _ _ => standsForWhereBuiltin_of_notMem_other,
    fun schema recognized inner member => ⟨fun isAlias => ?_, fun isEnumeration => ?_⟩⟩
  · obtain ⟨restriction, contributed, restricts⟩ :=
      exists_restricts_of_mem_flatten recognized member (Or.inl isAlias)
    cases restricts with
    | enumeration => exact absurd isAlias (by decide : Kind.enumeration ≠ Kind.aliasType)
    | aliasType name spelled =>
      obtain ⟨base, given⟩ := exists_of_isIntegerLike spelled
      refine ⟨restriction, base, contributed, given, given ▸ spelled, ?_⟩
      rw [given, plain, standsForWhereBuiltin_of_isIntegerLike (given ▸ spelled)]
  · obtain ⟨restriction, contributed, restricts⟩ :=
      exists_restricts_of_mem_flatten recognized member (Or.inr isEnumeration)
    cases restricts with
    | aliasType => exact absurd isEnumeration (by decide : Kind.aliasType ≠ Kind.enumeration)
    | enumeration name other spelled =>
      obtain ⟨base, given⟩ := exists_of_isTextLike spelled
      exact ⟨restriction, base, contributed, given, given ▸ spelled, given ▸ other, rfl,
        standsForWhereBuiltin_of_notMem_other⟩

/-- A schema with a simple type that restricts a base. -/
def stopSchema (base : String) : Element :=
  .mk "schema" [] [.mk "simpleType" [("name", "stop")] [.mk "restriction" [("base", base)] []]]

/-- An alias for what the base stands for. -/
def stopAlias (type : String) : Node :=
  { kind := Kind.aliasType, name := some "stop", type := some type }

/-- The alias for a builtin whole number type stands for a number. -/
theorem spelling_agrees_stopSchema :
    ({} : Config).overrides = .empty ∧
      ∃ schema, recognize {} (stopSchema "xs:unsignedInt") = some schema ∧
        stopAlias "number" ∈ schema.flatten ∧
        ∃ restriction base, ContributedBy {} (stopSchema "xs:unsignedInt") restriction
            (stopAlias "number") ∧
          restriction.get? "base" = some base ∧ TypeName.isIntegerLike (some base) = true := by
  have recognized : recognize {} (stopSchema "xs:unsignedInt") =
      some { kind := Kind.classType, types := some [stopAlias "number"] } := by
    rw [recognize_eq]
    rfl
  have member : stopAlias "number" ∈
      ({ kind := Kind.classType, types := some [stopAlias "number"] } : Node).flatten :=
    List.mem_cons_of_mem _ List.mem_cons_self
  obtain ⟨restriction, base, contributed, given, spelled, -⟩ :=
    ((spelling_agrees {} (stopSchema "xs:unsignedInt") rfl).2.2 _ recognized _ member).1 rfl
  exact ⟨rfl, _, recognized, member, restriction, base, contributed, given, spelled⟩

/-- Not every alias is one for a number: a type that the schema defines itself goes by its own name,
also if that happens to be spelled like a whole number type. -/
theorem stopAlias_waypoint :
    TypeName.isIntegerLike (some "tns:Waypoint") = true ∧
      TypeName.target .empty (some "tns:Waypoint") ≠ "number" ∧
      recognize {} (stopSchema "tns:Waypoint") =
        some { kind := Kind.classType, types := some [stopAlias "Waypoint"] } := by
  refine ⟨by decide, by decide, ?_⟩
  rw [recognize_eq]
  rfl

end SchemaTypes.Schema
