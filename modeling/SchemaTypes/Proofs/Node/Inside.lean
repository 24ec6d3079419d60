import SchemaTypes.Proofs.Node.Shape

/-!
# What is inside finished nodes

By the shape of a finished node it is known what can be found inside it, at any depth: the types of
a schema are not inside one another, and the rest is fields, their classes, and values. Truncation
takes nodes away and empties classes, so that whatever carries neither fields nor a class was there
before.
-/

namespace SchemaTypes.Node

variable {node inner : Node}

theorem self_mem_flatten (node : Node) : node ∈ node.flatten := mem_flatten_iff.2 (Or.inl rfl)

/-- What is inside a node of a list is inside the node that carries the list. -/
theorem mem_flatten_of_mem_list (slot : ListSlot) {parts : List Node} {part : Node}
    (given : node.getList slot = some parts) (listed : part ∈ parts) (inside : inner ∈ part.flatten) :
    inner ∈ node.flatten :=
  mem_flatten_iff.2 (Or.inr (Or.inr ⟨slot, parts, given, part, listed, inside⟩))

/-- Inside a field there are fields and their classes. -/
theorem IsField.inside (shaped : IsField node) (member : inner ∈ node.flatten) :
    IsField inner ∨ inner.kind = Kind.classType := by
  induction shaped with
  | typed name type =>
    obtain rfl : inner = _ := List.mem_singleton.1 member
    exact Or.inl (.typed name type)
  | reference given =>
    obtain rfl : inner = _ := List.mem_singleton.1 member
    exact Or.inl (.reference given)
  | nesting name title inside inductionHypothesis =>
    rcases mem_flatten_iff.1 member with rfl | ⟨nested, ⟨⟩, member⟩ | ⟨slot, parts, given, _⟩
    · exact Or.inl (.nesting name title inside)
    · rcases mem_flatten_iff.1 member with rfl | ⟨_, ⟨⟩, _⟩ | ⟨slot, parts, given, part, listed, member⟩
      · exact Or.inr rfl
      · cases slot <;> cases given
        exact inductionHypothesis part listed member
    · cases slot <;> cases given

/-- Inside a node that carries one list of nodes there are the node itself and what is inside
those. -/
theorem mem_flatten_of_list (bare : node.nestedClass = none) (slot : ListSlot)
    (only : ∀ other ≠ slot, node.getList other = none) (member : inner ∈ node.flatten) :
    inner = node ∨ ∃ part ∈ (node.getList slot).getD [], inner ∈ part.flatten := by
  rcases mem_flatten_iff.1 member with same | ⟨nested, given, _⟩ | ⟨other, parts, given, part, listed,
    inside⟩
  · exact Or.inl same
  · rw [bare] at given
    cases given
  · by_cases same : other = slot
    · subst same
      exact Or.inr ⟨part, by rwa [given], inside⟩
    · rw [only other same] at given
      cases given

/-- Inside a type there are the type itself, fields and their classes, and values. -/
theorem IsType.inside (shaped : IsType node) (member : inner ∈ node.flatten) :
    inner = node ∨ IsField inner ∨ inner.kind = Kind.classType ∨ IsEnumValue inner := by
  cases shaped with
  | classType name base fields =>
    rcases mem_flatten_of_list rfl .fields (by rintro (_ | _) <;> simp [getList]) member with
      same | ⟨field, listed, member⟩
    · exact Or.inl same
    · exact Or.inr ((fields field listed).inside member |>.imp_right Or.inl)
  | group given fields =>
    rcases mem_flatten_of_list rfl .fields (by rintro (_ | _) <;> simp [getList]) member with
      same | ⟨field, listed, member⟩
    · exact Or.inl same
    · exact Or.inr ((fields field listed).inside member |>.imp_right Or.inl)
  | enumeration name values =>
    rcases mem_flatten_of_list rfl .values (by rintro (_ | _) <;> simp [getList]) member with
      same | ⟨value, listed, member⟩
    · exact Or.inl same
    · obtain ⟨given⟩ := values value listed
      obtain rfl : inner = _ := List.mem_singleton.1 member
      exact Or.inr (Or.inr (Or.inr (.value given)))
  | aliasType name type => exact Or.inl (List.mem_singleton.1 member)

/-- Inside a schema there are the schema itself, its types, fields and their classes, and values. -/
theorem IsSchema.inside (shaped : IsSchema node) (member : inner ∈ node.flatten) :
    inner ∈ node.types.getD [] ∨ IsField inner ∨ inner.kind = Kind.classType ∨
      IsEnumValue inner := by
  cases shaped with
  | schema types =>
    rcases mem_flatten_of_list rfl .types (by rintro (_ | _) <;> simp [getList]) member with
      rfl | ⟨type, listed, member⟩
    · exact Or.inr (Or.inr (Or.inl rfl))
    · rcases (types type listed).inside member with rfl | deeper
      · exact Or.inl listed
      · exact Or.inr deeper

/-- What has the shape of a field is a field or a reference to a group. -/
theorem IsField.kind_eq (shaped : IsField node) :
    node.kind = Kind.field ∨ node.kind = Kind.groupReference := by
  cases shaped with
  | typed => exact Or.inl rfl
  | nesting => exact Or.inl rfl
  | reference => exact Or.inr rfl

/-- What has the shape of a value is one. -/
theorem IsEnumValue.kind_eq (shaped : IsEnumValue node) : node.kind = Kind.enumValue := by
  cases shaped
  rfl

/-- No type is a field. -/
theorem IsType.kind_ne_field (shaped : IsType node) : node.kind ≠ Kind.field := by
  cases shaped with
  | classType => exact (by decide : Kind.classType ≠ Kind.field)
  | group => exact (by decide : Kind.group ≠ Kind.field)
  | enumeration => exact (by decide : Kind.enumeration ≠ Kind.field)
  | aliasType => exact (by decide : Kind.aliasType ≠ Kind.field)

/-- A node stands for a simple type: it is an alias or an enumeration. -/
def IsSimple (node : Node) : Prop := node.kind = Kind.aliasType ∨ node.kind = Kind.enumeration

/-- What stands for a simple type is of no other kind. -/
theorem IsSimple.kind_ne {kind : String} (simple : node.IsSimple)
    (different : Kind.aliasType ≠ kind ∧ Kind.enumeration ≠ kind) : node.kind ≠ kind := by
  rcases simple with named | named
  · exact named ▸ different.1
  · exact named ▸ different.2

/-- What stands for a simple type is found among the types of a schema and nowhere else. -/
theorem IsSchema.mem_types (shaped : IsSchema node) (member : inner ∈ node.flatten)
    (simple : inner.IsSimple) : inner ∈ node.types.getD [] := by
  rcases shaped.inside member with listed | field | isClass | value
  · exact listed
  · rcases field.kind_eq with named | named
    · exact absurd named (simple.kind_ne (by decide))
    · exact absurd named (simple.kind_ne (by decide))
  · exact absurd isClass (simple.kind_ne (by decide))
  · exact absurd value.kind_eq (simple.kind_ne (by decide))

/-- A field without a class, inside a schema, carries its name and its type and nothing else. -/
theorem IsSchema.typed_of_field (shaped : IsSchema node) (member : inner ∈ node.flatten)
    (isField : inner.kind = Kind.field) (flat : inner.nestedClass = none) :
    ∃ name type, inner = { kind := Kind.field, fieldName := some name, fieldType := some type } := by
  have other {name : String} (named : inner.kind = name) (different : name ≠ Kind.field) : False :=
    different (named.symm.trans isField)
  rcases shaped.inside member with listed | field | isClass | value
  · cases shaped with
    | schema types => exact absurd isField (types inner listed).kind_ne_field
  · cases field with
    | typed name type => exact ⟨name, type, rfl⟩
    | nesting => cases flat
    | reference => exact absurd isField (by decide : Kind.groupReference ≠ Kind.field)
  · exact (other isClass (by decide)).elim
  · exact (other value.kind_eq (by decide)).elim

/-! ## Truncation -/

section Truncation

/-- Changing the fields changes no other list. -/
theorem getList_of_ne_fields {slot : ListSlot} (other : slot ≠ .fields)
    (fields : Option (List Node)) : { node with fields := fields }.getList slot = node.getList slot := by
  cases slot with
  | fields => exact absurd rfl other
  | values | types | items => rfl

variable {limit depth : Int} (bare : inner.fields = none) (flat : inner.nestedClass = none)
include bare

/-- What carries no fields and is inside an emptied class was inside the class before. -/
theorem mem_flatten_of_emptied (member : inner ∈ { node with fields := some [] }.flatten) :
    inner ∈ node.flatten := by
  rcases mem_flatten_iff.1 member with rfl | nested | ⟨slot, parts, given, part, listed, inside⟩
  · cases bare
  · exact mem_flatten_iff.2 (Or.inr (Or.inl nested))
  · by_cases same : slot = .fields
    · subst same
      cases given
      cases listed
    · rw [getList_of_ne_fields same] at given
      exact mem_flatten_of_mem_list slot given listed inside

include flat

/-- What carries neither fields nor a class and is inside a field with its class truncated was
inside the field before, if the same goes for the class. -/
theorem mem_flatten_of_truncateField
    (nested : ∀ nested, node.nestedClass = some nested → ∀ depth,
      inner ∈ (nested.truncate limit depth).flatten → inner ∈ nested.flatten)
    (member : inner ∈ (node.truncateField limit depth).flatten) : inner ∈ node.flatten := by
  cases holds : node.nestedClass with
  | none => rwa [truncateField_of_nestedClass_eq_none holds] at member
  | some inClass =>
    rw [truncateField_eq, holds] at member
    rcases mem_flatten_iff.1 member with rfl | ⟨_, ⟨⟩, inside⟩ | lists
    · cases flat
    · refine mem_flatten_iff.2 (Or.inr (Or.inl ⟨inClass, holds, ?_⟩))
      split at inside
      · exact mem_flatten_of_emptied bare inside
      · exact nested inClass holds _ inside
    · exact mem_flatten_iff.2 (Or.inr (Or.inr lists))

/-- What carries neither fields nor a class and is inside a truncated node was inside the node
before. -/
theorem mem_flatten_of_truncate (member : inner ∈ (node.truncate limit depth).flatten) :
    inner ∈ node.flatten := by
  induction node using nesting_induction generalizing depth with
  | step node inductionHypothesis =>
    rw [truncate_eq] at member
    rcases mem_flatten_iff.1 member with rfl | nested | ⟨slot, parts, given, part, listed, inside⟩
    · -- A truncated node without fields is the node itself.
      have none : node.fields = none := Option.map_eq_none_iff.1 bare
      refine mem_flatten_iff.2 (Or.inl ?_)
      cases node
      cases none
      rfl
    · exact mem_flatten_iff.2 (Or.inr (Or.inl nested))
    · by_cases same : slot = .fields
      · subst same
        obtain ⟨fields, holds, rfl⟩ := Option.map_eq_some_iff.1 given
        obtain ⟨field, memberField, rfl⟩ := List.mem_map.1 listed
        refine mem_flatten_of_mem_list .fields holds memberField ?_
        exact mem_flatten_of_truncateField bare flat
          (fun nested inField _ member =>
            inductionHypothesis fields holds field memberField nested inField member) inside
      · rw [getList_of_ne_fields same] at given
        exact mem_flatten_of_mem_list slot given listed inside

end Truncation

end SchemaTypes.Node
