import SchemaTypes.Proofs.Schema.SimpleTypes

/-!
# Where fields come from

A field without a class of its own is made of a single element or attribute of the document, by one
rule, whatever declares it and however deep it lies in the types of a schema.
-/

namespace SchemaTypes.Schema

/-- The fields inside a node stem from an element: each one without a class of its own is made of
something inside the element. -/
def FieldsStemFrom (config : Config) (element : Element) (node : Node) : Prop :=
  ∀ inner ∈ node.flatten, inner.kind = Kind.field → inner.nestedClass = none →
    ∃ source ∈ element.everyElement, inner = fieldOf config source

variable {config : Config} {element content : Element} {node : Node}

/-- What stems from content stems from what the content is in. -/
theorem FieldsStemFrom.mono (stem : FieldsStemFrom config content node)
    (inside : content ∈ element.everyElement) : FieldsStemFrom config element node := by
  intro inner member isField flat
  obtain ⟨source, among, same⟩ := stem inner member isField flat
  exact ⟨source, Element.mem_everyElement_trans among inside, same⟩

/-- The field of an element stems from it. -/
theorem fieldsStemFrom_fieldOf : FieldsStemFrom config element (fieldOf config element) := by
  intro inner member _ _
  exact ⟨element, element.self_mem_everyElement, List.mem_singleton.1 member⟩

/-- The fields of a class or group stem from an element if those inside each of them do. -/
theorem fieldsStemFrom_of_fields {kind : String} (name base : Option String)
    {fields : Option (List Node)} (noField : kind ≠ Kind.field)
    (each : ∀ field ∈ fields.getD [], FieldsStemFrom config element field) :
    FieldsStemFrom config element { kind, name, base, fields } := by
  intro inner member isField flat
  rcases Node.mem_flatten_of_list rfl .fields (by rintro (_ | _) <;> simp [Node.getList]) member with
    rfl | ⟨field, listed, inside⟩
  · exact absurd isField noField
  · exact each field listed inner inside isField flat

namespace Outline

/-- A reference to a group is no field, so nothing has to stem from the element. -/
theorem fieldsStemFrom_of_groupReference? (declared : groupReference? element = some node) :
    FieldsStemFrom config element node := by
  obtain ⟨ref, -, rfl⟩ := Option.map_eq_some_iff.1 declared
  intro inner member isField _
  obtain rfl := List.mem_singleton.1 member
  exact absurd isField (by decide : Kind.groupReference ≠ Kind.field)

/-- What an element declares in a sequence stems from the element. -/
theorem fieldsStemFrom_of_field? (declared : field? config element = some node) :
    FieldsStemFrom config element node := by
  induction element using Element.nesting_induction generalizing node with
  | step element inductionHypothesis =>
    rw [field?_eq] at declared
    split at declared
    · split at declared
      · next sequence found =>
        cases declared
        intro inner member isField flat
        -- The field itself has a class, so that the one asked for is inside the class.
        rcases Node.mem_flatten_iff.1 member with rfl | ⟨_, ⟨⟩, inside⟩ | ⟨slot, parts, given, _⟩
        · cases flat
        · refine fieldsStemFrom_of_fields _ none (by decide) (fun field listed => ?_) inner inside
            isField flat
          obtain ⟨child, among, readsChild⟩ := List.mem_filterMap.1 listed
          exact (inductionHypothesis sequence found child among readsChild).mono
            (Element.mem_everyElement_trans (Element.mem_everyElement_of_mem_plainChildren among)
              (Element.mem_everyElement_of_sequenceInType? found))
        · cases slot <;> cases given
      · rw [typedField?] at declared
        split at declared
        · cases declared
          exact fieldsStemFrom_fieldOf
        · cases declared
    · split at declared
      · exact fieldsStemFrom_of_groupReference? declared
      · cases declared

/-- The fields of a sequence stem from it. -/
theorem fieldsStemFrom_of_mem_fields :
    ∀ field ∈ fields config element, FieldsStemFrom config element field := by
  intro field listed
  obtain ⟨child, among, readsChild⟩ := List.mem_filterMap.1 listed
  exact (fieldsStemFrom_of_field? readsChild).mono
    (Element.mem_everyElement_of_mem_plainChildren among)

/-- The field of an attribute stems from it. -/
theorem fieldsStemFrom_of_attributeField? (declared : attributeField? config element = some node) :
    FieldsStemFrom config element node := by
  rw [attributeField?] at declared
  split at declared
  · cases declared
    exact fieldsStemFrom_fieldOf
  · cases declared

/-- The attributes of a type stem from it. -/
theorem fieldsStemFrom_of_mem_attributeFields :
    ∀ field ∈ attributeFields config element, FieldsStemFrom config element field := by
  intro field listed
  obtain ⟨child, among, readsChild⟩ := List.mem_filterMap.1 listed
  exact (fieldsStemFrom_of_attributeField? readsChild).mono
    (Element.mem_everyElement_of_mem_plainChildren among)

/-- The members of an attribute group stem from it. -/
theorem fieldsStemFrom_of_mem_attributeMembers :
    ∀ field ∈ attributeMembers config element, FieldsStemFrom config element field := by
  intro field listed
  obtain ⟨child, among, readsChild⟩ := List.mem_filterMap.1 listed
  refine FieldsStemFrom.mono ?_ (Element.mem_everyElement_of_mem_plainChildren among)
  split at readsChild
  · exact fieldsStemFrom_of_groupReference? readsChild
  · exact fieldsStemFrom_of_attributeField? readsChild

/-! ## Types -/

/-- Listed fields stem from the element they are listed in. -/
theorem ListsFields.stem {listed : List Node} (lists : ListsFields config element listed) :
    ∀ field ∈ listed, FieldsStemFrom config element field := by
  intro field member
  cases lists with
  | sequence inside => exact (fieldsStemFrom_of_mem_fields field member).mono inside
  | attributes inside => exact (fieldsStemFrom_of_mem_attributeFields field member).mono inside
  | members => exact fieldsStemFrom_of_mem_attributeMembers field member

/-- There are no fields in what stands for a simple type. -/
theorem Restricts.stem {restriction : Element} (restricts : Restricts config restriction node) :
    FieldsStemFrom config element node := by
  intro inner member isField _
  cases restricts with
  | aliasType =>
    obtain rfl := List.mem_singleton.1 member
    exact absurd isField (by decide : Kind.aliasType ≠ Kind.field)
  | enumeration =>
    rcases Node.mem_flatten_of_list rfl .values (by rintro (_ | _) <;> simp [Node.getList]) member
      with rfl | ⟨value, listed, inside⟩
    · exact absurd isField (by decide : Kind.enumeration ≠ Kind.field)
    · obtain ⟨given⟩ := isEnumValue_of_mem_values value listed
      obtain rfl := List.mem_singleton.1 inside
      exact absurd isField (by decide : Kind.enumValue ≠ Kind.field)

/-- The fields of the type that a child of a schema declares stem from the child. -/
theorem Declares.stem (declares : Declares config element node) :
    FieldsStemFrom config element node := by
  cases declares with
  | wrapper =>
    refine fieldsStemFrom_of_fields _ none (by decide) fun field listed => ?_
    obtain rfl := List.mem_singleton.1 listed
    exact fieldsStemFrom_fieldOf
  | @classType base fields lists =>
    refine fieldsStemFrom_of_fields _ base (by decide) ?_
    cases fields with
    | none => simp
    | some listed => exact (lists listed rfl).stem
  | group name lists => exact fieldsStemFrom_of_fields _ none (by decide) lists.stem
  | restricted _ restricts => exact restricts.stem

end Outline

/-- The fields of a schema stem from the document. -/
theorem fieldsStemFrom_of_recognize {root : Element} {schema : Node}
    (recognized : recognize config root = some schema) : FieldsStemFrom config root schema := by
  intro inner member isField flat
  obtain ⟨-, shaped⟩ := isSchema_of_recognize recognized
  obtain ⟨name, type, same⟩ := shaped.typed_of_field member isField flat
  have bare : inner.fields = none := by rw [same]
  rw [recognize_eq] at recognized
  split at recognized
  · cases recognized
    rcases Node.mem_flatten_of_list rfl .types (by rintro (_ | _) <;> simp [Node.getList]) member
      with rfl | ⟨truncated, listed, inside⟩
    · exact absurd isField (by decide : Kind.classType ≠ Kind.field)
    · obtain ⟨child, among, shortened⟩ := List.mem_filterMap.1 listed
      obtain ⟨whole, declared, rfl⟩ := Option.map_eq_some_iff.1 shortened
      have stem := (Outline.declares_of_type? declared).stem.mono
        (Element.mem_everyElement_of_mem_plainChildren among)
      exact stem inner (Node.mem_flatten_of_truncate bare flat inside) isField flat
  · cases recognized

end SchemaTypes.Schema
