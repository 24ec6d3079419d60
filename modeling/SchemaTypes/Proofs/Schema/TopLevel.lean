import SchemaTypes.Proofs.Schema.Recognition

/-!
# What each child of a schema contributes

The types of a schema are those of its children, in order, and what a child contributes does not
depend on the others: it is what a schema with that child alone would hold.
-/

namespace SchemaTypes

/-- The element with one of its children and nothing else inside it. -/
def Element.reducedTo (element child : Element) : Element :=
  .mk element.tag element.attributes [child]

namespace Schema

/-- The types that are read from a document element; none if that is not the one of a schema. -/
def typesOf (config : Config) (root : Element) : List Node :=
  ((recognize config root).bind Node.types).getD []

variable {config : Config} {root child : Element}

/-- What a child of a document element contributes to the types that are read from it. -/
def contribution (config : Config) (root child : Element) : List Node :=
  typesOf config (root.reducedTo child)

/-- The types of a schema are those of its children, truncated. -/
theorem typesOf_eq (isSchema : root.isNamed "schema" = true) :
    typesOf config root = root.plainChildren.filterMap (truncatedType? config) := by
  rw [typesOf, recognize_eq, if_pos isSchema]
  rfl

/-- A child contributes the type it declares, with nested classes truncated. Remarks contribute
nothing. -/
theorem contribution_eq (isSchema : root.isNamed "schema" = true) :
    contribution config root child =
      if child.isRemark then [] else (truncatedType? config child).toList := by
  have reduced : (root.reducedTo child).isNamed "schema" = true := isSchema
  have children : (root.reducedTo child).plainChildren =
      if child.isRemark then [] else [child] := by
    rw [Element.plainChildren, Element.reducedTo, Element.children, List.filter_singleton]
    cases child.isRemark <;> rfl
  rw [contribution, typesOf_eq reduced, children]
  cases child.isRemark with
  | true => rfl
  | false => cases declared : truncatedType? config child <;> simp [declared]

/-- The types of a schema are what its children contribute, in order. -/
theorem typesOf_eq_flatMap (isSchema : root.isNamed "schema" = true) :
    typesOf config root = root.children.flatMap (contribution config root) := by
  rw [typesOf_eq isSchema, Element.plainChildren]
  induction root.children with
  | nil => rfl
  | cons child rest inductionHypothesis =>
    rw [List.flatMap_cons, contribution_eq isSchema, ← inductionHypothesis]
    cases remark : child.isRemark with
    | true => rw [List.filter_cons_of_neg (by simp [remark]), if_pos rfl, List.nil_append]
    | false =>
      rw [List.filter_cons_of_pos (by simp [remark]), if_neg (by simp)]
      cases declared : truncatedType? config child <;> simp [declared]

end Schema

end SchemaTypes
