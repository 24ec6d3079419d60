import SchemaTypes.Node

/-!
# Merging one node after the other

Nodes that are built one inside the other are merged from the innermost outwards. What comes of them
has the kind of the outermost one, and each attribute as the innermost one has it that carries it.
-/

namespace SchemaTypes.Node

/-- A node is determined by its kind and by what it carries. -/
theorem eq_of_get?_eq {left right : Node} (kind : left.kind = right.kind)
    (same : ∀ slot, left.get? slot = right.get? slot) : left = right := by
  have texts (slot : TextSlot) : left.getText slot = right.getText slot :=
    Option.map_injective (fun _ _ => Value.text.inj) (same (.text slot))
  have lists (slot : ListSlot) : left.getList slot = right.getList slot :=
    Option.map_injective (fun _ _ => Value.nodes.inj) (same (.list slot))
  have nested : left.nestedClass = right.nestedClass :=
    Option.map_injective (fun _ _ => Value.node.inj) (same .nestedClass)
  cases left
  cases right
  rw [Node.mk.injEq]
  exact ⟨kind, texts .name, texts .value, texts .type, texts .base, texts .ref, texts .fieldName,
    texts .fieldType, nested, lists .fields, lists .values, lists .types, lists .items⟩

/-- The nodes merged from the last one on, the default way; none if there are none. -/
def mergeAll : List Node → Option Node
  | [] => none
  | node :: deeper =>
    match mergeAll deeper with
    | none => some node
    | some merged => some (node.merge merged none)

/-- What the last of the nodes that carry an attribute has in it. -/
def lastCarried (nodes : List Node) (slot : Slot) : Option Value :=
  nodes.reverse.findSome? (·.get? slot)

/-- The deeper nodes have precedence in what is carried last. -/
theorem lastCarried_cons (node : Node) (deeper : List Node) (slot : Slot) :
    lastCarried (node :: deeper) slot = (lastCarried deeper slot).or (node.get? slot) := by
  rw [lastCarried, List.reverse_cons, List.findSome?_append, lastCarried]
  simp

/-- Several nodes are merged to one that has the kind of the first one, and each attribute as the
last one has it that carries it. -/
theorem exists_mergeAll_eq (first : Node) (deeper : List Node) :
    ∃ merged, mergeAll (first :: deeper) = some merged ∧ merged.kind = first.kind ∧
      ∀ slot, merged.get? slot = lastCarried (first :: deeper) slot := by
  induction deeper generalizing first with
  | nil => exact ⟨first, rfl, rfl, fun slot => by rw [lastCarried_cons]; rfl⟩
  | cons next deeper inductionHypothesis =>
    obtain ⟨inner, merges, -, carried⟩ := inductionHypothesis next
    refine ⟨first.merge inner none, ?_, rfl, fun slot => ?_⟩
    · rw [mergeAll, merges]
    · rw [get?_merge, carried, lastCarried_cons first]

/-- Nothing else than what they are merged to has that kind and those attributes. -/
theorem mergeAll_eq_some_iff {nodes : List Node} {merged : Node} :
    mergeAll nodes = some merged ↔
      nodes.head?.map (·.kind) = some merged.kind ∧
        ∀ slot, merged.get? slot = lastCarried nodes slot := by
  cases nodes with
  | nil => simp [mergeAll]
  | cons first deeper =>
    obtain ⟨found, merges, kind, carried⟩ := exists_mergeAll_eq first deeper
    rw [merges, Option.some.injEq, List.head?_cons, Option.map_some, Option.some.injEq, ← kind]
    constructor
    · rintro rfl
      exact ⟨rfl, carried⟩
    · rintro ⟨sameKind, same⟩
      exact eq_of_get?_eq sameKind fun slot => (carried slot).trans (same slot).symm

end SchemaTypes.Node
