import SchemaTypes.Node

/-!
# What a node carries

A node carries other nodes in one attribute for a class and in four for lists. A hop says which of
them is meant. Everything that goes through a node with all that is inside it goes through the
carried nodes one by one, and each of them is smaller.
-/

namespace SchemaTypes.Node

/-- A step from a node to one it carries: to its class, or to an entry of one of its lists. -/
inductive Hop where
  | nestedClass
  | entry (slot : ListSlot) (index : Nat)
  deriving DecidableEq, Repr

/-- The node a hop leads to. -/
def part? (node : Node) : Hop → Option Node
  | .nestedClass => node.nestedClass
  | .entry slot index => (node.getList slot).bind (·[index]?)

variable {node inner : Node}

/-- The lists of a node, in the order in which they are listed. -/
def listedSlots : List ListSlot := [.types, .fields, .values, .items]

/-- The entries of a list of a node, each behind the hop to it. -/
def entries (node : Node) (slot : ListSlot) : List (Hop × Node) :=
  ((node.getList slot).getD []).zipIdx.map fun (part, index) => (.entry slot index, part)

/-- The nodes a node carries, each behind the hop to it, in the order in which they are listed. -/
def carried (node : Node) : List (Hop × Node) :=
  node.nestedClass.toList.map (Hop.nestedClass, ·) ++ listedSlots.flatMap node.entries

/-- An entry of a list is the part at its place in the list. -/
theorem mem_entries_iff {slot : ListSlot} {hop : Hop} :
    (hop, inner) ∈ node.entries slot ↔ ∃ index, hop = .entry slot index ∧
      node.part? hop = some inner := by
  simp only [entries, List.mem_map, Prod.exists, List.mk_mem_zipIdx_iff_getElem?, Prod.mk.injEq]
  constructor
  · rintro ⟨part, index, found, rfl, rfl⟩
    refine ⟨index, rfl, ?_⟩
    rw [part?]
    cases given : node.getList slot with
    | none => simp [given] at found
    | some parts => simpa [given] using found
  · rintro ⟨index, rfl, found⟩
    obtain ⟨parts, given, found⟩ := Option.bind_eq_some_iff.1 found
    exact ⟨inner, index, by simpa [given] using found, rfl, rfl⟩

theorem mem_listedSlots (slot : ListSlot) : slot ∈ listedSlots := by
  cases slot <;> decide

/-- What a node carries is what the hops from it lead to. -/
theorem mem_carried_iff {hop : Hop} : (hop, inner) ∈ node.carried ↔ node.part? hop = some inner := by
  simp only [carried, List.mem_append, List.mem_map, Option.mem_toList, List.mem_flatMap,
    mem_entries_iff, Prod.mk.injEq]
  constructor
  · rintro (⟨part, given, rfl, rfl⟩ | ⟨slot, -, index, -, found⟩)
    · exact given
    · exact found
  · intro found
    cases hop with
    | nestedClass => exact .inl ⟨inner, found, rfl, rfl⟩
    | entry slot index => exact .inr ⟨slot, mem_listedSlots slot, index, rfl, found⟩

/-- No two of the nodes that a node carries have the same hop to them. -/
theorem pairwise_carried (node : Node) :
    node.carried.Pairwise fun part other => part.1 ≠ other.1 := by
  have within : ∀ slot, (node.entries slot).Pairwise fun part other => part.1 ≠ other.1 := by
    intro slot
    have positions : ((node.getList slot).getD []).zipIdx.Pairwise fun part other =>
        part.2 ≠ other.2 := by
      rw [← List.pairwise_map, List.zipIdx_map_snd]
      exact List.nodup_range'
    exact List.pairwise_map.2 (positions.imp fun different same => different (Hop.entry.inj same).2)
  refine List.pairwise_append.2 ⟨?_, ?_, ?_⟩
  · cases node.nestedClass <;> simp
  · refine List.pairwise_flatMap.2 ⟨fun slot _ => within slot, ?_⟩
    have slots : listedSlots.Nodup := by decide
    refine slots.imp fun {slot other} different part memberPart entry memberEntry same => ?_
    obtain ⟨_, hop, -⟩ := mem_entries_iff.1 memberPart
    obtain ⟨_, hop', -⟩ := mem_entries_iff.1 memberEntry
    exact different (Hop.entry.inj (hop.symm.trans (same.trans hop'))).1
  · intro part memberPart entry memberEntry same
    obtain ⟨_, -, rfl⟩ := List.mem_map.1 memberPart
    obtain ⟨_, -, memberEntry⟩ := List.mem_flatMap.1 memberEntry
    obtain ⟨_, hop, -⟩ := mem_entries_iff.1 memberEntry
    cases same.trans hop

/-- A node lies deeper than the nodes it carries. -/
theorem sizeOf_lt_of_part? {hop : Hop} (found : node.part? hop = some inner) :
    sizeOf inner < sizeOf node := by
  cases hop with
  | nestedClass =>
    cases node
    cases found
    simp only [mk.sizeOf_spec, Option.some.sizeOf_spec]
    omega
  | entry slot index =>
    obtain ⟨parts, given, found⟩ := Option.bind_eq_some_iff.1 found
    have smaller := List.sizeOf_lt_of_mem (List.mem_of_getElem? found)
    cases node
    cases slot <;> cases given <;> simp only [mk.sizeOf_spec, Option.some.sizeOf_spec] <;> omega

/-- What is collected from the nodes that a node carries is collected from its class and from its
lists. -/
theorem flatMap_carried {α : Type} (node : Node) (collect : Node → List α) :
    (node.carried.flatMap fun part => collect part.2) =
      node.nestedClass.toList.flatMap collect ++
        listedSlots.flatMap fun slot => ((node.getList slot).getD []).flatMap collect := by
  have inList : ∀ slot, ((node.entries slot).flatMap fun part => collect part.2) =
      ((node.getList slot).getD []).flatMap collect := by
    intro slot
    have parts := List.flatMap_map Prod.fst collect ((node.getList slot).getD []).zipIdx
    rw [List.zipIdx_map_fst] at parts
    rw [entries, List.flatMap_map, parts]
  rw [carried, List.flatMap_append, List.flatMap_map, List.flatMap_assoc]
  simp only [inList]

theorem flattenList_eq_flatMap (nodes : List Node) : flattenList nodes = nodes.flatMap flatten := by
  induction nodes with
  | nil => rfl
  | cons node rest inductionHypothesis =>
    rw [flattenList, inductionHypothesis, List.flatMap_cons]

/-- A node is listed in front of what is listed for the nodes it carries. -/
theorem flatten_eq (node : Node) :
    node.flatten = node :: node.carried.flatMap fun part => part.2.flatten := by
  have option : ∀ nested : Option Node,
      flattenOption nested = nested.toList.flatMap flatten := by
    rintro (_ | nested) <;> simp [flattenOption]
  have list : ∀ list : Option (List Node),
      flattenLists list = (list.getD []).flatMap flatten := by
    rintro (_ | nodes) <;> simp [flattenLists, flattenList_eq_flatMap]
  rw [flatMap_carried]
  cases node
  simp only [flatten, option, list, listedSlots, getList, List.flatMap_cons, List.flatMap_nil,
    List.append_nil, List.append_assoc]

/-- What holds of a node if it holds of every node it carries holds of every node. -/
theorem carried_induction {motive : Node → Prop}
    (step : ∀ node, (∀ hop part, node.part? hop = some part → motive part) → motive node)
    (node : Node) : motive node :=
  step node fun _ part found =>
    have := sizeOf_lt_of_part? found
    carried_induction step part
  termination_by sizeOf node

end SchemaTypes.Node
