import Mathlib.Data.List.Perm.Basic
import SchemaTypes.Proofs.Node.Acceptance
import SchemaTypes.Proofs.Node.Inside

/-!
# Listed and written nodes

A node inside another has an address: the hops from one node to a node that it carries. The listing
of a node runs through the addresses of everything inside it, each once, every node in front of what
is inside it and that in one piece. The written form holds the same nodes in another order: one
object for each, which shows the kind and the name of its node.
-/

namespace SchemaTypes.Node

/-- The way from a node to one inside it. -/
abbrev Address := List Hop

/-- The node at an address. -/
def at? (node : Node) : Address → Option Node
  | [] => some node
  | hop :: rest => (node.part? hop).bind (·.at? rest)

variable {node inner : Node}

/-- An address leads on from where its first part leads. -/
theorem at?_append (node : Node) (address rest : Address) :
    node.at? (address ++ rest) = (node.at? address).bind (·.at? rest) := by
  induction address generalizing node with
  | nil => rfl
  | cons hop address inductionHypothesis =>
    rw [List.cons_append, at?, at?, Option.bind_assoc]
    congr 1
    funext part
    exact inductionHypothesis part

/-! ## Addresses -/

/-- The addresses of the node itself and of everything inside it, in the order of the listing. -/
def addresses (node : Node) : List Address :=
  [] :: node.carried.attach.flatMap fun ⟨(hop, part), member⟩ =>
    have : sizeOf part < sizeOf node := sizeOf_lt_of_part? (mem_carried_iff.1 member)
    part.addresses.map (hop :: ·)
  termination_by sizeOf node

/-- The addresses in a node are the empty one and those that lead on from what it carries. -/
theorem addresses_eq (node : Node) :
    node.addresses =
      [] :: node.carried.flatMap fun part => part.2.addresses.map (part.1 :: ·) := by
  rw [addresses]
  congr 1
  conv_rhs => rw [← List.attach_map_subtype_val node.carried, List.flatMap_map]

/-- A hop and an address behind it are listed together if the hop leads to a node for which the
address is listed. -/
theorem cons_mem_addresses_iff {hop : Hop} {address : Address} :
    hop :: address ∈ node.addresses ↔
      ∃ part, node.part? hop = some part ∧ address ∈ part.addresses := by
  rw [addresses_eq]
  simp [mem_carried_iff]

/-- The empty address is that of the node itself. -/
theorem nil_mem_addresses (node : Node) : [] ∈ node.addresses := by
  rw [addresses_eq]
  exact List.mem_cons_self

/-- An address is listed exactly if there is a node at it. -/
theorem mem_addresses_iff {address : Address} :
    address ∈ node.addresses ↔ ∃ inner, node.at? address = some inner := by
  induction address generalizing node with
  | nil => simp [nil_mem_addresses, at?]
  | cons hop address inductionHypothesis =>
    rw [cons_mem_addresses_iff]
    simp only [inductionHypothesis, at?, Option.bind_eq_some_iff]
    constructor
    · rintro ⟨part, found, inner, further⟩
      exact ⟨inner, part, found, further⟩
    · rintro ⟨inner, part, found, further⟩
      exact ⟨part, found, inner, further⟩

/-- The nodes at the addresses are the nodes of the listing, one by one. -/
theorem map_at?_addresses (node : Node) : node.addresses.map node.at? = node.flatten.map some := by
  induction node using carried_induction with
  | step node inductionHypothesis =>
    have behind : ∀ part ∈ node.carried,
        (part.2.addresses.map (part.1 :: ·)).map node.at? = part.2.flatten.map some := by
      intro part member
      have found := mem_carried_iff.1 member
      rw [List.map_map, ← inductionHypothesis part.1 part.2 found]
      refine List.map_congr_left fun address _ => ?_
      rw [Function.comp_apply, at?, found, Option.bind_some]
    rw [addresses_eq, flatten_eq, List.map_cons, List.map_cons, List.map_flatMap, List.map_flatMap,
      List.flatMap_congr behind]
    rfl

/-- No address leads on from one that is listed behind it: a node stands in front of everything
inside it. -/
theorem pairwise_addresses (node : Node) :
    node.addresses.Pairwise fun earlier later => ¬ later <+: earlier := by
  induction node using carried_induction with
  | step node inductionHypothesis =>
    rw [addresses_eq]
    refine List.pairwise_cons.2 ⟨?_, List.pairwise_flatMap.2 ⟨?_, ?_⟩⟩
    · intro later member leads
      obtain ⟨part, -, memberPart⟩ := List.mem_flatMap.1 member
      obtain ⟨rest, -, rfl⟩ := List.mem_map.1 memberPart
      cases List.prefix_nil.1 leads
    · intro part member
      refine List.pairwise_map.2 ((inductionHypothesis part.1 part.2 (mem_carried_iff.1 member)).imp ?_)
      exact fun behind leads => behind (List.cons_prefix_cons.1 leads).2
    · refine (pairwise_carried node).imp fun different earlier memberEarlier later memberLater leads => ?_
      obtain ⟨_, -, rfl⟩ := List.mem_map.1 memberEarlier
      obtain ⟨_, -, rfl⟩ := List.mem_map.1 memberLater
      exact different (List.cons_prefix_cons.1 leads).1.symm

/-- Every address is listed once. -/
theorem nodup_addresses (node : Node) : node.addresses.Nodup := by
  refine (pairwise_addresses node).imp ?_
  rintro address _ behind rfl
  exact behind List.prefix_rfl

/-- The addresses inside a node stand in one piece, in the order they have in the listing of that
node. -/
theorem exists_addresses_eq {address : Address} (found : node.at? address = some inner) :
    ∃ front back, node.addresses = front ++ inner.addresses.map (address ++ ·) ++ back := by
  induction address generalizing node with
  | nil =>
    cases found
    exact ⟨[], [], by simp⟩
  | cons hop address inductionHypothesis =>
    obtain ⟨part, foundPart, further⟩ := Option.bind_eq_some_iff.1 found
    obtain ⟨front, back, split⟩ := inductionHypothesis further
    obtain ⟨before, after, carries⟩ := List.append_of_mem (mem_carried_iff.2 foundPart)
    rw [addresses_eq, carries, List.flatMap_append, List.flatMap_cons, split]
    refine ⟨[] :: (before.flatMap fun part => part.2.addresses.map (part.1 :: ·)) ++
      front.map (hop :: ·), back.map (hop :: ·) ++
        after.flatMap fun part => part.2.addresses.map (part.1 :: ·), ?_⟩
    simp only [List.map_append, List.map_map, List.append_assoc, List.cons_append]
    rfl

/-- Behind a listed address stand the addresses that lead on from it, and all of them there. -/
theorem exists_addresses_eq_of_mem {address : Address} (listed : address ∈ node.addresses) :
    ∃ front inside back, node.addresses = front ++ address :: inside ++ back ∧
      (∀ other ∈ inside, address <+: other) ∧ ∀ other ∈ front ++ back, ¬ address <+: other := by
  obtain ⟨inner, found⟩ := mem_addresses_iff.1 listed
  obtain ⟨front, back, split⟩ := exists_addresses_eq found
  have distinct := nodup_addresses node
  have block : inner.addresses.map (address ++ ·) =
      address :: (inner.addresses.map (address ++ ·)).tail := by
    rw [addresses_eq, List.map_cons, List.append_nil, List.tail_cons]
  refine ⟨front, (inner.addresses.map (address ++ ·)).tail, back, block ▸ split, ?_, ?_⟩
  · intro other member
    obtain ⟨rest, -, rfl⟩ := List.mem_map.1 (List.mem_of_mem_tail member)
    exact List.prefix_append address rest
  · rintro other member ⟨rest, rfl⟩
    have within : address ++ rest ∈ inner.addresses.map (address ++ ·) := by
      refine List.mem_map.2 ⟨rest, ?_, rfl⟩
      have member : address ++ rest ∈ node.addresses := by
        rw [split]
        simp only [List.mem_append] at member ⊢
        tauto
      rwa [mem_addresses_iff, at?_append, found, Option.bind_some, ← mem_addresses_iff] at member
    rw [split, List.append_assoc, List.nodup_append] at distinct
    obtain ⟨-, distinct, apart⟩ := distinct
    rcases List.mem_append.1 member with inFront | inBack
    · exact apart _ inFront _ (List.mem_append_left _ within) rfl
    · exact (List.nodup_append.1 distinct).2.2 _ within _ inBack rfl

/-! ## Objects -/

/-- The members of the object a node is written as. -/
def members (node : Node) : List (String × Json) :=
  (kindKey, .string node.kind) ::
    Slot.all.filterMap fun slot => (node.written? slot).map (slot.wireName, ·)

theorem toJson_eq_members (node : Node) : node.toJson = .object node.members := toJson_eq node

theorem toJsonList_eq_map (nodes : List Node) : toJsonList nodes = nodes.map toJson := by
  induction nodes with
  | nil => rfl
  | cons node rest inductionHypothesis => rw [toJsonList, inductionHypothesis, List.map_cons]

/-- The objects in the written form are one for the node and those of the nodes it carries, whatever
the order of the attributes. -/
theorem objects_toJson_perm (node : Node) :
    node.toJson.objects.Perm (node.members :: node.carried.flatMap fun part => part.2.toJson.objects) := by
  have text : ∀ slot (text : Option String), Json.objectsOfMembers (textMembers slot text) = [] := by
    rintro slot (_ | text) <;> rfl
  have nested : ∀ nested : Option Node, Json.objectsOfMembers (nodeMembers nested) =
      nested.toList.flatMap fun part => part.toJson.objects := by
    rintro (_ | nested) <;> simp [nodeMembers, Json.objectsOfMembers]
  have list : ∀ slot (list : Option (List Node)), Json.objectsOfMembers (listMembers slot list) =
      (list.getD []).flatMap fun part => part.toJson.objects := by
    rintro slot (_ | nodes)
    · rfl
    · simp [listMembers, Json.objectsOfMembers, Json.objects, Json.objectsOfItems_eq_flatMap,
        toJsonList_eq_map, List.flatMap_map]
  have inOrder : node.toJson.objects = node.members ::
      (node.nestedClass.toList.flatMap (fun part => part.toJson.objects) ++
        [ListSlot.fields, .values, .types, .items].flatMap fun slot =>
          ((node.getList slot).getD []).flatMap fun part => part.toJson.objects) := by
    have written := toJson_eq_members node
    cases node
    rw [toJson] at written ⊢
    rw [Json.objects, Json.object.inj written, ← Json.object.inj written]
    simp only [Json.objectsOfMembers_eq_flatMap] at text nested list ⊢
    simp only [List.cons_append, List.append_assoc, List.flatMap_cons, List.flatMap_append, text,
      nested, list, getList, Json.objects, List.nil_append, List.flatMap_nil, List.append_nil]
  rw [inOrder, flatMap_carried node fun part => part.toJson.objects]
  refine List.Perm.cons _ (List.Perm.append_left _ (List.Perm.flatMap_right _ ?_))
  decide

/-- The objects anywhere in the written form are those of the listed nodes, one for each. -/
theorem objects_perm (node : Node) : node.toJson.objects.Perm (node.flatten.map members) := by
  induction node using carried_induction with
  | step node inductionHypothesis =>
    rw [flatten_eq, List.map_cons, List.map_flatMap]
    refine (objects_toJson_perm node).trans (List.Perm.cons _ (List.Perm.flatMap_left _ ?_))
    exact fun part member => inductionHypothesis part.1 part.2 (mem_carried_iff.1 member)

/-- Among written attributes a wire name belongs to its attribute alone. -/
theorem lookup_written (node : Node) (slot : Slot) (slots : List Slot) :
    (slots.filterMap fun other => (node.written? other).map (other.wireName, ·)).lookup
      slot.wireName = if slot ∈ slots then node.written? slot else none := by
  induction slots with
  | nil => rfl
  | cons other slots inductionHypothesis =>
    rw [List.filterMap_cons]
    by_cases same : slot = other
    · subst same
      cases written : node.written? slot with
      | none => simp [inductionHypothesis, written]
      | some value => simp
    · have different : slot.wireName ≠ other.wireName := by
        intro named
        have found := Slot.ofKey?_wireName slot
        rw [named, Slot.ofKey?_wireName] at found
        exact same (Option.some.inj found).symm
      have apart : (slot.wireName == other.wireName) = false := beq_false_of_ne different
      cases node.written? other with
      | none => simp [inductionHypothesis, same]
      | some value => simp [inductionHypothesis, same, List.lookup_cons, apart]

/-- The kind and the name that an object shows. -/
def shown (members : List (String × Json)) : Option Json × Option Json :=
  (members.lookup kindKey, members.lookup (Slot.text .name).wireName)

/-- The object of a node shows its kind and its name. -/
theorem shown_members (node : Node) :
    shown node.members = (some (.string node.kind), node.name.map .string) := by
  have named : node.members.lookup (Slot.text .name).wireName = node.written? (.text .name) := by
    rw [members, List.lookup_cons, lookup_written, if_pos (Slot.mem_all _)]
    rfl
  rw [shown, named, members, List.lookup_cons_self, written?, get?, Option.map_map]
  rfl

/-- The listing of a node runs through the addresses of the node itself and of everything inside it,
each once. The node comes first, every node comes in front of what is inside it, and behind each
node stands what is inside it, in one piece. The objects anywhere in the written form are one for
each listed node, and show the kinds and the names of these nodes. -/
theorem flatten_matches_objects (node : Node) :
    (node.addresses.map node.at? = node.flatten.map some ∧ node.addresses.Nodup ∧
      ∀ address, address ∈ node.addresses ↔ ∃ inner, node.at? address = some inner) ∧
    (node.addresses.head? = some [] ∧
      (node.addresses.Pairwise fun earlier later => ¬ later <+: earlier) ∧
      ∀ address ∈ node.addresses, ∃ front inside back,
        node.addresses = front ++ address :: inside ++ back ∧
          (∀ other ∈ inside, address <+: other) ∧ ∀ other ∈ front ++ back, ¬ address <+: other) ∧
    (node.toJson.objects.map Json.object).Perm (node.flatten.map toJson) ∧
    (node.toJson.objects.map shown).Perm
      (node.flatten.map fun inner => (some (.string inner.kind), inner.name.map .string)) := by
  have first : node.addresses.head? = some [] := by rw [addresses_eq, List.head?_cons]
  have objects := (objects_perm node).map Json.object
  have names := (objects_perm node).map shown
  simp only [List.map_map, Function.comp_def, ← toJson_eq_members, shown_members] at objects names
  exact ⟨⟨map_at?_addresses node, nodup_addresses node, fun _ => mem_addresses_iff⟩,
    ⟨first, pairwise_addresses node, fun _ => exists_addresses_eq_of_mem⟩, objects, names⟩

/-- A node that carries a class and lists of every sort. -/
def crowded : Node where
  kind := "Class"
  name := some "A"
  nestedClass := some { kind := "Class", fields := some [{ kind := "Field" }] }
  fields := some [{ kind := "Field" }, { kind := "Field", nestedClass := some { kind := "Class" } }]
  values := some [{ kind := "EnumValue" }]
  types := some [{ kind := "Group", name := some "B" }]
  items := some []

theorem flatten_matches_objects_crowded :
    crowded.at? [.entry .fields 1, .nestedClass] = some { kind := "Class" } ∧
      (∃ front inside back,
        crowded.addresses = front ++ [.entry .fields 1] :: inside ++ back ∧
          [.entry .fields 1, .nestedClass] ∈ inside ∧ [.entry .fields 0] ∉ inside) ∧
      (crowded.toJson.objects.map shown).Perm
        [(some (.string "Class"), some (.string "A")), (some (.string "Class"), none),
          (some (.string "Field"), none), (some (.string "Group"), some (.string "B")),
          (some (.string "Field"), none), (some (.string "Field"), none),
          (some (.string "Class"), none), (some (.string "EnumValue"), none)] := by
  obtain ⟨⟨-, -, listed⟩, ⟨-, -, together⟩, -, names⟩ := flatten_matches_objects crowded
  have inClass : [Hop.entry .fields 1, .nestedClass] ∈ crowded.addresses := (listed _).2 ⟨_, rfl⟩
  obtain ⟨front, inside, back, split, leads, apart⟩ :=
    together [.entry .fields 1] ((listed _).2 ⟨_, rfl⟩)
  refine ⟨rfl, ⟨front, inside, back, split, ?_, fun member => ?_⟩, names⟩
  · have outside : [Hop.entry .fields 1, .nestedClass] ∉ front ++ back := fun member =>
      apart _ member (by decide)
    simp only [split, List.mem_append, List.mem_cons] at inClass outside
    rcases inClass with (inFront | same | within) | inBack
    · exact absurd (.inl inFront) outside
    · cases same
    · exact within
    · exact absurd (.inr inBack) outside
  · exact absurd (leads _ member) (by decide)

end SchemaTypes.Node
