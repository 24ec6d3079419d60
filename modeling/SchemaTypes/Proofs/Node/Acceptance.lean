import Mathlib.Data.List.Basic
import SchemaTypes.Proofs.Association
import SchemaTypes.Proofs.Node.Wire

/-!
# What is read as a node

An object is read as a node if every object in it has a kind and no key that is unknown, and else it
is refused for a key that is missing or unknown. What was read is written back in normal form: each
attribute under its wire name, with the value of the last key that names it, and not at all if that
value is null. Both are said of the objects alone, without the way they are read.
-/

namespace SchemaTypes

namespace Json

mutual

/-- The members of every object in a value, of the value itself and at any depth inside it. -/
def objects : Json → List (List (String × Json))
  | object members => members :: objectsOfMembers members
  | array items => objectsOfItems items
  | null | bool _ | number _ | string _ => []
  termination_by structural value => value

/-- The members of every object in the values of some members. -/
def objectsOfMembers : List (String × Json) → List (List (String × Json))
  | [] => []
  | (_, value) :: rest => value.objects ++ objectsOfMembers rest
  termination_by structural members => members

/-- The members of every object in the items of a list. -/
def objectsOfItems : List Json → List (List (String × Json))
  | [] => []
  | item :: rest => item.objects ++ objectsOfItems rest
  termination_by structural items => items

end

/-- Whether a value is a text. -/
def isText : Json → Bool
  | string _ => true
  | _ => false

/-- Whether a value is an object. -/
def isObject : Json → Bool
  | object _ => true
  | _ => false

theorem exists_of_isText {value : Json} (isText : value.isText = true) :
    ∃ text, value = .string text := by
  cases value with
  | string text => exact ⟨text, rfl⟩
  | null | bool | number | array | object => cases isText

theorem exists_of_isObject {value : Json} (isObject : value.isObject = true) :
    ∃ members, value = .object members := by
  cases value with
  | object members => exact ⟨members, rfl⟩
  | null | bool | number | string | array => cases isObject

/-- The value, unless it is null. -/
def present? : Json → Option Json
  | null => none
  | value => some value

/-- The objects in members are those in their values. -/
theorem objectsOfMembers_eq_flatMap (members : List (String × Json)) :
    objectsOfMembers members = members.flatMap fun member => member.2.objects := by
  induction members with
  | nil => rfl
  | cons member rest inductionHypothesis =>
    rw [objectsOfMembers, inductionHypothesis, List.flatMap_cons]

/-- The objects in items are those in each of them. -/
theorem objectsOfItems_eq_flatMap (items : List Json) :
    objectsOfItems items = items.flatMap objects := by
  induction items with
  | nil => rfl
  | cons item rest inductionHypothesis =>
    rw [objectsOfItems, inductionHypothesis, List.flatMap_cons]

/-- What holds of every object in an object holds of its members and of every object in their
values. -/
theorem forall_objects_object {property : List (String × Json) → Prop}
    {members : List (String × Json)} :
    (∀ inner ∈ (object members).objects, property inner) ↔
      property members ∧ ∀ member ∈ members, ∀ inner ∈ member.2.objects, property inner := by
  rw [objects, List.forall_mem_cons, objectsOfMembers_eq_flatMap, List.forall_mem_flatMap]

/-- What holds of every object in a list holds of every object in its items. -/
theorem forall_objects_array {property : List (String × Json) → Prop} {items : List Json} :
    (∀ inner ∈ (array items).objects, property inner) ↔
      ∀ item ∈ items, ∀ inner ∈ item.objects, property inner := by
  rw [objects, objectsOfItems_eq_flatMap, List.forall_mem_flatMap]

end Json

namespace Node

/-! ## Objects that can be nodes -/

/-- The keys an object may have: that of the kind, and those of the attributes by either name. -/
def knownKeys : List String :=
  [kindKey, "name", "value", "type", "extends", "ref", "fieldName", "field_name", "fieldType",
   "field_type", "nestedClass", "nested_class", "fields", "values", "types", "items"]

/-- A key is known if it is that of the kind or names an attribute. -/
theorem mem_knownKeys_iff {key : String} :
    key ∈ knownKeys ↔ key = kindKey ∨ ∃ slot, Slot.ofKey? key = some slot := by
  constructor
  · intro member
    simp only [knownKeys, List.mem_cons, List.not_mem_nil, or_false] at member
    rcases member with rfl | member
    · exact Or.inl rfl
    · refine Or.inr (Option.isSome_iff_exists.1 ?_)
      rcases member with rfl | rfl | rfl | rfl | rfl | rfl | rfl | rfl | rfl | rfl | rfl | rfl |
        rfl | rfl | rfl <;> decide
  · rintro (rfl | ⟨slot, named⟩)
    · decide
    · have names := List.find?_some named
      simp only [Bool.or_eq_true, decide_eq_true_eq] at names
      rcases names with rfl | rfl <;>
        rcases slot with (_ | _ | _ | _ | _ | _ | _) | _ | (_ | _ | _ | _) <;> decide

/-- Whether an attribute can hold a value: a text, an object or a list of objects, as the attribute
asks, or null. -/
def holdable : Slot → Json → Bool
  | _, .null => true
  | .text _, .string _ => true
  | .nestedClass, .object _ => true
  | .list _, .array items => items.all Json.isObject
  | _, _ => false

/-- Whether some attribute can hold a value. -/
def isHoldable (value : Json) : Bool := Slot.all.any fun slot => holdable slot value

/-- Whether a value may stand under a key: a text for the kind, what the attribute can hold for a
key that names one, and what some attribute can hold for any other key. -/
def fits (key : String) (value : Json) : Bool :=
  if key = kindKey then value.isText
  else match Slot.ofKey? key with
    | some slot => holdable slot value
    | none => isHoldable value

/-- What fits a key other than the kind can be held by an attribute. -/
theorem isHoldable_of_fits {key : String} {value : Json} (notKind : key ≠ kindKey)
    (fit : fits key value = true) : isHoldable value = true := by
  rw [fits, if_neg notKind] at fit
  split at fit
  · next slot _ => exact List.any_eq_true.2 ⟨slot, Slot.mem_all slot, fit⟩
  · exact fit

/-- Every value in every object fits its key. -/
def IsTyped (value : Json) : Prop :=
  ∀ members ∈ value.objects, ∀ member ∈ members, fits member.1 member.2 = true

instance (value : Json) : Decidable (IsTyped value) :=
  inferInstanceAs (Decidable (∀ members ∈ value.objects, _))

/-- Every object has a kind and no unknown key. -/
def IsComplete (value : Json) : Prop :=
  ∀ members ∈ value.objects,
    kindKey ∈ members.map Prod.fst ∧ ∀ key ∈ members.map Prod.fst, key ∈ knownKeys

instance (value : Json) : Decidable (IsComplete value) :=
  inferInstanceAs (Decidable (∀ members ∈ value.objects, _))

/-! ## Normal form -/

/-- The value of the last member whose key names an attribute. -/
def lastNamed? (slot : Slot) (members : List (String × Json)) : Option Json :=
  (members.reverse.find? fun member => Slot.ofKey? member.1 = some slot).map Prod.snd

/-- The members of an object in the order they are written: the kind, and for each attribute the
last member that names it, under the wire name and unless its value is null. -/
def arrange (members : List (String × Json)) : List (String × Json) :=
  ((members.lookup kindKey).map (kindKey, ·)).toList ++
    Slot.all.filterMap fun slot =>
      ((lastNamed? slot members).bind Json.present?).map (slot.wireName, ·)

mutual

/-- The value with every object in it in normal form. -/
def normalForm : Json → Json
  | .object members => .object (arrange (normalMembers members))
  | .array items => .array (normalItems items)
  | .null => .null
  | .bool value => .bool value
  | .number spelling => .number spelling
  | .string text => .string text
  termination_by structural value => value

/-- The members with every object in their values in normal form. -/
def normalMembers : List (String × Json) → List (String × Json)
  | [] => []
  | (key, value) :: rest => (key, normalForm value) :: normalMembers rest
  termination_by structural members => members

/-- The items with every object in them in normal form. -/
def normalItems : List Json → List Json
  | [] => []
  | item :: rest => normalForm item :: normalItems rest
  termination_by structural items => items

end

/-! ## What is written -/

/-- The value that is written for what an attribute holds. -/
def Value.toJson : Value → Json
  | .text held => .string held
  | .node held => held.toJson
  | .nodes held => .array (toJsonList held)

/-- The value that is written for an attribute of a node. -/
def written? (node : Node) (slot : Slot) : Option Json := (node.get? slot).map Value.toJson

/-- A node is written as its kind and the attributes it carries, in order. -/
theorem toJson_eq (node : Node) :
    node.toJson = .object ((kindKey, .string node.kind) ::
      Slot.all.filterMap fun slot => (node.written? slot).map (slot.wireName, ·)) := by
  have text : ∀ slot (text : Option String), textMembers slot text =
      ((text.map (Value.toJson ∘ .text)).map ((Slot.text slot).wireName, ·)).toList := by
    rintro slot (_ | text) <;> rfl
  have nested : ∀ nested : Option Node, nodeMembers nested =
      ((nested.map (Value.toJson ∘ .node)).map (Slot.nestedClass.wireName, ·)).toList := by
    rintro (_ | nested) <;> rfl
  have list : ∀ slot (list : Option (List Node)), listMembers slot list =
      ((list.map (Value.toJson ∘ .nodes)).map ((Slot.list slot).wireName, ·)).toList := by
    rintro slot (_ | list) <;> rfl
  cases node
  simp only [toJson, text, nested, list, List.filterMap_eq_flatMap_toList, Slot.all, written?,
    get?, getText, getList, Option.map_map, Function.comp_assoc, List.flatMap_cons,
    List.flatMap_nil, List.append_nil, List.cons_append, List.append_assoc]

/-- Setting a text attribute changes what is written for it and nothing else. -/
theorem written?_setText (node : Node) (slot : TextSlot) (text : Option String) (other : Slot) :
    (node.setText slot text).written? other =
      if other = .text slot then text.map .string else node.written? other := by
  cases slot <;> rcases other with (_ | _ | _ | _ | _ | _ | _) | _ | (_ | _ | _ | _) <;>
    simp [written?, get?, getText, getList, setText, Value.toJson, Function.comp_def]

/-- Setting a list attribute changes what is written for it and nothing else. -/
theorem written?_setList (node : Node) (slot : ListSlot) (list : Option (List Node))
    (other : Slot) :
    (node.setList slot list).written? other =
      if other = .list slot then list.map fun nodes => .array (toJsonList nodes)
      else node.written? other := by
  cases slot <;> rcases other with (_ | _ | _ | _ | _ | _ | _) | _ | (_ | _ | _ | _) <;>
    simp [written?, get?, getText, getList, setList, Value.toJson, Function.comp_def]

/-- Setting the nested class changes what is written for it and nothing else. -/
theorem written?_nestedClass (node : Node) (nested : Option Node) (other : Slot) :
    { node with nestedClass := nested }.written? other =
      if other = .nestedClass then nested.map toJson else node.written? other := by
  rcases other with (_ | _ | _ | _ | _ | _ | _) | _ | (_ | _ | _ | _) <;>
    simp [written?, get?, getText, getList, Value.toJson, Function.comp_def]

/-- Clearing an attribute leaves nothing to be written for it and changes nothing else. -/
theorem written?_clear (node : Node) (slot other : Slot) :
    (node.clear slot).written? other = if other = slot then none else node.written? other := by
  cases slot with
  | text slot => exact written?_setText node slot none other
  | nestedClass => exact written?_nestedClass node none other
  | list slot => exact written?_setList node slot none other

@[simp]
theorem kind_setText (node : Node) (slot : TextSlot) (text : Option String) :
    (node.setText slot text).kind = node.kind := by
  cases slot <;> rfl

@[simp]
theorem kind_setList (node : Node) (slot : ListSlot) (list : Option (List Node)) :
    (node.setList slot list).kind = node.kind := by
  cases slot <;> rfl

@[simp]
theorem kind_clear (node : Node) (slot : Slot) : (node.clear slot).kind = node.kind := by
  cases slot <;> simp [clear]

/-! ## How reading ends -/

/-- The errors for a key that is missing or unknown. -/
inductive WireError.IsAboutKey : WireError → Prop where
  | missingKind : IsAboutKey .missingKind
  | unknownKey {key : String} (unknown : key ∉ knownKeys) : IsAboutKey (.unknownKey key)

/-- Reading ends with a result if a condition is met, and with an error about a key if it is not. -/
inductive Ends {α : Type} (condition : Prop) (result : α → Prop) : Except WireError α → Prop where
  | made {value : α} (met : condition) (holds : result value) : Ends condition result (.ok value)
  | refused {error : WireError} (unmet : ¬ condition) (about : error.IsAboutKey) :
      Ends condition result (.error error)

section Ends

variable {α β : Type} {condition condition' : Prop} {result : α → Prop} {result' : β → Prop}
  {first : Except WireError α}

/-- A condition may be said in other words. -/
theorem Ends.congr (same : condition ↔ condition') (ends : Ends condition result first) :
    Ends condition' result first := by
  rwa [← propext same]

/-- Less may be said of the result. -/
theorem Ends.imp {result' : α → Prop} (ends : Ends condition result first)
    (weaker : ∀ value, result value → result' value) : Ends condition result' first := by
  cases ends with
  | refused unmet about => exact .refused unmet about
  | made met holds => exact .made met (weaker _ holds)

/-- Two readings one after the other end with a result if both conditions are met. -/
theorem Ends.bind {next : α → Except WireError β} (ends : Ends condition result first)
    (continues : ∀ value, result value → Ends condition' result' (next value)) :
    Ends (condition ∧ condition') result' (first >>= next) := by
  cases ends with
  | refused unmet about => exact .refused (fun met => unmet met.1) about
  | @made value met holds =>
    show Ends _ _ (next value)
    exact (continues value holds).congr (by simp [met])

/-- What a reading ends with may be made into something else, if nothing is refused on the way. -/
theorem Ends.bind_ok {next : α → Except WireError β} (ends : Ends condition result first)
    (makes : ∀ value, result value → ∃ made, next value = .ok made ∧ result' made) :
    Ends condition result' (first >>= next) := by
  cases ends with
  | refused unmet about => exact .refused unmet about
  | @made value met holds =>
    obtain ⟨made, makes, holds⟩ := makes value holds
    show Ends _ _ (next value)
    rw [makes]
    exact .made met holds

/-- What a reading ends with may be put into something else. -/
theorem Ends.map {into : α → β} (ends : Ends condition result first)
    (becomes : ∀ value, result value → result' (into value)) :
    Ends condition result' (first.map into) := by
  cases ends with
  | refused unmet about => exact .refused unmet about
  | made met holds => exact .made met (becomes _ holds)

end Ends

/-- What a value was read as: something of its form that is written in its normal form. -/
inductive ReadAs : Json → Content → Prop where
  | absent : ReadAs .null .absent
  | text (text : String) : ReadAs (.string text) (.text text)
  | node {members : List (String × Json)} {node : Node}
      (written : node.toJson = normalForm (.object members)) : ReadAs (.object members) (.node node)
  | nodes {items : List Json} {nodes : List Node}
      (written : toJsonList nodes = normalItems items) : ReadAs (.array items) (.nodes nodes)

/-- What is written for an attribute after a member has been stored: the value of the member if it
names the attribute, and what was there before if not. -/
def Stores (slot : Slot) (value : Json) (before after : Node) : Prop :=
  after.kind = before.kind ∧ ∀ other, after.written? other =
    if other = slot then (normalForm value).present? else before.written? other

/-- What an attribute can hold is stored there. -/
theorem exists_stores {key : String} {slot : Slot} (named : Slot.ofKey? key = some slot)
    {value : Json} {content : Content} (read : ReadAs value content)
    (held : holdable slot value = true) (node : Node) :
    ∃ after, node.store key content = .ok after ∧ Stores slot value node after := by
  cases read with
  | absent =>
    refine ⟨node.clear slot, by simp only [store, named], kind_clear node slot, fun other => ?_⟩
    rw [written?_clear]
    rfl
  | text text =>
    cases slot with
    | text slot =>
      refine ⟨node.setText slot (some text), by simp only [store, named], by simp, fun other => ?_⟩
      rw [written?_setText]
      rfl
    | nestedClass | list => cases held
  | @node members nested written =>
    cases slot with
    | nestedClass =>
      refine ⟨{ node with nestedClass := some nested }, by simp only [store, named], rfl,
        fun other => ?_⟩
      rw [written?_nestedClass, Option.map_some, written]
      rfl
    | text | list => cases held
  | @nodes items nodes written =>
    cases slot with
    | list slot =>
      refine ⟨node.setList slot (some nodes), by simp only [store, named], by simp, fun other => ?_⟩
      rw [written?_setList, Option.map_some, written]
      rfl
    | text | nestedClass => cases held

/-- A value that fits its key is stored if the key is known. -/
theorem store_ends {key : String} {value : Json} {content : Content} (notKind : key ≠ kindKey)
    (fit : fits key value = true) (read : ReadAs value content) (node : Node) :
    Ends (key ∈ knownKeys)
      (fun after => ∃ slot, Slot.ofKey? key = some slot ∧ Stores slot value node after)
      (node.store key content) := by
  rw [fits, if_neg notKind] at fit
  cases named : Slot.ofKey? key with
  | none =>
    have unknown : key ∉ knownKeys := by simp [mem_knownKeys_iff, notKind, named]
    have refuses : node.store key content = .error (.unknownKey key) := by
      simp only [store, named]
    rw [refuses]
    exact .refused unknown (.unknownKey unknown)
  | some slot =>
    rw [named] at fit
    obtain ⟨after, stores, written⟩ := exists_stores named read fit node
    rw [stores]
    exact .made (mem_knownKeys_iff.2 (Or.inr ⟨slot, named⟩)) ⟨slot, rfl, written⟩

/-- The last member that names an attribute is the last among the others, or else the first one. -/
theorem lastNamed?_cons (slot : Slot) (key : String) (value : Json)
    (rest : List (String × Json)) :
    lastNamed? slot ((key, value) :: rest) =
      (lastNamed? slot rest).or (if Slot.ofKey? key = some slot then some value else none) := by
  rw [lastNamed?, List.reverse_cons, List.find?_append, Option.map_or, List.find?_singleton]
  congr 1
  by_cases named : Slot.ofKey? key = some slot <;> simp [named]

/-- What is written for a node after some members have been stored: the value of the last member
that names the attribute, or else what was there before. -/
def StoresAll (members : List (String × Json)) (before after : Node) : Prop :=
  after.kind = before.kind ∧ ∀ slot, after.written? slot =
    match lastNamed? slot (normalMembers members) with
    | some value => value.present?
    | none => before.written? slot

/-- A member for the kind stores nothing. -/
theorem StoresAll.kind {value : Json} {rest : List (String × Json)} {before after : Node}
    (later : StoresAll rest before after) : StoresAll ((kindKey, value) :: rest) before after := by
  refine ⟨later.1, fun slot => ?_⟩
  have unnamed : Slot.ofKey? kindKey = none := by decide
  rw [later.2, normalMembers, lastNamed?_cons, unnamed, if_neg (by simp), Option.or_none]

/-- Storing a member and then the others is storing them all. -/
theorem StoresAll.cons {key : String} {slot : Slot} (named : Slot.ofKey? key = some slot)
    {value : Json} {rest : List (String × Json)} {before between after : Node}
    (stores : Stores slot value before between) (later : StoresAll rest between after) :
    StoresAll ((key, value) :: rest) before after := by
  refine ⟨later.1.trans stores.1, fun other => ?_⟩
  rw [later.2, normalMembers, lastNamed?_cons, named, stores.2]
  cases lastNamed? other (normalMembers rest) with
  | some last => rfl
  | none =>
    by_cases same : other = slot
    · simp [same]
    · simp [same, Ne.symm same]

/-- A key has the normal form of the value it had. -/
theorem lookup_normalMembers (key : String) (members : List (String × Json)) :
    (normalMembers members).lookup key = (members.lookup key).map normalForm := by
  induction members with
  | nil => rfl
  | cons member rest inductionHypothesis =>
    rw [normalMembers, List.lookup_cons, List.lookup_cons, inductionHypothesis]
    split <;> rfl

/-- A node that all members of an object have been stored into is written in normal form. -/
theorem toJson_of_storesAll {kind : String} {members : List (String × Json)} {node : Node}
    (found : members.lookup kindKey = some (.string kind))
    (stores : StoresAll members { kind := kind } node) :
    node.toJson = normalForm (.object members) := by
  have written : ∀ slot, node.written? slot =
      (lastNamed? slot (normalMembers members)).bind Json.present? := by
    intro slot
    rw [stores.2]
    cases lastNamed? slot (normalMembers members) with
    | some value => rfl
    | none => rcases slot with (_ | _ | _ | _ | _ | _ | _) | _ | (_ | _ | _ | _) <;> rfl
  have kinds : node.kind = kind := stores.1
  rw [toJson_eq, normalForm, arrange, lookup_normalMembers, found]
  simp only [written, kinds]
  rfl

/-- An object whose members fit is typed if their values are. -/
theorem isTyped_object_iff {members : List (String × Json)} :
    IsTyped (.object members) ↔
      (∀ member ∈ members, fits member.1 member.2 = true) ∧
        ∀ member ∈ members, IsTyped member.2 :=
  Json.forall_objects_object

/-- An array is typed if every item is. -/
theorem isTyped_array_iff {items : List Json} :
    IsTyped (.array items) ↔ ∀ item ∈ items, IsTyped item :=
  Json.forall_objects_array

/-- An object is complete if it has a kind, and its keys are known and their values complete. -/
theorem isComplete_object_iff {members : List (String × Json)} :
    IsComplete (.object members) ↔
      kindKey ∈ members.map Prod.fst ∧
        ∀ member ∈ members, member.1 ∈ knownKeys ∧ IsComplete member.2 := by
  rw [IsComplete, Json.forall_objects_object, List.forall_mem_map, and_assoc, ← forall₂_and]
  rfl

/-- An array is complete if every item is. -/
theorem isComplete_array_iff {items : List Json} :
    IsComplete (.array items) ↔ ∀ item ∈ items, IsComplete item :=
  Json.forall_objects_array

mutual

/-- A value is read if every object in it is complete, and as something that is written in its
normal form. -/
theorem contentOf_ends : ∀ value : Json, isHoldable value = true → IsTyped value →
    Ends (IsComplete value) (ReadAs value) (contentOf value)
  | .null, _, _ => .made (by simp [IsComplete, Json.objects]) .absent
  | .bool _, held, _ | .number _, held, _ => absurd held (by simp [isHoldable, Slot.all, holdable])
  | .string text, _, _ => .made (by simp [IsComplete, Json.objects]) (.text text)
  | .array items, held, typed => by
    have objects : items.all Json.isObject = true := by
      simpa [isHoldable, Slot.all, holdable] using held
    rw [contentOf]
    exact ((nodesOf_ends items objects (isTyped_array_iff.1 typed)).congr
      isComplete_array_iff.symm).map fun nodes written => .nodes written
  | .object members, _, typed => by
    obtain ⟨fit, inside⟩ := isTyped_object_iff.1 typed
    rw [contentOf]
    cases found : members.lookup kindKey with
    | none =>
      have missing : kindKey ∉ members.map Prod.fst := by
        rw [List.lookup_eq_none_iff] at found
        rintro member
        obtain ⟨⟨key, value⟩, inMembers, rfl⟩ := List.mem_map.1 member
        exact absurd (found _ inMembers) (by simp)
      exact .refused (fun complete => missing (isComplete_object_iff.1 complete).1) .missingKind
    | some value =>
      have member : (kindKey, value) ∈ members := Association.mem_of_lookup found
      obtain ⟨kind, rfl⟩ := Json.exists_of_isText (fit _ member)
      refine ((storeMembers_ends members { kind := kind } fit inside).congr ?_).map
        fun node stores => .node (toJson_of_storesAll found stores)
      rw [isComplete_object_iff, and_iff_right (List.mem_map_of_mem member)]

/-- The members of an object are stored if their keys are known and their values complete. -/
theorem storeMembers_ends : ∀ (members : List (String × Json)) (node : Node),
    (∀ member ∈ members, fits member.1 member.2 = true) → (∀ member ∈ members, IsTyped member.2) →
    Ends (∀ member ∈ members, member.1 ∈ knownKeys ∧ IsComplete member.2) (StoresAll members node)
      (storeMembers members node)
  | [], node, _, _ => .made (by simp) ⟨rfl, fun slot => rfl⟩
  | (key, value) :: rest, node, fit, typed => by
    obtain ⟨fitHere, fitLater⟩ := List.forall_mem_cons.1 fit
    obtain ⟨typedHere, typedLater⟩ := List.forall_mem_cons.1 typed
    rw [storeMembers]
    by_cases isKind : key = kindKey
    · subst isKind
      obtain ⟨text, rfl⟩ := Json.exists_of_isText fitHere
      have complete : kindKey ∈ knownKeys ∧ IsComplete (.string text) :=
        ⟨mem_knownKeys_iff.2 (Or.inl rfl), by simp [IsComplete, Json.objects]⟩
      rw [if_pos rfl]
      refine ((storeMembers_ends rest node fitLater typedLater).congr ?_).imp fun _ => .kind
      rw [List.forall_mem_cons, and_iff_right complete]
    · rw [if_neg isKind]
      refine ((contentOf_ends value (isHoldable_of_fits isKind fitHere) typedHere).bind
        fun content read => (store_ends isKind fitHere read node).bind
          fun between ⟨slot, named, stores⟩ =>
            (storeMembers_ends rest between fitLater typedLater).imp
              fun after later => later.cons named stores).congr ?_
      rw [List.forall_mem_cons, ← and_assoc, and_comm (a := IsComplete value)]

/-- A list of objects is read if they are complete. -/
theorem nodesOf_ends : ∀ items : List Json, items.all Json.isObject = true →
    (∀ item ∈ items, IsTyped item) →
    Ends (∀ item ∈ items, IsComplete item) (fun nodes => toJsonList nodes = normalItems items)
      (nodesOf items)
  | [], _, _ => .made (by simp) rfl
  | item :: rest, objects, typed => by
    rw [List.all_cons, Bool.and_eq_true] at objects
    obtain ⟨members, rfl⟩ := Json.exists_of_isObject objects.1
    obtain ⟨typedHere, typedLater⟩ := List.forall_mem_cons.1 typed
    rw [nodesOf, List.forall_mem_cons]
    refine (contentOf_ends (.object members) rfl typedHere).bind fun content read => ?_
    cases read with
    | @node _ node written =>
      refine (nodesOf_ends rest objects.2 typedLater).bind_ok fun nodes writtenLater =>
        ⟨node :: nodes, rfl, ?_⟩
      rw [toJsonList, normalItems, written, writtenLater]

end

/-! ## What is accepted -/

/-- An object is read if every object in it is complete, and as a node that is written in the normal
form of the object. -/
theorem ofJson_ends {members : List (String × Json)} (typed : IsTyped (.object members)) :
    Ends (IsComplete (.object members)) (fun node => node.toJson = normalForm (.object members))
      (ofJson (.object members)) := by
  refine (contentOf_ends (.object members) rfl typed).bind_ok fun content read => ?_
  cases read with
  | @node _ node written => exact ⟨node, rfl, written⟩

/-- An object in which every value fits its key is read exactly if every object in it has a kind and
no unknown key. Otherwise the error is about a kind that is missing or a key that is unknown, and a
node that was read is written in the normal form of the object. -/
theorem ofJson_accepts_iff (members : List (String × Json)) (typed : IsTyped (.object members)) :
    ((∃ node, ofJson (.object members) = .ok node) ↔ IsComplete (.object members)) ∧
      (∀ error, ofJson (.object members) = .error error → error = .missingKind ∨
        ∃ key, key ∉ knownKeys ∧ error = .unknownKey key) ∧
      ∀ node, ofJson (.object members) = .ok node → node.toJson = normalForm (.object members) := by
  have ends := ofJson_ends typed
  generalize ofJson (.object members) = read at ends ⊢
  cases ends with
  | refused unmet about =>
    refine ⟨iff_of_false (by rintro ⟨node, ⟨⟩⟩) unmet, ?_, by rintro node ⟨⟩⟩
    rintro error ⟨⟩
    cases about with
    | missingKind => exact Or.inl rfl
    | unknownKey unknown => exact Or.inr ⟨_, unknown, rfl⟩
  | @made node met written =>
    refine ⟨iff_of_true ⟨node, rfl⟩ met, by rintro error ⟨⟩, ?_⟩
    rintro other ⟨⟩
    exact written

/-- An object in which a later name replaces an earlier one, a later null removes a base, and a
nested class with a list of fields stands under its long name. -/
def overwritten : List (String × Json) :=
  [("field_name", .string "street"), ("kind", .string "Field"), ("extends", .string "base"),
   ("nested_class", .object [("fields", .array [.object [("kind", .string "Field")]]),
     ("kind", .string "Class")]),
   ("fieldName", .string "road"), ("extends", .null)]

theorem ofJson_accepts_overwritten :
    IsTyped (.object overwritten) ∧ IsComplete (.object overwritten) ∧
      ∃ node, ofJson (.object overwritten) = .ok node ∧
        node.toJson = .object [("kind", .string "Field"), ("fieldName", .string "road"),
          ("nestedClass", .object [("kind", .string "Class"),
            ("fields", .array [.object [("kind", .string "Field")]])])] := by
  have typed : IsTyped (.object overwritten) := by decide
  have complete : IsComplete (.object overwritten) := by decide
  obtain ⟨accepted, -, normal⟩ := ofJson_accepts_iff overwritten typed
  obtain ⟨node, read⟩ := accepted.2 complete
  exact ⟨typed, complete, node, read, (normal node read).trans rfl⟩

end Node

end SchemaTypes
