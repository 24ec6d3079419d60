import Mathlib.Data.List.Forall2
import SchemaTypes.Proofs.Element.Content

/-!
# Documents of one shape

Two documents correspond if they have the same shape and every element is related to the one in its
place. If related elements have one local name, then the content of corresponding elements
corresponds too, with and without remarks.
-/

namespace SchemaTypes

/-- Readings that agree on what is related make the same of lists in which whatever is in the same
place is related. -/
theorem filterMap_eq_of_forall₂ {α β γ : Type} {related : α → β → Prop} {lefts : List α}
    {rights : List β} {read : α → Option γ} {read' : β → Option γ}
    (alike : List.Forall₂ related lefts rights)
    (same : ∀ left ∈ lefts, ∀ right, related left right → read left = read' right) :
    lefts.filterMap read = rights.filterMap read' := by
  induction alike with
  | nil => rfl
  | @cons left right lefts rights first _ inductionHypothesis =>
    obtain ⟨here, later⟩ := List.forall_mem_cons.1 same
    rw [List.filterMap_cons, List.filterMap_cons, here right first, inductionHypothesis later]

namespace Element

/-- Induction over a document: what holds of an element if it holds of its children holds of every
element. -/
theorem children_induction {motive : Element → Prop}
    (step : ∀ element, (∀ child ∈ element.children, motive child) → motive element)
    (element : Element) : motive element :=
  step element fun child member =>
    have := sizeOf_lt_of_mem_children member
    children_induction step child
  termination_by sizeOf element

mutual

/-- An element and every element inside it, in the order of the document. -/
def everyElement : Element → List Element
  | mk tag attributes children => mk tag attributes children :: everyElementOf children

/-- Several elements and every element inside them, in the order of the document. -/
def everyElementOf : List Element → List Element
  | [] => []
  | child :: rest => child.everyElement ++ everyElementOf rest

end

/-- An element is the first of those in it. -/
theorem self_mem_everyElement (element : Element) : element ∈ element.everyElement := by
  cases element
  simp [everyElement]

theorem everyElementOf_eq_flatMap (elements : List Element) :
    everyElementOf elements = elements.flatMap everyElement := by
  induction elements with
  | nil => rfl
  | cons child rest inductionHypothesis => simp [everyElementOf, inductionHypothesis]

/-- Whatever is inside a child is inside the element. -/
theorem mem_everyElement_of_mem_children {inner child element : Element}
    (member : child ∈ element.children) (inside : inner ∈ child.everyElement) :
    inner ∈ element.everyElement := by
  cases element with
  | mk tag attributes children =>
    rw [everyElement, everyElementOf_eq_flatMap]
    exact List.mem_cons_of_mem _ (List.mem_flatMap.2 ⟨child, member, inside⟩)

/-- What is inside an element is the element itself or inside one of its children. -/
theorem mem_everyElement_iff {inner element : Element} :
    inner ∈ element.everyElement ↔
      inner = element ∨ ∃ child ∈ element.children, inner ∈ child.everyElement := by
  cases element with
  | mk tag attributes children =>
    rw [everyElement, everyElementOf_eq_flatMap, List.mem_cons, List.mem_flatMap]
    rfl

/-- What is in an element that is in another is in the other. -/
theorem mem_everyElement_trans {inner middle element : Element}
    (deeper : inner ∈ middle.everyElement) (inside : middle ∈ element.everyElement) :
    inner ∈ element.everyElement := by
  induction element using children_induction with
  | step element inductionHypothesis =>
    rcases mem_everyElement_iff.1 inside with rfl | ⟨child, member, inside⟩
    · exact deeper
    · exact mem_everyElement_of_mem_children member (inductionHypothesis child member inside)

/-- The children without remarks are in an element. -/
theorem mem_everyElement_of_mem_plainChildren {child element : Element}
    (member : child ∈ element.plainChildren) : child ∈ element.everyElement :=
  mem_everyElement_of_mem_children (mem_children_of_mem_plainChildren member)
    child.self_mem_everyElement

/-- Elements of one shape in which whatever is in the same place is related. -/
inductive Corresponds (related : Element → Element → Prop) : Element → Element → Prop where
  | mk {left right : Element} (own : related left right)
      (children : List.Forall₂ (Corresponds related) left.children right.children) :
      Corresponds related left right

namespace Corresponds

variable {related : Element → Element → Prop} {left right : Element}

theorem own (alike : Corresponds related left right) : related left right := by
  cases alike with
  | mk own _ => exact own

/-- The children of elements that correspond do so one by one. -/
theorem children (alike : Corresponds related left right) :
    List.Forall₂ (Corresponds related) left.children right.children := by
  cases alike with
  | mk _ children => exact children

/-- Elements that correspond under a relation correspond under every weaker one. -/
theorem mono {weaker : Element → Element → Prop}
    (implies : ∀ left right, related left right → weaker left right)
    (alike : Corresponds related left right) : Corresponds weaker left right := by
  induction left using children_induction generalizing right with
  | step left inductionHypothesis =>
    -- Children are paired by place, so that the induction can go on from the left one of each pair.
    obtain ⟨lengths, pairs⟩ := List.forall₂_iff_zip.1 alike.children
    refine .mk (implies left right alike.own) (List.forall₂_iff_zip.2 ⟨lengths, ?_⟩)
    intro child child' member
    exact inductionHypothesis child (List.of_mem_zip member).1 (pairs member)

/-- A document corresponds to itself if each of its elements is related to itself. -/
theorem of_forall_everyElement
    (each : ∀ element ∈ left.everyElement, related element element) :
    Corresponds related left left := by
  induction left using children_induction with
  | step element inductionHypothesis =>
    refine .mk (each element (self_mem_everyElement element)) (List.forall₂_same.2 ?_)
    intro child member
    exact inductionHypothesis child member fun inner inside =>
      each inner (mem_everyElement_of_mem_children member inside)

end Corresponds

/-! ## Content -/

section Content

variable {related : Element → Element → Prop} {left right : Element}
  (sameName : ∀ left right, related left right → left.localName? = right.localName?)
include sameName

/-- Elements that correspond have the same tag, if related ones have the same local name. -/
theorem isNamed_of_corresponds (alike : Corresponds related left right) (tag : String) :
    left.isNamed tag = right.isNamed tag := by
  rw [isNamed, isNamed, sameName left right alike.own]

/-- Of elements that correspond both are remarks or none, if related ones have the same local name.
-/
theorem isRemark_of_corresponds (alike : Corresponds related left right) :
    left.isRemark = right.isRemark := by
  rw [isRemark, isRemark, sameName left right alike.own]

/-- The children of corresponding elements that are no remarks correspond. -/
theorem plainChildren_of_corresponds (alike : Corresponds related left right) :
    List.Forall₂ (Corresponds related) left.plainChildren right.plainChildren := by
  refine List.rel_filter (fun child child' both => ?_) alike.children
  simp only [isRemark_of_corresponds sameName both]

/-- Corresponding elements either both have content with a local name, which corresponds, or none of
them has. -/
theorem contentNamed?_of_corresponds (alike : Corresponds related left right) (tag : String) :
    (left.contentNamed? tag = none ∧ right.contentNamed? tag = none) ∨
      ∃ content content', left.contentNamed? tag = some content ∧
        right.contentNamed? tag = some content' ∧ content.isNamed tag = true ∧
          Corresponds related content content' := by
  have plain := plainChildren_of_corresponds sameName alike
  rw [contentNamed?, contentNamed?, content?, content?]
  generalize left.plainChildren = children, right.plainChildren = children' at plain
  cases plain with
  | nil => exact Or.inl ⟨rfl, rfl⟩
  | @cons content content' _ _ first rest =>
    rw [List.head?_cons, List.head?_cons, Option.filter_some, Option.filter_some,
      ← isNamed_of_corresponds sameName first]
    cases named : content.isNamed tag with
    | false => exact Or.inl ⟨rfl, rfl⟩
    | true => exact Or.inr ⟨content, content', rfl, rfl, named, first⟩

end Content

end Element

end SchemaTypes
