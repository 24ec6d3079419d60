import SchemaTypes.Cursor

/-!
# Content of elements

Remarks apart, what matters about the inside of an element is the list of its children and, where
one thing is expected, the first of them. The height of an element bounds how far its content
reaches down.
-/

namespace SchemaTypes.Element

/-- Whether an element has a local name. -/
def isNamed (element : Element) (tag : String) : Bool := element.localName? = some tag

theorem isNamed_iff {element : Element} {tag : String} :
    element.isNamed tag = true ↔ element.localName? = some tag :=
  decide_eq_true_iff

/-- An element has one local name only. -/
theorem isNamed_of_ne {element : Element} {tag : String} (other : String)
    (named : element.isNamed tag = true) (different : tag ≠ other) :
    element.isNamed other = false := by
  rw [isNamed, isNamed_iff.1 named]
  simpa using different

/-- Whether an element is a remark is a matter of its local name. -/
theorem isRemark_of_isNamed {element : Element} {tag : String}
    (named : element.isNamed tag = true) :
    element.isRemark = remarkWords.any fun word => Text.occursIn word.toList tag.toList := by
  rw [isRemark, isNamed_iff.1 named]

/-- The local name of an element is a matter of its tag. -/
theorem localName?_mk (tag : String) (attributes : List (String × String))
    (children : List Element) :
    (mk tag attributes children).localName? = (mk tag [] []).localName? :=
  rfl

/-- The children that are no remarks. -/
def plainChildren (element : Element) : List Element :=
  element.children.filter fun child => !child.isRemark

/-- The content of an element: its first child that is no remark. -/
def content? (element : Element) : Option Element := element.plainChildren.head?

/-- The content of an element, if that has a local name. -/
def contentNamed? (element : Element) (tag : String) : Option Element :=
  element.content?.filter (·.isNamed tag)

/-- The plain children are those that are no remarks. -/
theorem mem_plainChildren_iff {child element : Element} :
    child ∈ element.plainChildren ↔ child ∈ element.children ∧ child.isRemark = false := by
  simp [plainChildren]

theorem mem_children_of_mem_plainChildren {child element : Element}
    (member : child ∈ element.plainChildren) : child ∈ element.children :=
  (mem_plainChildren_iff.1 member).1

/-- The content of an element is a plain child. -/
theorem mem_plainChildren_of_contentNamed? {content element : Element} {tag : String}
    (found : element.contentNamed? tag = some content) : content ∈ element.plainChildren :=
  List.mem_of_head? (Option.filter_eq_some_iff.1 found).1

/-- A plain child is smaller than the element. -/
theorem sizeOf_lt_of_mem_plainChildren {child element : Element}
    (member : child ∈ element.plainChildren) : sizeOf child < sizeOf element :=
  sizeOf_lt_of_mem_children (mem_children_of_mem_plainChildren member)

mutual

/-- The number of steps down to the deepest element inside. -/
def height : Element → Nat
  | mk _ _ children => heightOf children

/-- The number of steps down to the deepest element of a list, from above the list. -/
def heightOf : List Element → Nat
  | [] => 0
  | child :: rest => max (child.height + 1) (heightOf rest)

end

/-- A child is lower than the element. -/
theorem height_lt_heightOf {child : Element} {children : List Element}
    (member : child ∈ children) : child.height < heightOf children := by
  induction children with
  | nil => simp at member
  | cons first rest inductionHypothesis =>
    rw [heightOf]
    rcases List.mem_cons.1 member with rfl | later
    · omega
    · have := inductionHypothesis later
      omega

/-- An element is higher than its children. -/
theorem height_lt_of_mem_plainChildren {child element : Element}
    (member : child ∈ element.plainChildren) : child.height < element.height := by
  have inside := mem_children_of_mem_plainChildren member
  cases element with
  | mk tag attributes children => exact height_lt_heightOf inside

end SchemaTypes.Element
