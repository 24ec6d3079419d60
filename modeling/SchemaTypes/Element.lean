/-!
# Elements

A document is a tree of elements. An element has a tag, attributes in the order they were written,
and the elements directly inside it; text, comments and instructions leave no trace. A tag in a
namespace is written with the namespace name between braces in front of its local name.
-/

namespace SchemaTypes

/-- An element with everything inside it. -/
inductive Element where
  | mk (tag : String) (attributes : List (String × String)) (children : List Element)
  deriving Inhabited

namespace Element

/-- The tag, with its namespace if it has one. -/
def tag : Element → String
  | mk tag _ _ => tag

/-- The attributes in the order they were written. -/
def attributes : Element → List (String × String)
  | mk _ attributes _ => attributes

/-- The elements directly inside. -/
def children : Element → List Element
  | mk _ _ children => children

/-- The value of an attribute. -/
def get? (element : Element) (name : String) : Option String :=
  element.attributes.lookup name

/-- An element lies deeper than its children. -/
theorem sizeOf_lt_of_mem_children {child element : Element} (member : child ∈ element.children) :
    sizeOf child < sizeOf element := by
  cases element with
  | mk tag attributes children =>
    have smaller := List.sizeOf_lt_of_mem member
    simp only [Element.children] at smaller
    simp only [mk.sizeOf_spec]
    omega

end Element

end SchemaTypes
