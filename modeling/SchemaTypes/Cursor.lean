import SchemaTypes.Element
import SchemaTypes.Text.Quoted
import SchemaTypes.Text.Search
import SchemaTypes.Text.Split

/-!
# Walking through a document

A cursor stands on an element and remembers what is around it: the siblings on both sides and the
same for every ancestor. Moves go to a child, to the next sibling and to the parent. A move that
leads out of the document gives nothing.
-/

namespace SchemaTypes

open SchemaTypes.Text

namespace Element

/-- The tag without its namespace: what follows the closing brace of a namespace name, or the
first colon of a tag that has none. A namespace name that is not closed leaves no local name. -/
def localName? (element : Element) : Option String :=
  match element.tag.toList with
  | '{' :: rest => (cut? '}' rest).map fun (_, after) => String.ofList after
  | tag =>
    match cut? ':' tag with
    | some (_, after) => some (String.ofList after)
    | none => some element.tag

/-- The words that mark the tags of elements written for people. -/
def remarkWords : List String := ["annotation", "documentation"]

/-- Whether an element is a remark for people: one of the words occurs in its local name. -/
def isRemark (element : Element) : Bool :=
  match element.localName? with
  | some name => remarkWords.any fun word => occursIn word.toList name.toList
  | none => false

end Element

/-- What surrounds an element: its siblings in front, nearest first, and behind. -/
structure Surrounding where
  preceding : List Element := []
  following : List Element := []

/-- An element, what surrounds it, and its ancestors with what surrounds them, nearest first. -/
structure Cursor where
  element : Element
  around : Surrounding := {}
  ancestors : List (Element × Surrounding) := []

namespace Cursor

/-- The cursor on the outermost element of a document. -/
def root (element : Element) : Cursor := { element := element }

/-- The position among the siblings, from zero. -/
def index (cursor : Cursor) : Nat := cursor.around.preceding.length

/-- The element's parent. -/
def parent? (cursor : Cursor) : Option Cursor :=
  match cursor.ancestors with
  | [] => none
  | (element, around) :: others => some ⟨element, around, others⟩

/-- The next sibling. -/
def next? (cursor : Cursor) : Option Cursor :=
  match cursor.around.following with
  | [] => none
  | sibling :: others =>
    some ⟨sibling, ⟨cursor.element :: cursor.around.preceding, others⟩, cursor.ancestors⟩

/-- The child at a position, from zero. -/
def child? (cursor : Cursor) (position : Int) : Option Cursor :=
  if position < 0 then none
  else match cursor.element.children.drop position.toNat with
    | [] => none
    | child :: others =>
      let before := cursor.element.children.take position.toNat
      some ⟨child, ⟨before.reverse, others⟩,
        (cursor.element, cursor.around) :: cursor.ancestors⟩

/-- The first child. -/
def firstChild? (cursor : Cursor) : Option Cursor := cursor.child? 0

/-- A move through a document. -/
inductive Move where
  | firstChild
  | nextSibling
  | parent
  | child (position : Int)
  deriving DecidableEq, Repr

/-- Where a move leads. -/
def move? (cursor : Cursor) : Move → Option Cursor
  | .firstChild => cursor.firstChild?
  | .nextSibling => cursor.next?
  | .parent => cursor.parent?
  | .child position => cursor.child? position

/-- The first element from one on that is no remark, among it and its following siblings. -/
def skipRemarksFrom (ancestors : List (Element × Surrounding)) (preceding : List Element)
    (element : Element) : List Element → Option Cursor
  | [] => if element.isRemark then none else some ⟨element, ⟨preceding, []⟩, ancestors⟩
  | sibling :: others =>
    if element.isRemark then skipRemarksFrom ancestors (element :: preceding) sibling others
    else some ⟨element, ⟨preceding, sibling :: others⟩, ancestors⟩

/-- The first element from the cursor on that is no remark, among it and its following siblings. -/
def skipRemarks? (cursor : Cursor) : Option Cursor :=
  skipRemarksFrom cursor.ancestors cursor.around.preceding cursor.element cursor.around.following

/-- The name a cursor goes by in the log. -/
def label (cursor : Cursor) : String :=
  let named := match cursor.element.get? "name" with
    | none | some "" => ""
    | some name => " name=" ++ quoted name
  "<TreeNode " ++ cursor.element.localName?.getD "" ++ named ++ ">"

/-- The cursors from this one on along the following siblings. -/
def siblingsFrom (ancestors : List (Element × Surrounding)) (preceding : List Element)
    (element : Element) : List Element → List Cursor
  | [] => [⟨element, ⟨preceding, []⟩, ancestors⟩]
  | sibling :: others =>
    ⟨element, ⟨preceding, sibling :: others⟩, ancestors⟩
      :: siblingsFrom ancestors (element :: preceding) sibling others

/-- The cursor and the cursors on its following siblings, in order. -/
def withFollowing (cursor : Cursor) : List Cursor :=
  siblingsFrom cursor.ancestors cursor.around.preceding cursor.element cursor.around.following

end Cursor

end SchemaTypes
