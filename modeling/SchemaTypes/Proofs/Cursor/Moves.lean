import SchemaTypes.Proofs.Cursor.Siblings

/-!
# Where moves lead

A cursor takes what is around it along from move to move and never looks anything up again. Still it
cannot lose its place: wherever moves lead from the outermost element of a document, the cursor
either is on that element or stands among the children of a parent that moves lead to as well, at
the position it says. So the moves between a place, its children and its siblings fit together.
-/

namespace SchemaTypes.Cursor

/-- The elements a cursor stands among: the siblings in front, its own, and those behind. -/
def siblings (cursor : Cursor) : List Element :=
  cursor.around.preceding.reverse ++ cursor.element :: cursor.around.following

/-- Where moves lead, one after the other, unless one of them leads out of the document. -/
def follow? (cursor : Cursor) (moves : List Move) : Option Cursor := moves.foldlM move? cursor

theorem follow?_cons (cursor : Cursor) (move : Move) (moves : List Move) :
    cursor.follow? (move :: moves) = (cursor.move? move).bind (·.follow? moves) :=
  List.foldlM_cons

/-- The last of several moves is made where the others lead. -/
theorem follow?_concat (cursor : Cursor) (moves : List Move) (move : Move) :
    cursor.follow? (moves ++ [move]) = (cursor.follow? moves).bind (·.move? move) := by
  rw [follow?, List.foldlM_append]
  simp only [List.foldlM_cons, List.foldlM_nil, bind_pure]
  rfl

/-! ## A child and its parent -/

section Child

variable {parent child : Cursor} {position : Int} (found : parent.child? position = some child)
include found

/-- The parent of a child is where the child was taken from. -/
theorem parent?_of_child? : child.parent? = some parent := by
  obtain ⟨before, element, behind, -, -, rfl⟩ := child?_eq_some_iff.1 found
  rfl

/-- A child says the position it was taken from. -/
theorem index_of_child? : (child.index : Int) = position := by
  obtain ⟨before, element, behind, -, rfl, rfl⟩ := child?_eq_some_iff.1 found
  rw [index, List.length_reverse]

/-- The children of the parent are what a child stands among. -/
theorem siblings_of_child? : child.siblings = parent.element.children := by
  obtain ⟨before, element, behind, children, -, rfl⟩ := child?_eq_some_iff.1 found
  rw [siblings, List.reverse_reverse, children]

end Child

/-- The element of a cursor stands at its position among the siblings. -/
theorem getElem?_siblings_index (cursor : Cursor) :
    cursor.siblings[cursor.index]? = some cursor.element := by
  rw [siblings, index, ← List.length_reverse, List.getElem?_append_right (Nat.le_refl _), Nat.sub_self]
  rfl

/-- The children have the elements of the parent's element, each at its position. -/
theorem map_element_child? (parent : Cursor) (position : Nat) :
    (parent.child? position).map (·.element) = parent.element.children[position]? := by
  cases found : parent.child? position with
  | none =>
    have outside := child?_eq_none_iff.1 found
    rw [List.getElem?_eq_none (by omega)]
    rfl
  | some child =>
    have index := index_of_child? found
    rw [← siblings_of_child? found, ← Int.ofNat_inj.1 index, getElem?_siblings_index]
    rfl

/-- From the first child on, each sibling is the next child. -/
theorem follow?_siblings (parent : Cursor) (count : Nat) :
    parent.follow? (.firstChild :: List.replicate count .nextSibling) = parent.child? count := by
  induction count with
  | zero =>
    rw [List.replicate_zero, follow?_cons]
    exact Option.bind_fun_some _
  | succ count inductionHypothesis =>
    rw [List.replicate_succ', ← List.cons_append, follow?_concat, inductionHypothesis]
    cases found : parent.child? count with
    | none =>
      -- Behind the last child there is nothing, however far one goes.
      have outside := child?_eq_none_iff.1 found
      exact (child?_eq_none_iff.2 (by omega)).symm
    | some child => exact child?_next? found

/-! ## Places in a document -/

/-- The places in a document: the outermost element, and the children of a place. -/
inductive IsIn (document : Element) : Cursor → Prop where
  | root : IsIn document (.root document)
  | child {parent child : Cursor} {position : Int} (inside : IsIn document parent)
      (found : parent.child? position = some child) : IsIn document child

variable {document : Element} {cursor next : Cursor}

/-- A move from a place in a document leads to a place in it. -/
theorem IsIn.move (inside : IsIn document cursor) {move : Move} (moved : cursor.move? move = some next) :
    IsIn document next := by
  cases move with
  | firstChild => exact .child inside (show cursor.child? 0 = some next from moved)
  | child position => exact .child inside (show cursor.child? position = some next from moved)
  | nextSibling =>
    cases inside with
    | root => cases moved
    | child insideParent found => exact .child insideParent ((child?_next? found).symm.trans moved)
  | parent =>
    cases inside with
    | root => cases moved
    | child insideParent found =>
      cases (parent?_of_child? found).symm.trans moved
      exact insideParent

/-- Moves from a place in a document lead to places in it. -/
theorem IsIn.follow {moves : List Move} (inside : IsIn document cursor)
    (reached : cursor.follow? moves = some next) : IsIn document next := by
  induction moves generalizing cursor with
  | nil =>
    cases reached
    exact inside
  | cons move moves inductionHypothesis =>
    rw [follow?_cons] at reached
    obtain ⟨between, moved, further⟩ := Option.bind_eq_some_iff.1 reached
    exact inductionHypothesis (inside.move moved) further

/-- Moves lead from the outermost element to every place in a document. -/
theorem IsIn.exists_moves (inside : IsIn document cursor) :
    ∃ moves, (Cursor.root document).follow? moves = some cursor := by
  induction inside with
  | root => exact ⟨[], rfl⟩
  | @child parent child position inside found inductionHypothesis =>
    obtain ⟨moves, reached⟩ := inductionHypothesis
    refine ⟨moves ++ [.child position], ?_⟩
    rw [follow?_concat, reached]
    exact found

/-- A place in a document is the outermost element, which has neither a parent nor a sibling, or it
has a place for its parent, among whose children it stands. -/
theorem IsIn.root_or_child (inside : IsIn document cursor) :
    cursor = Cursor.root document ∧ cursor.parent? = none ∧ cursor.next? = none ∨
      ∃ parent, IsIn document parent ∧ cursor.parent? = some parent ∧
        parent.element.children = cursor.siblings ∧
        parent.element.children[cursor.index]? = some cursor.element ∧
        parent.child? cursor.index = some cursor := by
  cases inside with
  | root => exact .inl ⟨rfl, rfl, rfl⟩
  | @child parent _ position insideParent found =>
    have among := siblings_of_child? found
    refine .inr ⟨parent, insideParent, parent?_of_child? found, among.symm, ?_, ?_⟩
    · rw [← among, getElem?_siblings_index]
    · rw [index_of_child? found, found]

/-- There is nothing behind a child exactly if it is the last one. -/
theorem next?_eq_none_iff_of_child? {parent child : Cursor} {position : Int}
    (found : parent.child? position = some child) :
    child.next? = none ↔ position + 1 = parent.element.children.length := by
  have present : ¬ (position < 0 ∨ parent.element.children.length ≤ position) := by
    rw [← child?_eq_none_iff, found]
    exact Option.some_ne_none child
  rw [child?_next? found, child?_eq_none_iff]
  omega

/-- Wherever moves lead from the outermost element of a document, the cursor is on that element,
with neither a parent nor a sibling, or it has a parent that moves lead to: the children of the
parent are the siblings it stands among, and its element is at its position there. Its own children
are at the positions from zero up to their number; each has the cursor for its parent and the child
at the next position for its next sibling, the last one none. So the first child and the siblings
behind it are all the children, each once and in order, and then there is nothing. -/
theorem follow?_keeps_place (document : Element) (moves : List Move) (cursor : Cursor)
    (reached : (Cursor.root document).follow? moves = some cursor) :
    (cursor = Cursor.root document ∧ cursor.parent? = none ∧ cursor.next? = none ∨
      ∃ parent way, (Cursor.root document).follow? way = some parent ∧
        cursor.parent? = some parent ∧ parent.element.children = cursor.siblings ∧
        parent.element.children[cursor.index]? = some cursor.element ∧
        parent.child? cursor.index = some cursor) ∧
    (∀ position : Int, cursor.child? position = none ↔
      position < 0 ∨ cursor.element.children.length ≤ position) ∧
    (∀ (position : Int) (child : Cursor), cursor.child? position = some child →
      child.index = position ∧ child.parent? = some cursor ∧
        child.next? = cursor.child? (position + 1) ∧
        (child.next? = none ↔ position + 1 = cursor.element.children.length)) ∧
    ∀ count : Nat,
      cursor.follow? (.firstChild :: List.replicate count .nextSibling) = cursor.child? count ∧
        (cursor.child? count).map (·.element) = cursor.element.children[count]? := by
  refine ⟨?_, fun position => child?_eq_none_iff, fun position child found => ?_, fun count => ?_⟩
  · rcases (IsIn.root.follow reached).root_or_child with outermost | ⟨parent, inside, placed⟩
    · exact .inl outermost
    · obtain ⟨way, leads⟩ := inside.exists_moves
      exact .inr ⟨parent, way, leads, placed⟩
  · exact ⟨index_of_child? found, parent?_of_child? found, child?_next? found,
      next?_eq_none_iff_of_child? found⟩
  · exact ⟨follow?_siblings cursor count, map_element_child? cursor count⟩

/-- A shelf with three books, of which the second has two pages. -/
def shelf : Element :=
  .mk "shelf" [] [.mk "book" [("name", "a")] [],
    .mk "book" [("name", "b")] [.mk "page" [] [], .mk "page" [] []], .mk "book" [("name", "c")] []]

/-- The way to the second book of the shelf by its last page. -/
def aroundShelf : List Move := [.firstChild, .nextSibling, .child 0, .nextSibling, .parent]

theorem follow?_keeps_place_shelf :
    ∃ book, (Cursor.root shelf).follow? aroundShelf = some book ∧
      book.element.get? "name" = some "b" ∧ book.siblings = shelf.children ∧ book.index = 1 ∧
      book.child? (-1) = none ∧ book.child? 2 = none ∧
      ∃ page, book.child? 1 = some page ∧ page.parent? = some book ∧ page.next? = none := by
  obtain ⟨book, reached⟩ : ∃ book, (Cursor.root shelf).follow? aroundShelf = some book := ⟨_, rfl⟩
  obtain ⟨placed, children, child, -⟩ := follow?_keeps_place shelf aroundShelf book reached
  cases reached
  obtain ⟨-, parent, last⟩ := child 1 _ rfl
  refine ⟨_, rfl, rfl, ?_, rfl, (children _).2 (by decide), (children _).2 (by decide), _, rfl, parent,
    last.2.2 rfl⟩
  obtain ⟨-, noParent, -⟩ | ⟨_, _, -, ⟨⟩, among, -⟩ := placed
  · cases noParent
  · exact among.symm

end SchemaTypes.Cursor
