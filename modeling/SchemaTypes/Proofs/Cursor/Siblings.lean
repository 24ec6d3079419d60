import SchemaTypes.Proofs.Element.Content

/-!
# What can be seen from a place

Matchers pass over remarks and collections leave them out, so all that a pattern can see from a
place are the cursors from there on along the siblings that stand on no remark. The elements seen
from the first child of an element are its children without the remarks.
-/

namespace SchemaTypes

namespace Cursor

/-- The cursors from a place on that stand on no remark. -/
def visible (place : Option Cursor) : List Cursor :=
  ((place.map withFollowing).getD []).filter fun cursor => !cursor.element.isRemark

@[simp]
theorem visible_none : visible none = [] := rfl

/-- A cursor and those behind it are the cursor and what follows from its next sibling on. -/
theorem withFollowing_eq (cursor : Cursor) :
    cursor.withFollowing = cursor :: (cursor.next?.map withFollowing).getD [] := by
  obtain ⟨element, ⟨preceding, following⟩, ancestors⟩ := cursor
  cases following <;> rfl

/-- A place shows itself, unless it has a remark, and what its next sibling shows. -/
theorem visible_some (cursor : Cursor) :
    visible (some cursor) =
      if cursor.element.isRemark then visible cursor.next? else cursor :: visible cursor.next? := by
  cases remark : cursor.element.isRemark <;> simp [visible, withFollowing_eq cursor, remark]

/-- Whatever can be seen is no remark. -/
theorem isRemark_of_mem_visible {place : Option Cursor} {cursor : Cursor}
    (seen : cursor ∈ visible place) : cursor.element.isRemark = false := by
  simpa using (List.mem_filter.1 seen).2

/-- Passing over remarks leads to the first cursor that can be seen. -/
theorem bind_skipRemarks? (place : Option Cursor) :
    place.bind skipRemarks? = (visible place).head? := by
  cases place with
  | none => rfl
  | some cursor =>
    obtain ⟨element, ⟨preceding, following⟩, ancestors⟩ := cursor
    simp only [Option.bind_some, skipRemarks?]
    induction following generalizing element preceding with
    | nil =>
      cases remark : element.isRemark <;>
        simp [skipRemarksFrom, visible, withFollowing, siblingsFrom, remark]
    | cons sibling others inductionHypothesis =>
      cases remark : element.isRemark with
      | false => simp [skipRemarksFrom, visible_some, remark]
      | true =>
        rw [visible_some, if_pos remark]
        simp only [skipRemarksFrom, remark, if_true]
        exact inductionHypothesis sibling (element :: preceding)

section Child

variable {parent child : Cursor} {position : Int}

/-- The child at a position: the position counts the children in front of it, and what surrounds it
are the children before and behind. -/
theorem child?_eq_some_iff :
    parent.child? position = some child ↔
      ∃ before element behind, parent.element.children = before ++ element :: behind ∧
        position = before.length ∧ child = ⟨element, ⟨before.reverse, behind⟩,
          (parent.element, parent.around) :: parent.ancestors⟩ := by
  constructor
  · intro found
    unfold child? at found
    split at found
    · cases found
    · next natural =>
      split at found
      · cases found
      · next element behind rest =>
        refine ⟨parent.element.children.take position.toNat, element, behind, ?_, ?_,
          (Option.some.inj found).symm⟩
        · rw [← rest, List.take_append_drop]
        · have shorter := congrArg List.length rest
          rw [List.length_drop, List.length_cons] at shorter
          rw [List.length_take]
          omega
  · rintro ⟨before, element, behind, children, rfl, rfl⟩
    have natural : ¬ (before.length : Int) < 0 := by omega
    simp only [child?, children, natural, if_false, Int.toNat_natCast, List.drop_left,
      List.take_left]

/-- There is no child at a negative position, nor behind the last child. -/
theorem child?_eq_none_iff :
    parent.child? position = none ↔ position < 0 ∨ parent.element.children.length ≤ position := by
  unfold child?
  split
  · next negative => simp [negative]
  · next natural =>
    have behind : parent.element.children.drop position.toNat = [] ↔
        parent.element.children.length ≤ position := by
      rw [List.drop_eq_nil_iff]
      omega
    rw [← behind]
    cases parent.element.children.drop position.toNat <;> simp [natural]

/-- The next sibling of a child is the next child. -/
theorem child?_next? (found : parent.child? position = some child) :
    child.next? = parent.child? (position + 1) := by
  obtain ⟨before, element, behind, children, rfl, rfl⟩ := child?_eq_some_iff.1 found
  cases behind with
  | nil =>
    have last : parent.child? (before.length + 1) = none := by
      rw [child?_eq_none_iff, children, List.length_append, List.length_singleton]
      omega
    rw [last]
    rfl
  | cons sibling others =>
    symm
    refine child?_eq_some_iff.2 ⟨before ++ [element], sibling, others, ?_, ?_, ?_⟩
    · rw [children, List.append_assoc, List.singleton_append]
    · rw [List.length_append, List.length_singleton]
      omega
    · rw [List.reverse_append, List.reverse_singleton, List.singleton_append]

end Child

/-- The elements along the siblings from an element on. -/
theorem map_element_withFollowing (cursor : Cursor) :
    cursor.withFollowing.map (·.element) = cursor.element :: cursor.around.following := by
  obtain ⟨element, ⟨preceding, following⟩, ancestors⟩ := cursor
  simp only [withFollowing]
  induction following generalizing element preceding with
  | nil => rfl
  | cons sibling others inductionHypothesis =>
    simp only [siblingsFrom, List.map_cons, inductionHypothesis]

/-- From the first child on, the elements that can be seen are the children without remarks. -/
theorem map_element_visible_firstChild? (cursor : Cursor) :
    (visible cursor.firstChild?).map (·.element) = cursor.element.plainChildren := by
  have all : ((cursor.firstChild?.map withFollowing).getD []).map (·.element) =
      cursor.element.children := by
    simp only [firstChild?, child?]
    cases children : cursor.element.children with
    | nil => simp
    | cons child others => simp [map_element_withFollowing]
  rw [visible, Element.plainChildren, ← all, List.filter_map]
  rfl

/-- The first cursor that can be seen from the first child stands on the content of an element. -/
theorem map_element_head?_visible_firstChild? (cursor : Cursor) :
    (visible cursor.firstChild?).head?.map (·.element) = cursor.element.content? := by
  rw [Element.content?, ← map_element_visible_firstChild?, List.head?_map]

end Cursor

end SchemaTypes
