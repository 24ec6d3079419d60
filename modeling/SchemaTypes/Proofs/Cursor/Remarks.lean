import SchemaTypes.Proofs.Cursor.Siblings

/-!
# Documents without remarks

Leaving out the remarks of a document takes away what they hold as well, and leaves the outermost
element alone. A cursor on an element that stays has a counterpart in the document without remarks,
and what can be seen from its children and siblings are the counterparts of what could be seen
before.
-/

namespace SchemaTypes

namespace Element

mutual

/-- The element with all remarks inside it left out. -/
def withoutRemarks : Element → Element
  | mk tag attributes children => mk tag attributes (leaveOutRemarks children)

/-- The elements that are no remarks, each without the remarks inside it. -/
def leaveOutRemarks : List Element → List Element
  | [] => []
  | element :: rest =>
    if element.isRemark then leaveOutRemarks rest
    else element.withoutRemarks :: leaveOutRemarks rest

end

@[simp]
theorem localName?_withoutRemarks (element : Element) :
    element.withoutRemarks.localName? = element.localName? := by
  cases element
  rfl

@[simp]
theorem isRemark_withoutRemarks (element : Element) :
    element.withoutRemarks.isRemark = element.isRemark := by
  rw [isRemark, isRemark, localName?_withoutRemarks]

@[simp]
theorem get?_withoutRemarks (element : Element) (name : String) :
    element.withoutRemarks.get? name = element.get? name := by
  cases element
  rfl

/-- Remarks are left out among the children. -/
@[simp]
theorem children_withoutRemarks (element : Element) :
    element.withoutRemarks.children = leaveOutRemarks element.children := by
  cases element
  rfl

/-- Remarks are left out by filtering, and then inside what is left. -/
theorem leaveOutRemarks_eq (elements : List Element) :
    leaveOutRemarks elements =
      (elements.filter fun element => !element.isRemark).map withoutRemarks := by
  induction elements with
  | nil => rfl
  | cons element rest inductionHypothesis =>
    rw [leaveOutRemarks]
    cases remark : element.isRemark <;> simp [inductionHypothesis, remark]

end Element

/-- What surrounds an element, without remarks. -/
def Surrounding.withoutRemarks (around : Surrounding) : Surrounding :=
  ⟨Element.leaveOutRemarks around.preceding, Element.leaveOutRemarks around.following⟩

namespace Cursor

open Element

/-- Ancestors with what surrounds them, without remarks. -/
def ancestorsWithoutRemarks (ancestors : List (Element × Surrounding)) :
    List (Element × Surrounding) :=
  ancestors.map fun (element, around) => (element.withoutRemarks, around.withoutRemarks)

/-- The counterpart of a cursor in the document without remarks. -/
def withoutRemarks (cursor : Cursor) : Cursor :=
  ⟨cursor.element.withoutRemarks, cursor.around.withoutRemarks,
    ancestorsWithoutRemarks cursor.ancestors⟩

/-- The cursor on the first of several siblings, behind others. -/
def leading (ancestors : List (Element × Surrounding)) (preceding : List Element) :
    List Element → Option Cursor
  | [] => none
  | sibling :: others => some ⟨sibling, ⟨preceding, others⟩, ancestors⟩

/-- The next sibling is the first that follows. -/
theorem next?_eq (cursor : Cursor) :
    cursor.next? = leading cursor.ancestors (cursor.element :: cursor.around.preceding)
      cursor.around.following := by
  rw [next?]
  cases cursor.around.following <;> rfl

/-- The first child is the first of all children. -/
theorem firstChild?_eq (cursor : Cursor) :
    cursor.firstChild? =
      leading ((cursor.element, cursor.around) :: cursor.ancestors) [] cursor.element.children := by
  simp only [firstChild?, child?]
  cases children : cursor.element.children with
  | nil => simp [leading]
  | cons child others => simp [leading]

/-- Among siblings the counterparts of what can be seen are what can be seen without remarks. -/
theorem map_visible_leading (ancestors : List (Element × Surrounding))
    (preceding siblings : List Element) :
    (visible (leading ancestors preceding siblings)).map withoutRemarks =
      visible (leading (ancestorsWithoutRemarks ancestors) (leaveOutRemarks preceding)
        (leaveOutRemarks siblings)) := by
  induction siblings generalizing preceding with
  | nil => rfl
  | cons sibling others inductionHypothesis =>
    cases remark : sibling.isRemark with
    | true =>
      have hidden : leaveOutRemarks (sibling :: preceding) = leaveOutRemarks preceding := by
        simp [leaveOutRemarks, remark]
      have left : leaveOutRemarks (sibling :: others) = leaveOutRemarks others := by
        simp [leaveOutRemarks, remark]
      rw [leading, visible_some, if_pos remark, next?_eq, inductionHypothesis, hidden, left]
    | false =>
      have kept : leaveOutRemarks (sibling :: preceding) =
          sibling.withoutRemarks :: leaveOutRemarks preceding := by
        simp [leaveOutRemarks, remark]
      have first : leaveOutRemarks (sibling :: others) =
          sibling.withoutRemarks :: leaveOutRemarks others := by
        simp [leaveOutRemarks, remark]
      have plain : ¬ sibling.isRemark = true := by simp [remark]
      have plain' : ¬ sibling.withoutRemarks.isRemark = true := by simp [remark]
      rw [first, leading, leading, visible_some, visible_some, if_neg plain, if_neg plain',
        List.map_cons, next?_eq, next?_eq, inductionHypothesis, kept]
      rfl

/-- From the first child of a counterpart, the counterparts of what could be seen can be seen. -/
theorem map_visible_firstChild? (cursor : Cursor) :
    (visible cursor.firstChild?).map withoutRemarks =
      visible cursor.withoutRemarks.firstChild? := by
  rw [firstChild?_eq, firstChild?_eq, map_visible_leading, withoutRemarks, children_withoutRemarks]
  rfl

/-- From a counterpart, the counterparts of what could be seen can be seen. -/
theorem map_visible_some {cursor : Cursor} (plain : cursor.element.isRemark = false) :
    (visible (some cursor)).map withoutRemarks = visible (some cursor.withoutRemarks) := by
  have same := map_visible_leading cursor.ancestors cursor.around.preceding
    (cursor.element :: cursor.around.following)
  rw [leaveOutRemarks, plain] at same
  exact same

/-! ## Cursors that stay -/

/-- The cursors of a document that have a counterpart: the outermost one, and from one that stays
those on its children that are no remarks. -/
inductive Stays (root : Element) : Cursor → Prop where
  | root : Stays root (.root root)
  | child {parent child : Cursor} {position : Int} (stays : Stays root parent)
      (found : parent.child? position = some child) (plain : child.element.isRemark = false) :
      Stays root child

/-- Siblings of a child are children. -/
theorem exists_child?_of_mem_withFollowing {parent cursor sibling : Cursor} {position : Int}
    (found : parent.child? position = some cursor) (member : sibling ∈ cursor.withFollowing) :
    ∃ other, parent.child? other = some sibling := by
  obtain ⟨element, ⟨preceding, following⟩, ancestors⟩ := cursor
  induction following generalizing element preceding position with
  | nil =>
    rw [List.mem_singleton.1 member]
    exact ⟨position, found⟩
  | cons next others inductionHypothesis =>
    rcases List.mem_cons.1 member with rfl | later
    · exact ⟨position, found⟩
    · exact inductionHypothesis next (element :: preceding) (child?_next? found).symm later

/-- What can be seen from the children of a cursor that stays, stays. -/
theorem Stays.of_mem_visible_firstChild? {root : Element} {parent child : Cursor}
    (stays : Stays root parent) (seen : child ∈ visible parent.firstChild?) : Stays root child := by
  have plain := isRemark_of_mem_visible seen
  cases first : parent.firstChild? with
  | none => simp [first] at seen
  | some cursor =>
    rw [first] at seen
    obtain ⟨position, found⟩ :=
      exists_child?_of_mem_withFollowing first (List.mem_filter.1 seen).1
    exact .child stays found plain

/-- What can be seen from a cursor that stays, stays. -/
theorem Stays.of_mem_visible {root : Element} {cursor sibling : Cursor}
    (stays : Stays root cursor) (seen : sibling ∈ visible (some cursor)) : Stays root sibling := by
  have plain := isRemark_of_mem_visible seen
  have member : sibling ∈ cursor.withFollowing := (List.mem_filter.1 seen).1
  cases stays with
  | root =>
    rw [List.mem_singleton.1 member]
    exact .root
  | child staysParent found _ =>
    obtain ⟨position, found⟩ := exists_child?_of_mem_withFollowing found member
    exact .child staysParent found plain

end Cursor

end SchemaTypes
