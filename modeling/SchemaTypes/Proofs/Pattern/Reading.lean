import Mathlib.Data.List.Forall2
import SchemaTypes.Proofs.Pattern.Result

/-!
# Patterns as functions of elements

Where no constructor looks beyond its element, a pattern amounts to a function of the element it is
matched on, or of the element whose content it is matched on. The functions are put together the way
the patterns are, one rule for each form. They may depend on the depth, since references do.
-/

namespace SchemaTypes.Pattern

open Cursor

/-- A node made of an element, if any. -/
abbrev Reading := Element → Option Node

/-- A reading of the elements with a local name. -/
def onTag (tag : String) (reading : Reading) : Reading := fun element =>
  if element.isNamed tag then reading element else none

/-- The first reading that makes something of an element. -/
def firstOf (readings : List Reading) : Reading := fun element =>
  readings.findSome? fun reading => reading element

theorem firstOf_nil (element : Element) : firstOf [] element = none := rfl

/-- The first of several readings wins where it gives something. -/
theorem firstOf_cons (reading : Reading) (rest : List Reading) (element : Element) :
    firstOf (reading :: rest) element = (reading element).or (firstOf rest element) := by
  simp only [firstOf, List.findSome?_cons]
  cases reading element <;> rfl

theorem firstOf_singleton (reading : Reading) : firstOf [reading] = reading := by
  funext element
  rw [firstOf_cons, firstOf_nil, Option.or_none]

variable {bindings : Bindings} {depth : Int} {pattern : Pattern} {reading : Reading}

/-- A pattern matched at a depth gives what a reading makes of the element, on every cursor but on
remarks. -/
def Reads (bindings : Bindings) (depth : Int) (pattern : Pattern) (reading : Reading) : Prop :=
  ∀ cursor : Cursor, cursor.element.isRemark = false →
    result bindings pattern (some cursor) depth = .ok (reading cursor.element)

/-- A pattern matched at a depth on the first child gives what a reading makes of the parent. -/
def ReadsContent (bindings : Bindings) (depth : Int) (pattern : Pattern) (reading : Reading) :
    Prop :=
  ∀ cursor : Cursor, result bindings pattern cursor.firstChild? depth = .ok (reading cursor.element)

/-- Readings that agree on every element are read alike. -/
theorem Reads.congr {reading' : Reading} (reads : Reads bindings depth pattern reading)
    (same : ∀ element, reading element = reading' element) :
    Reads bindings depth pattern reading' :=
  funext same ▸ reads

/-- Readings of content that agree on every element are read alike. -/
theorem ReadsContent.congr {reading' : Reading}
    (reads : ReadsContent bindings depth pattern reading)
    (same : ∀ element, reading element = reading' element) :
    ReadsContent bindings depth pattern reading' :=
  funext same ▸ reads

/-- A pattern that is matched on the first cursor that can be seen from its place, and on nothing
else. -/
def MatchesFirstVisible (bindings : Bindings) (pattern : Pattern) : Prop :=
  ∀ place depth, result bindings pattern place depth =
    match (visible place).head? with
    | none => .ok none
    | some cursor => result bindings pattern (some cursor) depth

/-- The first place in sight is no remark. -/
theorem isRemark_of_head?_visible {place : Option Cursor} {cursor : Cursor}
    (first : (visible place).head? = some cursor) : cursor.element.isRemark = false :=
  isRemark_of_mem_visible (List.mem_of_head? first)

/-- A place that is no remark is the first in sight from itself. -/
theorem head?_visible_of_not_isRemark {cursor : Cursor} (plain : cursor.element.isRemark = false) :
    (visible (some cursor)).head? = some cursor := by
  rw [visible_some, if_neg (by simp [plain]), List.head?_cons]

/-! ## Matchers -/

section Matchers

/-- A terminal accepts the elements with a tag that a reading makes something of, and builds what
that makes of them. -/
structure Follows (terminal : Terminal) (tag : String) (rule : Reading) : Prop where
  named : terminal.tag = tag
  builds : ∀ cursor, terminal.build cursor = .ok (rule cursor.element)

variable {terminal : Terminal} {tag : String} {rule : Reading} {merge : Merger}

/-- A terminal that follows a rule gives what the rule says of an element with its tag, and nothing
on another. -/
theorem Follows.testResult (follows : Follows terminal tag rule) (cursor : Cursor) :
    testResult terminal (some cursor) = .ok (onTag tag rule cursor.element) := by
  simp only [Pattern.testResult, onTag, Element.isNamed_iff, follows.named, follows.builds]
  split <;> rfl

/-- A matcher whose terminal follows a rule reads what the rule says. -/
theorem reads_single (follows : Follows terminal tag rule) :
    Reads bindings depth (single terminal merge) (onTag tag rule) := by
  intro cursor plain
  rw [result_single, head?_visible_of_not_isRemark plain, follows.testResult]

/-- A matcher with a continuation for the content merges what it makes of an element with what the
continuation makes of the content. -/
theorem reads_link {next : Pattern} {inner : Reading} (follows : Follows terminal tag rule)
    (content : ReadsContent bindings (depth + 1) next inner) :
    Reads bindings depth (link terminal merge .firstChild next)
      (onTag tag fun element =>
        (rule element).bind fun own => (inner element).bind fun rest => merge own rest) := by
  intro cursor plain
  rw [result_link, head?_visible_of_not_isRemark plain, follows.testResult]
  simp only [onTag, Step.apply, Option.bind_some, content cursor]
  cases cursor.element.isNamed tag with
  | false => rfl
  | true =>
    cases rule cursor.element with
    | none => rfl
    | some own => cases inner cursor.element <;> rfl

/-- A matcher looks at the first place in sight only. -/
theorem matchesFirstVisible_single : MatchesFirstVisible bindings (single terminal merge) := by
  intro place depth
  rw [result_single]
  cases first : (visible place).head? with
  | none => rfl
  | some cursor =>
    simp only [result_single, head?_visible_of_not_isRemark (isRemark_of_head?_visible first)]

/-- A matcher with a continuation looks at the first place in sight only. -/
theorem matchesFirstVisible_link {step : Step} {next : Pattern} :
    MatchesFirstVisible bindings (link terminal merge step next) := by
  intro place depth
  rw [result_link]
  cases first : (visible place).head? with
  | none => rfl
  | some cursor =>
    simp only [result_link, head?_visible_of_not_isRemark (isRemark_of_head?_visible first)]

end Matchers

/-- A pattern that reads elements reads the content of elements too. -/
theorem Reads.content (first : MatchesFirstVisible bindings pattern)
    (reads : Reads bindings depth pattern reading) :
    ReadsContent bindings depth pattern fun element => element.content?.bind reading := by
  intro cursor
  show _ = Except.ok (cursor.element.content?.bind reading)
  rw [first, ← map_element_head?_visible_firstChild?]
  cases seen : (visible cursor.firstChild?).head? with
  | none => rfl
  | some child => exact reads child (isRemark_of_head?_visible seen)

/-! ## Alternatives and collections -/

section Options

variable {options : List Pattern} {readings : List Reading} {name : String}

/-- The first of several patterns that matches gives the first of their readings. -/
theorem firstResult_of_reads (reads : List.Forall₂ (Reads bindings depth) options readings)
    {cursor : Cursor} (plain : cursor.element.isRemark = false) :
    firstResult bindings options (some cursor) depth = .ok (firstOf readings cursor.element) := by
  induction reads with
  | nil => rfl
  | @cons option reading options readings own _ inductionHypothesis =>
    rw [firstResult, own cursor plain, firstOf_cons]
    cases reading cursor.element with
    | none => exact inductionHypothesis
    | some node => rfl

/-- Alternatives on the same element read it by the first reading that makes something of it. -/
theorem reads_oneOf (reads : List.Forall₂ (Reads bindings (depth + 1)) options readings) :
    Reads bindings depth (oneOf name .same options) (firstOf readings) := by
  intro cursor plain
  rw [result_oneOf]
  exact firstResult_of_reads reads plain

/-- Alternatives look at the first place in sight only, if each of them does. -/
theorem matchesFirstVisible_oneOf
    (first : ∀ option ∈ options, MatchesFirstVisible bindings option) :
    MatchesFirstVisible bindings (oneOf name .same options) := by
  intro place depth
  simp only [result_oneOf, Step.apply]
  induction options with
  | nil => cases (visible place).head? <;> rfl
  | cons option rest inductionHypothesis =>
    simp only [firstResult]
    rw [first option (by simp),
      inductionHypothesis fun other member => first other (by simp [member])]
    cases (visible place).head? <;> rfl

/-- A collection gathers the first of the readings of each element. -/
theorem eachResult_of_reads (reads : List.Forall₂ (Reads bindings depth) options readings)
    {cursors : List Cursor} (plain : ∀ cursor ∈ cursors, cursor.element.isRemark = false) :
    eachResult bindings options depth cursors =
      .ok ((cursors.map (·.element)).filterMap (firstOf readings)) := by
  induction cursors with
  | nil => rfl
  | cons cursor rest inductionHypothesis =>
    obtain ⟨here, later⟩ := List.forall_mem_cons.1 plain
    rw [eachResult, firstResult_of_reads reads here, inductionHypothesis later, List.map_cons,
      List.filterMap_cons]
    cases firstOf readings cursor.element <;> rfl

/-- A collection of the content reads every child that is no remark. -/
theorem readsContent_collect (reads : List.Forall₂ (Reads bindings (depth + 1)) options readings) :
    ReadsContent bindings depth (collect name options) fun element =>
      some { kind := Kind.collection
             items := some (element.plainChildren.filterMap (firstOf readings)) } := by
  intro cursor
  rw [result_collect, eachResult_of_reads reads fun child seen => isRemark_of_mem_visible seen,
    map_element_visible_firstChild?]
  rfl

/-- A bound reference reads nothing below its greatest depth and what its target reads elsewhere. -/
theorem reads_reference {key : Nat} {target : Pattern} {maxDepth : Int}
    (bound : bindings.target? key = some target)
    (reads : depth ≤ maxDepth → Reads bindings (depth + 1) target reading) :
    Reads bindings depth (reference key name maxDepth) fun element =>
      if depth > maxDepth then none else reading element := by
  intro cursor plain
  rw [result_reference bound]
  split
  · rfl
  · exact reads (by omega) cursor plain

end Options

end SchemaTypes.Pattern
