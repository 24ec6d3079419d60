import Mathlib.Data.List.Forall2
import SchemaTypes.Proofs.Cursor.Siblings
import SchemaTypes.Proofs.Pattern.Following

/-!
# The result of a match

Without a record, matching is a plain function of the pattern, the place and the depth, and what it
gives is determined form by form. Places only matter through the cursors that can be seen from
them.
-/

namespace SchemaTypes.Pattern

open Cursor

variable {bindings : Bindings}

/-- What a terminal makes of a place. -/
def testResult (terminal : Terminal) : Option Cursor → Except Fault (Option Node)
  | none => .ok none
  | some cursor =>
    if cursor.element.localName? = some terminal.tag then terminal.build cursor else .ok none

/-- What the first of several patterns that matches gives. -/
def firstResult (bindings : Bindings) : List Pattern → Option Cursor → Int →
    Except Fault (Option Node)
  | [], _, _ => .ok none
  | option :: rest, place, depth => do
    match ← result bindings option place depth with
    | some node => return some node
    | none => firstResult bindings rest place depth

/-- What the first of several patterns that matches gives at each of several cursors, in order. -/
def eachResult (bindings : Bindings) (options : List Pattern) (depth : Int) : List Cursor →
    Except Fault (List Node)
  | [] => .ok []
  | cursor :: rest => do
    let item? ← firstResult bindings options (some cursor) depth
    let items ← eachResult bindings options depth rest
    return item?.toList ++ items

section Congruence

variable {bindings' : Bindings} {options options' : List Pattern} {depth depth' : Int}

/-- The first match is the same where the options, one by one, give the same. -/
theorem firstResult_congr {place place' : Option Cursor}
    (same : List.Forall₂ (fun option option' =>
      result bindings' option' place' depth' = result bindings option place depth) options options') :
    firstResult bindings' options' place' depth' = firstResult bindings options place depth := by
  induction same with
  | nil => rfl
  | cons own _ inductionHypothesis => rw [firstResult, firstResult, own, inductionHypothesis]

/-- What is collected is the same where the cursors, one by one, have the same first match. -/
theorem eachResult_congr {cursors cursors' : List Cursor}
    (same : List.Forall₂ (fun cursor cursor' => firstResult bindings' options' (some cursor') depth' =
      firstResult bindings options (some cursor) depth) cursors cursors') :
    eachResult bindings' options' depth' cursors' = eachResult bindings options depth cursors := by
  induction same with
  | nil => rfl
  | cons own _ inductionHypothesis => rw [eachResult, eachResult, own, inductionHypothesis]

end Congruence

/-- A matching that keeps no record does one thing after the other. -/
private theorem run'_bind {α β : Type} (first : Matching Unit α) (second : α → Matching Unit β) :
    (first >>= second).run' () = first.run' () >>= fun value => (second value).run' () := by
  simp only [StateT.run', bind, StateT.bind, Except.bind, Functor.map, Except.map]
  cases first () <;> rfl

/-- A value comes out as it is. -/
private theorem run'_pure {α : Type} (value : α) :
    (pure value : Matching Unit α).run' () = .ok value :=
  rfl

/-- What is noted does not count. -/
private theorem run'_note (depth : Int) (event : Event) :
    (note silent depth event).run' () = .ok () :=
  rfl

/-- Testing a terminal comes to its result. -/
private theorem run'_testTerminal (terminal : Terminal) (place : Option Cursor) (depth : Int) :
    (testTerminal silent terminal place depth).run' () = testResult terminal place := by
  cases place with
  | none => rfl
  | some cursor =>
    by_cases found : cursor.element.localName? = some terminal.tag
    · simp only [testTerminal, found, run'_bind, run'_note, testResult]
      cases terminal.build cursor <;> rfl
    · simp only [testTerminal, found, run'_bind, run'_note, testResult]
      rfl

/-- Trying patterns in order comes to the result of the first that matches, one level down. -/
private theorem run'_firstAt (options : List Pattern) (place : Option Cursor) (depth : Int)
    (count : Nat) :
    (firstAt silent bindings options place depth count).run' () =
      firstResult bindings options place (depth + 1) := by
  induction options generalizing count with
  | nil => rfl
  | cons option rest inductionHypothesis =>
    rw [firstAt_cons]
    simp only [run'_bind, run'_note, firstResult]
    show (result bindings option place (depth + 1) >>= _) = _
    congr 1; funext found
    cases found with
    | some node => rfl
    | none => exact inductionHypothesis (count + 1)

/-- Gathering passes over remarks, so only the cursors without one count. -/
private theorem run'_gather (options : List Pattern) (depth : Int) (cursors : List Cursor) :
    (gather (fun cursor => do
        note silent depth (.sibling (sight (some cursor)))
        if cursor.element.isRemark then return none
        else firstAt silent bindings options (some cursor) depth 0) cursors).run' () =
      eachResult bindings options (depth + 1)
        (cursors.filter fun cursor => !cursor.element.isRemark) := by
  induction cursors with
  | nil => rfl
  | cons cursor rest inductionHypothesis =>
    simp only [gather, run'_bind, run'_note, inductionHypothesis]
    cases remark : cursor.element.isRemark with
    | true =>
      simp only [remark, if_true, Bool.not_true, Bool.false_eq_true, not_false_eq_true,
        List.filter_cons_of_neg]
      show (eachResult bindings options (depth + 1) _ >>= fun items => .ok items) = _
      cases eachResult bindings options (depth + 1) _ <;> rfl
    | false =>
      simp only [remark, Bool.false_eq_true, if_false, Bool.not_false, List.filter_cons_of_pos,
        eachResult]
      show (firstAt silent bindings options (some cursor) depth 0).run' () >>= _ = _
      rw [run'_firstAt]
      rfl

/-- A matcher gives what its terminal does at the first place in sight. -/
theorem result_single (terminal : Terminal) (merge : Merger) (place : Option Cursor) (depth : Int) :
    result bindings (single terminal merge) place depth =
      testResult terminal (visible place).head? := by
  rw [result, matchAt_single]
  simp only [run'_bind, run'_note, run'_testTerminal, run'_pure, bind_skipRemarks?]
  cases testResult terminal (visible place).head? <;> rfl

/-- A matcher with a continuation gives what the two make together, or nothing if either does not
match. -/
theorem result_link (terminal : Terminal) (merge : Merger) (step : Step) (next : Pattern)
    (place : Option Cursor) (depth : Int) :
    result bindings (link terminal merge step next) place depth = do
      match ← testResult terminal (visible place).head? with
      | none => return none
      | some own =>
        match ← result bindings next (step.apply (visible place).head?) (depth + 1) with
        | some rest => return merge own rest
        | none => return none := by
  rw [result, matchAt_link]
  simp only [run'_bind, run'_note, run'_testTerminal, bind_skipRemarks?]
  congr 1; funext own?
  cases own? with
  | none => rfl
  | some own =>
    simp only [run'_bind]
    show result bindings next (step.apply (visible place).head?) (depth + 1) >>= _ = _
    congr 1; funext rest?
    cases rest? <;> rfl

/-- Alternatives give what the first of them does that matches, at the end of the step and one level
down. -/
theorem result_oneOf (name : String) (step : Step) (options : List Pattern)
    (place : Option Cursor) (depth : Int) :
    result bindings (oneOf name step options) place depth =
      firstResult bindings options (step.apply place) (depth + 1) := by
  rw [result, matchAt_oneOf]
  simp only [run'_bind, run'_note, run'_firstAt]
  rfl

/-- A collection gives what each place in sight does, one level down. -/
theorem result_collect (name : String) (options : List Pattern) (place : Option Cursor)
    (depth : Int) :
    result bindings (collect name options) place depth =
      (eachResult bindings options (depth + 1) (visible place)).map fun items =>
        some { kind := Kind.collection, items := some items } := by
  rw [result, matchAt_collect]
  simp only [run'_bind, run'_note, run'_gather]
  show (eachResult bindings options (depth + 1) (visible place) >>= _) = _
  cases eachResult bindings options (depth + 1) (visible place) <;> rfl

/-- A reference that is not bound is a fault. -/
theorem result_reference_unbound {key : Nat} (unbound : bindings.target? key = none)
    (name : String) (maxDepth : Int) (place : Option Cursor) (depth : Int) :
    result bindings (reference key name maxDepth) place depth =
      .error (.unboundReference name) := by
  rw [result, matchAt_reference_unbound unbound]
  rfl

/-- A bound reference gives what its target does one level down, and nothing below its greatest
depth. -/
theorem result_reference {key : Nat} {target : Pattern}
    (bound : bindings.target? key = some target) (name : String) (maxDepth : Int)
    (place : Option Cursor) (depth : Int) :
    result bindings (reference key name maxDepth) place depth =
      if depth > maxDepth then .ok none else result bindings target place (depth + 1) := by
  rw [result, matchAt_reference bound]
  split <;> rfl

end SchemaTypes.Pattern
