import SchemaTypes.Proofs.Cursor.Remarks
import SchemaTypes.Proofs.Pattern.Descent
import SchemaTypes.Proofs.Pattern.Result

/-!
# Matching ignores remarks

Matching gives the same in a document and in the document without its remarks, provided that
constructors do and that alternatives stay on the element they are tried on. A place and its
counterpart are compared by what can be seen from them, since one of them may stand on a remark
that the other has lost.
-/

namespace SchemaTypes.Pattern

open Cursor

variable {root : Element} {bindings : Bindings} {pattern : Pattern}

/-- Places from which counterparts can be seen, one in a document and one in that without its
remarks. -/
structure Counterparts (root : Element) (place place' : Option Cursor) : Prop where
  stays : ∀ cursor ∈ visible place, Stays root cursor
  seen : (visible place).map withoutRemarks = visible place'

/-- A cursor that stays and its counterpart. -/
theorem counterparts_some {cursor : Cursor} (stays : Stays root cursor) :
    Counterparts root (some cursor) (some cursor.withoutRemarks) := by
  refine ⟨fun sibling seen => stays.of_mem_visible seen, ?_⟩
  cases plain : cursor.element.isRemark with
  | false => exact map_visible_some plain
  | true =>
    -- Of all cursors that stay only the outermost one may stand on a remark.
    cases stays with
    | root =>
      have remark : (Cursor.root root).withoutRemarks.element.isRemark = true :=
        (Element.isRemark_withoutRemarks root).trans plain
      rw [visible_some, visible_some, if_pos plain, if_pos remark]
      rfl
    | child _ _ notRemark => simp [plain] at notRemark

/-- The first children are counterparts, with and without remarks. -/
theorem counterparts_firstChild? {cursor : Cursor} (stays : Stays root cursor) :
    Counterparts root cursor.firstChild? cursor.withoutRemarks.firstChild? :=
  ⟨fun _ seen => stays.of_mem_visible_firstChild? seen, map_visible_firstChild? cursor⟩

/-- Steps from what is seen first lead from counterparts to counterparts. -/
theorem Counterparts.step {place place' : Option Cursor} (alike : Counterparts root place place')
    (step : Step) :
    Counterparts root (step.apply (visible place).head?) (step.apply (visible place').head?) := by
  rw [← alike.seen, List.head?_map]
  cases first : (visible place).head? with
  | none => cases step <;> exact ⟨by simp [Step.apply], rfl⟩
  | some cursor =>
    have stays := alike.stays cursor (List.mem_of_head? first)
    cases step with
    | same => exact counterparts_some stays
    | firstChild => exact counterparts_firstChild? stays

/-- A graph to which remarks make no difference by themselves: alternatives stay on the element they
are tried on, and constructors give the same on a cursor and on its counterpart. -/
structure IgnoresRemarks (root : Element) (bindings : Bindings) (pattern : Pattern) : Prop where
  alternatives : ∀ name step options, bindings.InGraph pattern (.oneOf name step options) →
    step = .same
  constructors : ∀ part terminal, bindings.InGraph pattern part →
    part.terminal? = some terminal → ∀ cursor, Stays root cursor →
      terminal.build cursor.withoutRemarks = terminal.build cursor

/-- At counterparts a terminal gives the same, if its constructor does not see remarks. -/
theorem testResult_of_counterparts {terminal : Terminal} {place place' : Option Cursor}
    (constructors : ∀ cursor, Stays root cursor →
      terminal.build cursor.withoutRemarks = terminal.build cursor)
    (alike : Counterparts root place place') :
    testResult terminal (visible place').head? = testResult terminal (visible place).head? := by
  rw [← alike.seen, List.head?_map]
  cases first : (visible place).head? with
  | none => rfl
  | some cursor =>
    have stays := alike.stays cursor (List.mem_of_head? first)
    have named : cursor.withoutRemarks.element.localName? = cursor.element.localName? :=
      Element.localName?_withoutRemarks cursor.element
    rw [Option.map_some, testResult, testResult, named, constructors cursor stays]

/-- Matching gives the same at counterparts. -/
theorem result_of_counterparts (ignores : IgnoresRemarks root bindings pattern) {part : Pattern}
    (inside : bindings.InGraph pattern part) {place place' : Option Cursor}
    (alike : Counterparts root place place') (depth : Int) :
    result bindings part place' depth = result bindings part place depth := by
  refine Bindings.descent (motive := fun part depth => ∀ place place',
    Counterparts root place place' →
      result bindings part place' depth = result bindings part place depth)
    ?single ?link ?oneOf ?collect ?reference inside depth place place' alike
  case single =>
    intro terminal merge depth inside place place' alike
    rw [result_single, result_single,
      testResult_of_counterparts (ignores.constructors _ terminal inside rfl) alike]
  case link =>
    intro terminal merge step next depth inside continues place place' alike
    rw [result_link, result_link,
      testResult_of_counterparts (ignores.constructors _ terminal inside rfl) alike,
      continues _ _ (alike.step step)]
  case oneOf =>
    intro name step options depth inside each place place' alike
    obtain rfl := ignores.alternatives name step options inside
    rw [result_oneOf, result_oneOf]
    exact firstResult_congr (List.forall₂_same.2 fun option member =>
      each option member place place' alike)
  case collect =>
    intro name options depth inside each place place' alike
    rw [result_collect, result_collect, ← alike.seen]
    rw [eachResult_congr (List.forall₂_map_right_iff.2 (List.forall₂_same.2 fun cursor seen =>
      firstResult_congr (List.forall₂_same.2 fun option member =>
        each option member _ _ (counterparts_some (alike.stays cursor seen)))))]
  case reference =>
    intro key name maxDepth depth inside follows place place' alike
    cases bound : bindings.target? key with
    | none => rw [result_reference_unbound bound, result_reference_unbound bound]
    | some target =>
      rw [result_reference bound, result_reference bound]
      by_cases below : depth > maxDepth
      · rw [if_pos below, if_pos below]
      · rw [if_neg below, if_neg below]
        exact follows target bound (by omega) place place' alike

end SchemaTypes.Pattern
