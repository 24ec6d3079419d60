import SchemaTypes.Proofs.Pattern.Descent
import SchemaTypes.Proofs.Pattern.Run

/-!
# Every match comes to an end

A graph of patterns may lead back to itself, on the same element even, but only through references,
and none is followed below its greatest depth. So there is a run of every pattern, provided that
references are bound and constructors have no defects. How deep its calls go is bounded by the
longest way down between references: from where the run starts, or from where the deepest reference
leads.
-/

namespace SchemaTypes

namespace Pattern

mutual

/-- The length of the longest way down from a pattern, over calls of patterns and terminals, that
does not pass through a reference. -/
def reach : Pattern → Nat
  | single .. => 1
  | link _ _ _ next => next.reach + 1
  | oneOf _ _ options | collect _ options => reachOf options
  | reference .. => 0

/-- The length of the longest way down from above several patterns. -/
def reachOf : List Pattern → Nat
  | [] => 0
  | pattern :: rest => max (pattern.reach + 1) (reachOf rest)

end

/-- The patterns that a task is about. -/
def Task.subjects : Task → List Pattern
  | .pattern subject _ => [subject]
  | .first options .. | .each options _ => options

/-- The length of the longest way down in a task. -/
def Task.reach : Task → Nat
  | .pattern subject _ => subject.reach
  | .first options .. | .each options _ => reachOf options

end Pattern

namespace Bindings

open Pattern

variable {bindings : Bindings} {pattern : Pattern}

/-- A graph without defects: its references are bound, and its constructors never fail. -/
structure Sound (bindings : Bindings) (pattern : Pattern) : Prop where
  bound : ∀ key name maxDepth, InGraph bindings pattern (.reference key name maxDepth) →
    ∃ target, bindings.target? key = some target
  builds : ∀ part terminal, InGraph bindings pattern part → part.terminal? = some terminal →
    ∀ cursor, ∃ own?, terminal.build cursor = .ok own?

/-! ## There is a run -/

/-- A constructor without defects gives a result at every place. -/
theorem exists_testResult {terminal : Terminal}
    (builds : ∀ cursor, ∃ own?, terminal.build cursor = .ok own?) (place : Option Cursor) :
    ∃ own?, testResult terminal place = .ok own? := by
  cases place with
  | none => exact ⟨none, rfl⟩
  | some cursor =>
    rw [testResult]
    split
    · exact builds cursor
    · exact ⟨none, rfl⟩

/-- Trying several patterns ends if every one of them does. -/
theorem exists_runs_first {options : List Pattern} {place : Option Cursor} {depth : Int}
    (runs : ∀ option ∈ options, ∃ outcome marks,
      Runs bindings (.pattern option place) (depth + 1) outcome marks) (count : Nat) :
    ∃ outcome marks, Runs bindings (.first options place count) depth outcome marks := by
  induction options generalizing count with
  | nil => exact ⟨none, [], .exhausted⟩
  | cons option rest inductionHypothesis =>
    obtain ⟨here, later⟩ := List.forall_mem_cons.1 runs
    obtain ⟨outcome, marks, own⟩ := here
    cases outcome with
    | some node => exact ⟨_, _, .found own⟩
    | none =>
      obtain ⟨_, _, others⟩ := inductionHypothesis later (count + 1)
      exact ⟨_, _, .skipped own others⟩

/-- Going through siblings ends if trying the alternatives on each does. -/
theorem exists_runs_each {options : List Pattern} {depth : Int}
    (runs : ∀ cursor, ∃ outcome marks,
      Runs bindings (.first options (some cursor) 0) depth outcome marks) (cursors : List Cursor) :
    ∃ items marks, Runs bindings (.each options cursors) depth (some (collection items)) marks := by
  induction cursors with
  | nil => exact ⟨[], [], .complete⟩
  | cons cursor rest inductionHypothesis =>
    obtain ⟨items, others, later⟩ := inductionHypothesis
    cases remark : cursor.element.isRemark with
    | true => exact ⟨_, _, .remark remark later⟩
    | false =>
      obtain ⟨_, _, here⟩ := runs cursor
      exact ⟨_, _, .item remark here later⟩

/-- In a graph without defects every part has a run, at every place and depth. -/
theorem exists_runs (sound : Sound bindings pattern) {part : Pattern}
    (inside : InGraph bindings pattern part) (place : Option Cursor) (depth : Int) :
    ∃ outcome marks, Runs bindings (.pattern part place) depth outcome marks := by
  refine descent (motive := fun part depth => ∀ place, ∃ outcome marks,
    Runs bindings (.pattern part place) depth outcome marks)
    ?single ?link ?oneOf ?collect ?reference inside depth place
  case single =>
    intro terminal merge depth inside place
    obtain ⟨own?, tests⟩ := exists_testResult (sound.builds _ terminal inside rfl) (here place)
    exact ⟨_, _, .single tests⟩
  case link =>
    intro terminal merge step next depth inside continues place
    obtain ⟨own?, tests⟩ := exists_testResult (sound.builds _ terminal inside rfl) (here place)
    cases own? with
    | none => exact ⟨_, _, .rejected tests⟩
    | some own =>
      obtain ⟨outcome, marks, runs⟩ := continues (step.apply (here place))
      cases outcome with
      | some rest => exact ⟨_, _, .continued tests runs⟩
      | none => exact ⟨_, _, .stuck tests runs⟩
  case oneOf =>
    intro name step options depth inside each place
    obtain ⟨_, _, runs⟩ :=
      exists_runs_first (fun option member => each option member (step.apply place)) 1
    exact ⟨_, _, .oneOf runs⟩
  case collect =>
    intro name options depth inside each place
    obtain ⟨_, _, runs⟩ := exists_runs_each (fun cursor =>
      exists_runs_first (fun option member => each option member (some cursor)) 0)
      ((place.map Cursor.withFollowing).getD [])
    exact ⟨_, _, .collect runs⟩
  case reference =>
    intro key name maxDepth depth inside follows place
    obtain ⟨target, bound⟩ := sound.bound key name maxDepth inside
    by_cases below : depth > maxDepth
    · exact ⟨_, _, .tooDeep bound below⟩
    · have within : depth ≤ maxDepth := by omega
      obtain ⟨_, _, runs⟩ := follows target bound within place
      exact ⟨_, _, .followed bound within runs⟩

/-! ## How deep calls go -/

section Depth

variable {greatest : Int}

/-- The marks of a matcher are at most one level down. -/
theorem depth_le_of_mem_matcherMarks {terminal : Terminal} {place : Option Cursor}
    {own? : Option Node} {depth : Int} (within : depth + 1 ≤ greatest) :
    ∀ mark ∈ matcherMarks terminal place own? depth, mark.1 ≤ greatest := by
  have here : depth ≤ greatest := by omega
  simp [matcherMarks, within, here]

/-- No mark of a run is below a depth that neither the run reaches from where it starts nor a target
from where the deepest reference leads to it. -/
theorem depth_le_of_runs
    (deeper : ∀ key name maxDepth target, InGraph bindings pattern (.reference key name maxDepth) →
      bindings.target? key = some target → maxDepth + 1 + target.reach ≤ greatest)
    {task : Task} {depth : Int} {outcome : Option Node} {marks : Marks}
    (runs : Runs bindings task depth outcome marks)
    (inside : ∀ subject ∈ task.subjects, InGraph bindings pattern subject)
    (within : depth + task.reach ≤ greatest) : ∀ mark ∈ marks, mark.1 ≤ greatest := by
  induction runs with
  | single tests =>
    simp only [Task.reach, reach] at within
    exact depth_le_of_mem_matcherMarks within
  | rejected tests =>
    simp only [Task.reach, reach] at within
    exact depth_le_of_mem_matcherMarks (by omega)
  | continued tests runs inductionHypothesis =>
    simp only [Task.reach, reach, Task.subjects, List.forall_mem_singleton] at *
    have later := inductionHypothesis inside.next (by omega)
    exact List.forall_mem_append.2 ⟨depth_le_of_mem_matcherMarks (by omega), later⟩
  | stuck tests runs inductionHypothesis =>
    simp only [Task.reach, reach, Task.subjects, List.forall_mem_singleton] at *
    have later := inductionHypothesis inside.next (by omega)
    refine List.forall_mem_append.2 ⟨List.forall_mem_append.2 ⟨?_, later⟩, ?_⟩
    · exact depth_le_of_mem_matcherMarks (by omega)
    · exact List.forall_mem_singleton.2 (by omega)
  | oneOf runs inductionHypothesis =>
    simp only [Task.reach, reach, Task.subjects, List.forall_mem_singleton] at *
    have later := inductionHypothesis (fun option member => inside.option member) within
    exact List.forall_mem_cons.2 ⟨by omega, List.forall_mem_cons.2 ⟨by omega, later⟩⟩
  | collect runs inductionHypothesis =>
    simp only [Task.reach, reach, Task.subjects, List.forall_mem_singleton] at *
    have later := inductionHypothesis (fun option member => inside.item member) within
    exact List.forall_mem_cons.2 ⟨by omega, List.forall_mem_cons.2 ⟨by omega, later⟩⟩
  | tooDeep bound below =>
    simp only [Task.reach, reach] at within
    exact List.forall_mem_cons.2 ⟨by omega, List.forall_mem_singleton.2 (by omega)⟩
  | followed bound above runs inductionHypothesis =>
    -- The depth starts anew from the reference, whatever was left of the way down before.
    simp only [Task.reach, reach, Task.subjects, List.forall_mem_singleton] at *
    have reached := deeper _ _ _ _ inside bound
    have later := inductionHypothesis (inside.of_target? bound) (by omega)
    exact List.forall_mem_cons.2 ⟨by omega, later⟩
  | exhausted => simp
  | found runs inductionHypothesis =>
    simp only [Task.reach, reachOf, Task.subjects, List.forall_mem_singleton,
      List.forall_mem_cons] at *
    exact ⟨by omega, inductionHypothesis inside.1 (by omega)⟩
  | skipped runs later inductionHypothesis others =>
    simp only [Task.reach, reachOf, Task.subjects, List.forall_mem_singleton,
      List.forall_mem_cons] at *
    have own := inductionHypothesis inside.1 (by omega)
    exact ⟨by omega, List.forall_mem_append.2 ⟨own, others inside.2 (by omega)⟩⟩
  | complete => simp
  | remark isRemark later inductionHypothesis =>
    simp only [Task.reach, Task.subjects] at *
    exact List.forall_mem_cons.2 ⟨by omega, inductionHypothesis inside within⟩
  | item plain runs later inductionHypothesis others =>
    simp only [Task.reach, Task.subjects] at *
    have own := inductionHypothesis inside within
    exact List.forall_mem_cons.2
      ⟨by omega, List.forall_mem_append.2 ⟨own, others inside within⟩⟩

end Depth

/-! ## Ends -/

/-- Matching a pattern comes to an end: it has one run and no other, that run gives the result
without a fault, and none of its calls and events is below the greatest depth. -/
def EndsWithin (bindings : Bindings) (pattern : Pattern) (place : Option Cursor)
    (depth greatest : Int) : Prop :=
  ∃ outcome marks, Runs bindings (.pattern pattern place) depth outcome marks ∧
    (∀ outcome' marks', Runs bindings (.pattern pattern place) depth outcome' marks' →
      outcome' = outcome ∧ marks' = marks) ∧
    result bindings pattern place depth = .ok outcome ∧ ∀ mark ∈ marks, mark.1 ≤ greatest

/-- In a graph without defects matching comes to an end above every depth that neither a way down
from the pattern reaches nor one from where the deepest reference leads to. -/
theorem endsWithin_of_reach (sound : Sound bindings pattern) {depth greatest : Int}
    (within : depth + pattern.reach ≤ greatest)
    (deeper : ∀ key name maxDepth target, InGraph bindings pattern (.reference key name maxDepth) →
      bindings.target? key = some target → maxDepth + 1 + target.reach ≤ greatest)
    (place : Option Cursor) : EndsWithin bindings pattern place depth greatest := by
  have inside : InGraph bindings pattern pattern := .own (self_mem_parts pattern)
  obtain ⟨outcome, marks, runs⟩ := exists_runs sound inside place depth
  refine ⟨outcome, marks, runs, fun _ _ runs' => runs'.unique runs, runs.result_eq, ?_⟩
  exact depth_le_of_runs deeper runs (List.forall_mem_singleton.2 inside) within

/-- In a graph without defects matching comes to an end: where references are not followed below one
depth and no way down between them is longer than a length, all calls are above that length below
where matching starts or where the deepest reference leads to. -/
theorem endsWithin_of_longest (sound : Sound bindings pattern) {most : Int} {longest : Nat}
    (limits : ∀ key name maxDepth, InGraph bindings pattern (.reference key name maxDepth) →
      maxDepth ≤ most)
    (paths : ∀ part, InGraph bindings pattern part → part.reach ≤ longest)
    (place : Option Cursor) (depth : Int) :
    EndsWithin bindings pattern place depth (max depth (most + 1) + longest) := by
  refine endsWithin_of_reach sound ?_ ?_ place
  · have := paths pattern (.own (self_mem_parts pattern))
    omega
  · intro key name maxDepth target reaches bound
    have := limits key name maxDepth reaches
    have := paths target (reaches.of_target? bound)
    omega

end Bindings

end SchemaTypes
