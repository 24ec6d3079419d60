import SchemaTypes.Proofs.Pattern.Graph

/-!
# Descent

The parts of a graph are called one inside the other, each call one step further down, and no
reference is followed below its greatest depth. So what holds of a part at a depth, if it holds of
the parts called one step down, holds throughout the graph, even where that leads back to itself.
-/

namespace SchemaTypes.Bindings

open Pattern

variable {bindings : Bindings} {pattern : Pattern}

/-- The references in a graph have a greatest depth in common. -/
theorem exists_limit (bindings : Bindings) (pattern : Pattern) :
    ∃ most : Int, ∀ key name maxDepth, InGraph bindings pattern (.reference key name maxDepth) →
      maxDepth ≤ most := by
  obtain ⟨most, bound⟩ : ∃ most : Int, ∀ limit ∈ bindings.depthLimits pattern, limit ≤ most := by
    generalize bindings.depthLimits pattern = limits
    induction limits with
    | nil => exact ⟨0, by simp⟩
    | cons limit rest inductionHypothesis =>
      obtain ⟨most, bound⟩ := inductionHypothesis
      refine ⟨max limit most, List.forall_mem_cons.2 ⟨by omega, fun other member => ?_⟩⟩
      have := bound other member
      omega
  refine ⟨most, fun key name maxDepth inside => bound maxDepth ?_⟩
  cases inside with
  | own member => exact List.mem_append_left _ (mem_depthLimits_of_mem_parts member)
  | followed reaches bound member =>
    exact List.mem_append_right _ (List.mem_flatMap.2
      ⟨_, mem_targets_of_target? bound, mem_depthLimits_of_mem_parts member⟩)

section Descent

variable {motive : Pattern → Int → Prop}
  (single : ∀ terminal merge depth, InGraph bindings pattern (.single terminal merge) →
    motive (.single terminal merge) depth)
  (link : ∀ terminal merge step next depth,
    InGraph bindings pattern (.link terminal merge step next) → motive next (depth + 1) →
      motive (.link terminal merge step next) depth)
  (oneOf : ∀ name step options depth, InGraph bindings pattern (.oneOf name step options) →
    (∀ option ∈ options, motive option (depth + 1)) → motive (.oneOf name step options) depth)
  (collect : ∀ name options depth, InGraph bindings pattern (.collect name options) →
    (∀ option ∈ options, motive option (depth + 1)) → motive (.collect name options) depth)
  (reference : ∀ key name maxDepth depth,
    InGraph bindings pattern (.reference key name maxDepth) →
      (∀ target, bindings.target? key = some target → depth ≤ maxDepth →
        motive target (depth + 1)) → motive (.reference key name maxDepth) depth)

include single link oneOf collect reference in
/-- Induction along the calls of a graph, as far down as references are followed. -/
theorem descent {part : Pattern} (inside : InGraph bindings pattern part) (depth : Int) :
    motive part depth := by
  obtain ⟨most, limits⟩ := exists_limit bindings pattern
  -- Each reference followed takes some of the depth that is left above the common limit.
  suffices budget : ∀ (left : Nat) (part : Pattern), InGraph bindings pattern part →
      ∀ depth, most < depth + left → motive part depth from
    budget (most + 1 - depth).toNat part inside depth (by omega)
  intro left
  induction left using Nat.strongRecOn with
  | ind left further =>
    intro part
    induction part with
    | single terminal merge => exact fun inside depth _ => single _ _ depth inside
    | link terminal merge step next inductionHypothesis =>
      exact fun inside depth spent =>
        link _ _ _ _ depth inside (inductionHypothesis inside.next (depth + 1) (by omega))
    | oneOf name step options inductionHypothesis =>
      exact fun inside depth spent => oneOf _ _ _ depth inside fun option member =>
        inductionHypothesis option member (inside.option member) (depth + 1) (by omega)
    | collect name options inductionHypothesis =>
      exact fun inside depth spent => collect _ _ depth inside fun option member =>
        inductionHypothesis option member (inside.item member) (depth + 1) (by omega)
    | reference key name maxDepth =>
      intro inside depth spent
      refine reference _ _ _ depth inside fun target bound within => ?_
      have limit := limits key name maxDepth inside
      exact further (left - 1) (by omega) target (inside.of_target? bound) (depth + 1) (by omega)

end Descent

end SchemaTypes.Bindings
