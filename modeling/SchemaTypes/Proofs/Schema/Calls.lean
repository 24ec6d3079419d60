import SchemaTypes.Proofs.Pattern.Indentation
import SchemaTypes.Proofs.Schema.Parts
import SchemaTypes.Schema.Reading

/-!
# How deep a schema is matched

The grammar of schemas has a single reference, so how deep its calls go is known from two ways down:
the one from the schema to a reference, and the one from the alternatives for a field to the next
reference.
-/

namespace SchemaTypes.Schema

open Pattern

variable (config : Config)

/-- The grammar has no defects. -/
theorem sound_schema : (bindings config).Sound (schema config) where
  bound := by
    intro key name maxDepth inside
    obtain ⟨rfl, -, -⟩ := reference_of_inGraph config inside
    exact ⟨field config, rfl⟩
  builds := by
    intro part terminal inside isTerminal cursor
    exact (builds_of_inGraph config inside isTerminal cursor).1

/-- The longest way down from the schema leads over an extension to a reference. -/
theorem reach_schema : (schema config).reach = 14 := by rfl

/-- The longest way down from the alternatives for a field leads to the next reference. -/
theorem reach_field : (field config).reach = 5 := by rfl

/-- Matching a schema ends, however deep the document is. -/
theorem endsWithin_schema (place : Option Cursor) :
    (bindings config).EndsWithin (schema config) place 0 (max 14 (config.maxDepth + 6)) := by
  have start : (0 : Int) + (schema config).reach ≤ max 14 (config.maxDepth + 6) := by
    rw [reach_schema]
    omega
  have deeper : ∀ key name maxDepth target,
      (bindings config).InGraph (schema config) (.reference key name maxDepth) →
        (bindings config).target? key = some target →
          maxDepth + 1 + target.reach ≤ max 14 (config.maxDepth + 6) := by
    intro key name maxDepth target inside bound
    obtain ⟨-, -, rfl⟩ := reference_of_inGraph config inside
    rw [eq_field_of_target? config bound, reach_field]
    omega
  exact Bindings.endsWithin_of_reach (sound_schema config) start deeper place

/-- No line of the trace is indented further than calls go. -/
theorem indentLevel_le_of_mem_trace (root : Element) :
    ∀ line ∈ trace config root, (indentLevel line.text : Int) ≤ max 14 (config.maxDepth + 6) := by
  obtain ⟨outcome, marks, runs, -, -, within⟩ := endsWithin_schema config (some (.root root))
  intro line member
  rw [trace, runs.traced_eq] at member
  obtain ⟨entry, inTrace, rfl⟩ := List.mem_map.1 member
  have marked : (entry.1, Mark.event entry.2) ∈ marks := by
    simpa using mem_replay_tracing (List.mem_reverse.1 inTrace)
  have names : ∀ key name maxDepth,
      (bindings config).InGraph (schema config) (.reference key name maxDepth) →
        Unpadded name := by
    intro key name maxDepth inside
    obtain ⟨-, rfl, -⟩ := reference_of_inGraph config inside
    exact ⟨'F', "ield Proxy".toList, rfl, by decide⟩
  have unpadded : entry.2.Unpadded := unpadded_of_runs names runs
    (List.forall_mem_singleton.2 (.own (self_mem_parts _))) _ marked entry.2 rfl
  have bound : entry.1 ≤ max 14 (config.maxDepth + 6) := within _ marked
  rw [indentLevel_message unpadded]
  omega

/-- Matching ends. In a graph without defects, where no reference is followed below a depth and no
way down between references is longer than a length, no call is further down than that length from
where matching starts or from where the deepest reference leads to; without references only the
start counts. In a schema no call is below the greater of 14 and six more than the greatest depth,
and no line of the trace is indented further. -/
theorem matching_ends :
    (∀ (bindings : Bindings) (pattern : Pattern), bindings.Sound pattern →
      ∀ (most : Int) (longest : Nat),
        (∀ key name maxDepth, bindings.InGraph pattern (.reference key name maxDepth) →
          maxDepth ≤ most) →
        (∀ part, bindings.InGraph pattern part → part.reach ≤ longest) →
        ∀ place depth,
          bindings.EndsWithin pattern place depth (max depth (most + 1) + longest) ∧
          ((∀ key name maxDepth, ¬ bindings.InGraph pattern (.reference key name maxDepth)) →
            bindings.EndsWithin pattern place depth (depth + longest))) ∧
    ∀ (config : Config) (root : Element),
      (bindings config).EndsWithin (schema config) (some (.root root)) 0
        (max 14 (config.maxDepth + 6)) ∧
      ∀ line ∈ trace config root, (indentLevel line.text : Int) ≤ max 14 (config.maxDepth + 6) := by
  constructor
  · intro bindings pattern sound most longest limits paths place depth
    refine ⟨Bindings.endsWithin_of_longest sound limits paths place depth, fun none => ?_⟩
    have start : depth + pattern.reach ≤ depth + longest := by
      have := paths pattern (.own (self_mem_parts pattern))
      omega
    exact Bindings.endsWithin_of_reach sound start
      (fun key name maxDepth target inside => absurd inside (none key name maxDepth)) place
  · intro config root
    exact ⟨endsWithin_schema config _, indentLevel_le_of_mem_trace config root⟩

/-- Alternatives that lead back to themselves on the same element. -/
def selfReferring : Pattern := anyOf [.reference 0 "Self" 3, element (.plain "note")]

/-- The graph of the alternatives that lead back to themselves. -/
def selfBindings : Bindings := ⟨[(0, selfReferring)]⟩

/-- Even a pattern that refers to itself on the same element comes to an end. -/
theorem matching_ends_selfReferring :
    selfBindings.EndsWithin selfReferring (some (.root (.mk "note" [] []))) 0 6 := by
  have parts : ∀ part, selfBindings.InGraph selfReferring part →
      part = selfReferring ∨ part = .reference 0 "Self" 3 ∨
        part = element (.plain "note") := by
    intro part reaches
    have member : part ∈ selfReferring.parts := by
      cases reaches with
      | own member => exact member
      | followed reaches bound member =>
        have target := Bindings.mem_targets_of_target? bound
        simp only [selfBindings, List.mem_singleton, Prod.mk.injEq] at target
        exact target.2 ▸ member
    simpa [selfReferring, anyOf, element, Pattern.parts, partsOf] using member
  have references : ∀ key name maxDepth,
      selfBindings.InGraph selfReferring (.reference key name maxDepth) →
        key = 0 ∧ maxDepth = 3 := by
    intro key name maxDepth reaches
    have same := parts _ reaches
    simp only [selfReferring, anyOf, element, reduceCtorEq, reference.injEq, or_false, false_or]
      at same
    exact ⟨same.1, same.2.2⟩
  have sound : selfBindings.Sound selfReferring := by
    constructor
    · intro key name maxDepth reaches
      obtain ⟨rfl, -⟩ := references key name maxDepth reaches
      exact ⟨selfReferring, rfl⟩
    · intro part terminal reaches isTerminal cursor
      rcases parts part reaches with rfl | rfl | rfl
      · cases isTerminal
      · cases isTerminal
      · cases isTerminal
        exact ⟨_, rfl⟩
  have limits : ∀ key name maxDepth,
      selfBindings.InGraph selfReferring (.reference key name maxDepth) → maxDepth ≤ 3 := by
    intro key name maxDepth reaches
    exact Int.le_of_eq (references key name maxDepth reaches).2
  have paths : ∀ part, selfBindings.InGraph selfReferring part → part.reach ≤ 2 := by
    intro part reaches
    rcases parts part reaches with rfl | rfl | rfl <;> decide
  exact (matching_ends.1 selfBindings selfReferring sound 3 2 limits paths _ 0).1

end SchemaTypes.Schema
