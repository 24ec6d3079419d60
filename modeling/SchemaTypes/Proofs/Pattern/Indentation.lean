import SchemaTypes.Proofs.Pattern.Ending

/-!
# How far the log is indented

Each line of a trace starts with two blanks for each level of depth, so the level can be read off
the line again, as long as what follows does not start with blanks itself. Only the names of
references could: all other lines go on with a fixed word.
-/

namespace SchemaTypes.Pattern

/-- The level a line is indented to: two blanks for each. -/
def indentLevel (line : String) : Nat := (line.toList.takeWhile (· = ' ')).length / 2

/-- Whether a name starts with something that is no blank. -/
def Unpadded (name : String) : Prop := ∃ first rest, name.toList = first :: rest ∧ first ≠ ' '

/-- Whether what an event shows behind the indentation is unpadded. -/
def Event.Unpadded : Event → Prop
  | .matched name .. | .tooDeep name .. => Pattern.Unpadded name
  | _ => True

/-- A line is indented to the depth of its event. The line of an option has one blank more. -/
theorem indentLevel_message {event : Event} (unpadded : event.Unpadded) (depth : Int) :
    indentLevel (event.message depth) = depth.toNat := by
  cases event with
  | matched name tag place kind =>
    obtain ⟨first, rest, split, visible⟩ := unpadded
    simp [indentLevel, Event.message, indentation, split, visible]
  | tooDeep name maxDepth place =>
    obtain ⟨first, rest, split, visible⟩ := unpadded
    simp [indentLevel, Event.message, indentation, split, visible]
  | trying option count =>
    simp only [indentLevel, Event.message, indentation, String.toList_append]
    simp
    omega
  | tested | continuationFailed | choosing | collecting | sibling =>
    simp [indentLevel, Event.message, indentation]

theorem unpadded_matcherName : Unpadded matcherName := ⟨'M', ['A', 'T', 'C', 'H'], rfl, by decide⟩

variable {bindings : Bindings} {pattern : Pattern}

/-- The events of a run are unpadded if the names of all references in its graph are. -/
theorem unpadded_of_runs
    (names : ∀ key name maxDepth, bindings.InGraph pattern (.reference key name maxDepth) →
      Unpadded name)
    {task : Task} {depth : Int} {outcome : Option Node} {marks : Marks}
    (runs : Runs bindings task depth outcome marks)
    (inside : ∀ subject ∈ task.subjects, bindings.InGraph pattern subject) :
    ∀ mark ∈ marks, ∀ event, mark.2 = .event event → event.Unpadded := by
  have own (terminal : Terminal) (place : Option Cursor) (own? : Option Node) (depth : Int) :
      ∀ mark ∈ matcherMarks terminal place own? depth, ∀ event, mark.2 = .event event →
        event.Unpadded := by
    simp [matcherMarks, testEvent, Event.Unpadded, unpadded_matcherName]
  induction runs with
  | single tests => exact own _ _ _ _
  | rejected tests => exact own _ _ _ _
  | continued tests runs inductionHypothesis =>
    have inside := List.forall_mem_singleton.1 inside
    have later := inductionHypothesis (List.forall_mem_singleton.2 inside.next)
    exact List.forall_mem_append.2 ⟨own _ _ _ _, later⟩
  | stuck tests runs inductionHypothesis =>
    have inside := List.forall_mem_singleton.1 inside
    have later := inductionHypothesis (List.forall_mem_singleton.2 inside.next)
    refine List.forall_mem_append.2 ⟨List.forall_mem_append.2 ⟨own _ _ _ _, later⟩, ?_⟩
    simp [Event.Unpadded]
  | oneOf runs inductionHypothesis =>
    have inside := List.forall_mem_singleton.1 inside
    have later := inductionHypothesis fun option member => inside.option member
    simpa [Event.Unpadded] using later
  | collect runs inductionHypothesis =>
    have inside := List.forall_mem_singleton.1 inside
    have later := inductionHypothesis fun option member => inside.item member
    simpa [Event.Unpadded] using later
  | tooDeep bound below =>
    have inside := List.forall_mem_singleton.1 inside
    simpa [Event.Unpadded] using names _ _ _ inside
  | followed bound above runs inductionHypothesis =>
    have inside := List.forall_mem_singleton.1 inside
    have later := inductionHypothesis (List.forall_mem_singleton.2 (inside.of_target? bound))
    simpa using later
  | exhausted => simp
  | found runs inductionHypothesis =>
    obtain ⟨here, others⟩ := List.forall_mem_cons.1 inside
    have later := inductionHypothesis (List.forall_mem_singleton.2 here)
    simpa [Event.Unpadded] using later
  | skipped runs later inductionHypothesis rest =>
    obtain ⟨here, others⟩ := List.forall_mem_cons.1 inside
    have first := inductionHypothesis (List.forall_mem_singleton.2 here)
    refine List.forall_mem_cons.2 ⟨?_, List.forall_mem_append.2 ⟨first, rest others⟩⟩
    simp [Event.Unpadded]
  | complete => simp
  | remark isRemark later inductionHypothesis =>
    refine List.forall_mem_cons.2 ⟨?_, inductionHypothesis inside⟩
    simp [Event.Unpadded]
  | item plain runs later inductionHypothesis rest =>
    have first := inductionHypothesis inside
    refine List.forall_mem_cons.2 ⟨?_, List.forall_mem_append.2 ⟨first, rest inside⟩⟩
    simp [Event.Unpadded]

end SchemaTypes.Pattern
