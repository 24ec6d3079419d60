import SchemaTypes.Proofs.Pattern.Graph
import SchemaTypes.Proofs.Pattern.Result

/-!
# Runs

A run is a finite account of matching: what is called, one call inside the other, what each call
comes to, and what is recorded on the way. The rules have no bound on how references are followed,
so that there is a run says that matching comes to an end by itself. Matching does what a run says,
whatever is recorded.
-/

namespace SchemaTypes.Pattern

/-- What a run is marked with: a call of a pattern or a terminal, or an event. -/
inductive Mark where
  | call
  | event (event : Event)

/-- Marks with their depths, in order. -/
abbrev Marks := List (Int × Mark)

/-- What a run carries out: a pattern at a place, the first of several patterns at a place, counted
from a number on, or a collection from several cursors. -/
inductive Task where
  | pattern (pattern : Pattern) (place : Option Cursor)
  | first (options : List Pattern) (place : Option Cursor) (count : Nat)
  | each (options : List Pattern) (cursors : List Cursor)

/-- The node of a collection. -/
def collection (items : List Node) : Node := { kind := Kind.collection, items := some items }

/-- The place a matcher looks at. -/
def here (place : Option Cursor) : Option Cursor := place.bind Cursor.skipRemarks?

/-- The event of a terminal that looks at a place. -/
def testEvent (terminal : Terminal) (place : Option Cursor) : Event :=
  .tested terminal.name (sight place) (sight place = some terminal.tag)

/-- The marks of a matcher's own part: its call and that of its terminal, and an event for each. -/
def matcherMarks (terminal : Terminal) (place : Option Cursor) (own? : Option Node) (depth : Int) :
    Marks :=
  [(depth, .call), (depth + 1, .call), (depth + 1, .event (testEvent terminal place)),
   (depth, .event (.matched matcherName terminal.tag (sight place) (own?.map (·.kind))))]

/-- The runs of a task at a depth, with what they come to and their marks. -/
inductive Runs (bindings : Bindings) : Task → Int → Option Node → Marks → Prop where
  | single {terminal merge place depth own?} (tests : testResult terminal (here place) = .ok own?) :
      Runs bindings (.pattern (.single terminal merge) place) depth own?
        (matcherMarks terminal (here place) own? depth)
  /-- The element is rejected, and the continuation is not called. -/
  | rejected {terminal merge step next place depth}
      (tests : testResult terminal (here place) = .ok none) :
      Runs bindings (.pattern (.link terminal merge step next) place) depth none
        (matcherMarks terminal (here place) none depth)
  /-- The continuation matches, and the merger has the last word. -/
  | continued {terminal merge step next place depth own rest marks}
      (tests : testResult terminal (here place) = .ok (some own))
      (runs : Runs bindings (.pattern next (step.apply (here place))) (depth + 1) (some rest)
        marks) :
      Runs bindings (.pattern (.link terminal merge step next) place) depth (merge own rest)
        (matcherMarks terminal (here place) (some own) depth ++ marks)
  /-- The continuation does not match. -/
  | stuck {terminal merge step next place depth own marks}
      (tests : testResult terminal (here place) = .ok (some own))
      (runs : Runs bindings (.pattern next (step.apply (here place))) (depth + 1) none marks) :
      Runs bindings (.pattern (.link terminal merge step next) place) depth none
        (matcherMarks terminal (here place) (some own) depth ++ marks ++
          [(depth, .event (.continuationFailed matcherName terminal.name))])
  | oneOf {name step options place depth outcome marks}
      (runs : Runs bindings (.first options (step.apply place) 1) depth outcome marks) :
      Runs bindings (.pattern (.oneOf name step options) place) depth outcome
        ((depth, .call) ::
          (depth, .event (.choosing (options.map Pattern.name) (sight place)
            (sight (step.apply place)))) :: marks)
  | collect {name options place depth outcome marks}
      (runs : Runs bindings (.each options ((place.map Cursor.withFollowing).getD [])) depth outcome
        marks) :
      Runs bindings (.pattern (.collect name options) place) depth outcome
        ((depth, .call) ::
          (depth, .event (.collecting (options.map Pattern.name) (sight place))) :: marks)
  /-- The reference is too deep, and its target is not called. -/
  | tooDeep {key name maxDepth place depth target} (bound : bindings.target? key = some target)
      (below : depth > maxDepth) :
      Runs bindings (.pattern (.reference key name maxDepth) place) depth none
        [(depth, .call), (depth, .event (.tooDeep name maxDepth (sight place)))]
  | followed {key name maxDepth place depth target outcome marks}
      (bound : bindings.target? key = some target) (within : depth ≤ maxDepth)
      (runs : Runs bindings (.pattern target place) (depth + 1) outcome marks) :
      Runs bindings (.pattern (.reference key name maxDepth) place) depth outcome
        ((depth, .call) :: marks)
  /-- No option is left. -/
  | exhausted {place count depth} : Runs bindings (.first [] place count) depth none []
  | found {option rest place count depth node marks}
      (runs : Runs bindings (.pattern option place) (depth + 1) (some node) marks) :
      Runs bindings (.first (option :: rest) place count) depth (some node)
        ((depth, .event (.trying option count)) :: marks)
  | skipped {option rest place count depth outcome marks others}
      (runs : Runs bindings (.pattern option place) (depth + 1) none marks)
      (later : Runs bindings (.first rest place (count + 1)) depth outcome others) :
      Runs bindings (.first (option :: rest) place count) depth outcome
        ((depth, .event (.trying option count)) :: (marks ++ others))
  /-- No sibling is left. -/
  | complete {options depth} : Runs bindings (.each options []) depth (some (collection [])) []
  | remark {options cursor rest depth items marks} (isRemark : cursor.element.isRemark = true)
      (later : Runs bindings (.each options rest) depth (some (collection items)) marks) :
      Runs bindings (.each options (cursor :: rest)) depth (some (collection items))
        ((depth, .event (.sibling (sight (some cursor)))) :: marks)
  | item {options cursor rest depth item? items marks others}
      (plain : cursor.element.isRemark = false)
      (runs : Runs bindings (.first options (some cursor) 0) depth item? marks)
      (later : Runs bindings (.each options rest) depth (some (collection items)) others) :
      Runs bindings (.each options (cursor :: rest)) depth
        (some (collection (item?.toList ++ items)))
        ((depth, .event (.sibling (sight (some cursor)))) :: (marks ++ others))

theorem collection_injective {items others : List Node}
    (same : collection items = collection others) : items = others := by
  rw [collection, collection, Node.mk.injEq] at same
  exact Option.some.inj same.2.2.2.2.2.2.2.2.2.2.2.2

/-- A task has no more than one run at a depth. -/
theorem Runs.unique {bindings : Bindings} {task : Task} {depth : Int}
    {outcome outcome' : Option Node} {marks marks' : Marks}
    (runs : Runs bindings task depth outcome marks)
    (runs' : Runs bindings task depth outcome' marks') : outcome = outcome' ∧ marks = marks' := by
  induction runs generalizing outcome' marks' with
  | single tests =>
    cases runs' with
    | single tests' =>
      cases tests.symm.trans tests'
      exact ⟨rfl, rfl⟩
  | rejected tests =>
    cases runs' with
    | rejected => exact ⟨rfl, rfl⟩
    | continued tests' | stuck tests' => cases tests.symm.trans tests'
  | continued tests _ inductionHypothesis =>
    cases runs' with
    | rejected tests' => cases tests.symm.trans tests'
    | continued tests' runs' =>
      cases tests.symm.trans tests'
      obtain ⟨same, rfl⟩ := inductionHypothesis runs'
      cases same
      exact ⟨rfl, rfl⟩
    | stuck tests' runs' =>
      cases tests.symm.trans tests'
      cases (inductionHypothesis runs').1
  | stuck tests _ inductionHypothesis =>
    cases runs' with
    | rejected tests' => cases tests.symm.trans tests'
    | continued tests' runs' =>
      cases tests.symm.trans tests'
      cases (inductionHypothesis runs').1
    | stuck tests' runs' =>
      cases tests.symm.trans tests'
      obtain ⟨-, rfl⟩ := inductionHypothesis runs'
      exact ⟨rfl, rfl⟩
  | oneOf _ inductionHypothesis =>
    cases runs' with
    | oneOf runs' =>
      obtain ⟨rfl, rfl⟩ := inductionHypothesis runs'
      exact ⟨rfl, rfl⟩
  | collect _ inductionHypothesis =>
    cases runs' with
    | collect runs' =>
      obtain ⟨rfl, rfl⟩ := inductionHypothesis runs'
      exact ⟨rfl, rfl⟩
  | tooDeep bound below =>
    cases runs' with
    | tooDeep => exact ⟨rfl, rfl⟩
    | followed bound' within => omega
  | followed bound within _ inductionHypothesis =>
    cases runs' with
    | tooDeep bound' below => omega
    | followed bound' within' runs' =>
      cases bound.symm.trans bound'
      obtain ⟨rfl, rfl⟩ := inductionHypothesis runs'
      exact ⟨rfl, rfl⟩
  | exhausted =>
    cases runs'
    exact ⟨rfl, rfl⟩
  | found _ inductionHypothesis =>
    cases runs' with
    | found runs' =>
      obtain ⟨same, rfl⟩ := inductionHypothesis runs'
      exact ⟨same, rfl⟩
    | skipped runs' => cases (inductionHypothesis runs').1
  | skipped _ _ inductionHypothesis others =>
    cases runs' with
    | found runs' => cases (inductionHypothesis runs').1
    | skipped runs' later' =>
      obtain ⟨-, rfl⟩ := inductionHypothesis runs'
      obtain ⟨rfl, rfl⟩ := others later'
      exact ⟨rfl, rfl⟩
  | complete =>
    cases runs'
    exact ⟨rfl, rfl⟩
  | remark isRemark _ inductionHypothesis =>
    cases runs' with
    | remark isRemark' later' =>
      obtain ⟨same, rfl⟩ := inductionHypothesis later'
      exact ⟨same, rfl⟩
    | item plain => simp [isRemark] at plain
  | item plain _ _ inductionHypothesis others =>
    cases runs' with
    | remark isRemark => simp [plain] at isRemark
    | item plain' runs' later' =>
      obtain ⟨rfl, rfl⟩ := inductionHypothesis runs'
      obtain ⟨same, rfl⟩ := others later'
      rw [collection_injective (Option.some.inj same)]
      exact ⟨rfl, rfl⟩

/-! ## Matching does what runs say -/

variable {σ : Type} {record : Recorder σ} {bindings : Bindings}

/-- Records the events among marks. -/
def replay (record : Recorder σ) (marks : Marks) (state : σ) : σ :=
  marks.foldl (fun state mark =>
    match mark.2 with
    | .call => state
    | .event event => record mark.1 event state) state

/-- Matching without faults, which gives a value and records the events among marks. -/
def Performs {α : Type} (record : Recorder σ) (matching : Matching σ α) (value : α)
    (marks : Marks) : Prop :=
  ∀ state, matching.run state = .ok (value, replay record marks state)

section Performs

variable {α β : Type} {value : α}

theorem performs_pure : Performs record (pure value) value [] := fun _ => rfl

/-- A note leaves its mark. -/
theorem performs_note (depth : Int) (event : Event) :
    Performs record (note record depth event) () [(depth, .event event)] :=
  fun _ => rfl

/-- One thing after the other leaves the marks of both. -/
theorem Performs.bind {matching : Matching σ α} {next : α → Matching σ β} {result : β}
    {marks others : Marks} (performs : Performs record matching value marks)
    (later : Performs record (next value) result others) :
    Performs record (matching >>= next) result (marks ++ others) := by
  intro state
  have same : replay record (marks ++ others) state =
      replay record others (replay record marks state) := List.foldl_append
  rw [StateT.run_bind, performs state, same]
  exact later (replay record marks state)

/-- What only passes a value on leaves no marks. -/
theorem Performs.andThen {matching : Matching σ α} {next : α → Matching σ β} {result : β}
    {marks : Marks} (performs : Performs record matching value marks)
    (later : next value = pure result) : Performs record (matching >>= next) result marks := by
  have both : Performs record (matching >>= next) result (marks ++ []) :=
    performs.bind (later ▸ performs_pure)
  rwa [List.append_nil] at both

/-- A call is not recorded. -/
theorem Performs.call {matching : Matching σ α} {marks : Marks} (depth : Int)
    (performs : Performs record matching value marks) :
    Performs record matching value ((depth, .call) :: marks) :=
  performs

end Performs

/-- Testing a terminal comes to its result and leaves the mark of the test. -/
theorem performs_testTerminal {terminal : Terminal} {place : Option Cursor} {own? : Option Node}
    (tests : testResult terminal place = .ok own?) (depth : Int) :
    Performs record (testTerminal record terminal place depth) own?
      [(depth, .event (testEvent terminal place))] := by
  cases place with
  | none =>
    cases tests
    exact fun _ => rfl
  | some cursor =>
    refine (performs_note depth (testEvent terminal (some cursor))).bind ?_
    by_cases named : cursor.element.localName? = some terminal.tag
    · rw [testResult, if_pos named] at tests
      simp only [named, if_true, tests]
      exact fun _ => rfl
    · rw [testResult, if_neg named] at tests
      cases tests
      simp only [named, if_false]
      exact performs_pure

/-- What a collection makes of one sibling. -/
def visitAt (record : Recorder σ) (bindings : Bindings) (options : List Pattern) (depth : Int)
    (cursor : Cursor) : Matching σ (Option Node) := do
  note record depth (.sibling (sight (some cursor)))
  if cursor.element.isRemark then return none
  else firstAt record bindings options (some cursor) depth 0

/-- What a task asks of matching. -/
def Task.matching (record : Recorder σ) (bindings : Bindings) (depth : Int) :
    Task → Matching σ (Option Node)
  | .pattern subject place => matchAt record bindings subject place depth
  | .first options place count => firstAt record bindings options place depth count
  | .each options cursors => do
    let items ← gather (visitAt record bindings options depth) cursors
    return some (collection items)

/-- The own part of a matcher leaves the marks of a matcher. -/
theorem performs_matcher {terminal : Terminal} {place : Option Cursor} {own? : Option Node}
    {depth : Int} {next : Option Node → Matching σ (Option Node)} {outcome : Option Node}
    {marks : Marks} (tests : testResult terminal place = .ok own?)
    (later : Performs record (next own?) outcome marks) :
    Performs record (do
      let own? ← testTerminal record terminal place (depth + 1)
      note record depth (.matched matcherName terminal.tag (sight place) (own?.map (·.kind)))
      next own?) outcome (matcherMarks terminal place own? depth ++ marks) :=
  (((performs_testTerminal tests (depth + 1)).bind
    ((performs_note depth _).bind later)).call (depth + 1)).call depth

/-- What a collection comes to tells what was gathered. -/
theorem performs_gather {matching : Matching σ (List Node)} {items : List Node} {marks : Marks}
    (performs : Performs record (do return some (collection (← matching)))
      (some (collection items)) marks) : Performs record matching items marks := by
  intro state
  have given := performs state
  rw [StateT.run_bind] at given
  cases run : matching.run state with
  | error fault =>
    rw [run] at given
    cases given
  | ok found =>
    obtain ⟨others, final⟩ := found
    rw [run] at given
    cases given
    rfl

/-- Gathering from one cursor more puts what it gives in front. -/
theorem performs_gather_cons {visit : Cursor → Matching σ (Option Node)} {cursor : Cursor}
    {rest : List Cursor} {item? : Option Node} {items : List Node} {marks others : Marks}
    (performs : Performs record (visit cursor) item? marks)
    (later : Performs record (gather visit rest) items others) :
    Performs record (do return some (collection (← gather visit (cursor :: rest))))
      (some (collection (item?.toList ++ items))) (marks ++ others) := by
  have gathered : Performs record (gather visit (cursor :: rest)) (item?.toList ++ items)
      (marks ++ others) := by
    refine performs.bind (later.andThen ?_)
    rfl
  refine gathered.andThen ?_
  rfl

/-- Matching does what a run says, whatever is recorded. -/
theorem Runs.performs {task : Task} {depth : Int} {outcome : Option Node} {marks : Marks}
    (runs : Runs bindings task depth outcome marks) :
    Performs record (task.matching record bindings depth) outcome marks := by
  induction runs with
  | single tests =>
    rw [Task.matching, matchAt_single]
    exact performs_matcher tests performs_pure
  | rejected tests =>
    rw [Task.matching, matchAt_link]
    exact performs_matcher tests performs_pure
  | continued tests _ inductionHypothesis =>
    rw [Task.matching, matchAt_link]
    exact performs_matcher tests (inductionHypothesis.andThen rfl)
  | stuck tests _ inductionHypothesis =>
    rw [Task.matching, matchAt_link, List.append_assoc]
    exact performs_matcher tests (inductionHypothesis.bind ((performs_note _ _).bind performs_pure))
  | oneOf _ inductionHypothesis =>
    rw [Task.matching, matchAt_oneOf]
    exact ((performs_note _ _).bind inductionHypothesis).call _
  | collect _ inductionHypothesis =>
    rw [Task.matching, matchAt_collect]
    exact ((performs_note _ _).bind inductionHypothesis).call _
  | tooDeep bound below =>
    rw [Task.matching, matchAt_reference bound, if_pos below]
    refine ((performs_note _ _).andThen ?_).call _
    rfl
  | followed bound within _ inductionHypothesis =>
    rw [Task.matching, matchAt_reference bound, if_neg (by omega)]
    exact inductionHypothesis.call _
  | exhausted => exact fun _ => rfl
  | found _ inductionHypothesis =>
    rw [Task.matching, firstAt_cons]
    exact (performs_note _ _).bind (inductionHypothesis.andThen rfl)
  | skipped _ _ inductionHypothesis later =>
    rw [Task.matching, firstAt_cons]
    exact (performs_note _ _).bind (inductionHypothesis.bind later)
  | complete => exact fun _ => rfl
  | @remark options cursor _ depth _ _ isRemark _ inductionHypothesis =>
    have passes : Performs record (visitAt record bindings options depth cursor) none
        [(depth, .event (.sibling (sight (some cursor))))] := by
      refine (performs_note _ _).andThen ?_
      rw [if_pos isRemark]
    exact performs_gather_cons passes (performs_gather inductionHypothesis)
  | item plain _ _ inductionHypothesis later =>
    refine performs_gather_cons ((performs_note _ _).bind ?_) (performs_gather later)
    rw [if_neg (by simp [plain])]
    exact inductionHypothesis

section Outcome

variable {pattern : Pattern} {place : Option Cursor} {depth : Int} {outcome : Option Node}
  {marks : Marks}

/-- What a run comes to is the result. -/
theorem Runs.result_eq (runs : Runs bindings (.pattern pattern place) depth outcome marks) :
    result bindings pattern place depth = .ok outcome := by
  have performs : (matchAt silent bindings pattern place depth).run () = .ok (outcome, ()) :=
    runs.performs ()
  rw [result, StateT.run'_eq, performs]
  rfl

/-- The events among the marks of a run are the trace. -/
theorem Runs.traced_eq (runs : Runs bindings (.pattern pattern place) depth outcome marks) :
    traced bindings pattern place depth = .ok (outcome, replay tracing marks []) :=
  runs.performs []

/-- Whatever is replayed into a trace was marked or in the trace before. -/
theorem mem_replay_tracing {entry : Int × Event} {trace : Trace}
    (member : entry ∈ replay tracing marks trace) :
    (entry.1, .event entry.2) ∈ marks ∨ entry ∈ trace := by
  induction marks generalizing trace with
  | nil => exact Or.inr member
  | cons mark rest inductionHypothesis =>
    obtain ⟨level, content⟩ := mark
    rcases inductionHypothesis member with later | before
    · exact Or.inl (List.mem_cons_of_mem _ later)
    · cases content with
      | call => exact Or.inr before
      | event event =>
        rcases List.mem_cons.1 before with rfl | before
        · exact Or.inl (by simp)
        · exact Or.inr before

end Outcome

end SchemaTypes.Pattern
