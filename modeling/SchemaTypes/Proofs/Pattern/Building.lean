import SchemaTypes.Proofs.Pattern.Graph

/-!
# Histories of building

A production is built by calls that add a continuation to a chain. Whoever builds holds the first
link only, so a call goes along the chain and changes the link at its end, or is refused there. What
many calls leave is the chain there was, with a link for each call that was not refused behind it,
at the end of its own step. Refused are exactly the calls behind something that is no matcher, and
they leave nothing behind.
-/

namespace SchemaTypes.Pattern

/-- Whether a pattern is a matcher, with or without a continuation. -/
def isMatcher : Pattern → Bool
  | single .. | link .. => true
  | oneOf .. | collect .. | reference .. => false

/-- The pattern by itself, without what comes behind it. -/
def own : Pattern → Pattern
  | link terminal merge _ _ => single terminal merge
  | pattern => pattern

/-- The steps of a chain, each from a link to the one behind it. -/
def steps : Pattern → List Step
  | link _ _ step next => step :: next.steps
  | _ => []

/-- The last link of a chain. -/
def last : Pattern → Pattern
  | link _ _ _ next => next.last
  | pattern => pattern

/-- Adds a continuation in place: the link at the end of the chain is changed if it can be followed.
Gives the refusal, if there is one, and the chain as it is afterwards. -/
def append (step : Step) (continuation : Pattern) : Pattern → Option ChainError × Pattern
  | single terminal merge => (none, link terminal merge step continuation)
  | link terminal merge between next =>
    let (refusal?, changed) := append step continuation next
    (refusal?, link terminal merge between changed)
  | last => (some ⟨last.form, last.name, continuation.name⟩, last)

/-- What a call comes to that adds its continuation to a pattern in place. -/
def call (pattern : Pattern) (builder : Builder) : Option ChainError × Pattern :=
  append builder.continuation.step (builder.continuation.pattern pattern) pattern

/-- What calls, one after the other, leave of a pattern. -/
def afterCalls (pattern : Pattern) : List Builder → Pattern
  | [] => pattern
  | builder :: rest => (pattern.call builder).2.afterCalls rest

/-- The calls that are not refused, each at its turn. -/
def accepted (pattern : Pattern) : List Builder → List Builder
  | [] => []
  | builder :: rest =>
    match pattern.call builder with
    | (none, longer) => builder :: longer.accepted rest
    | (some _, unchanged) => unchanged.accepted rest

/-! ## One call -/

section Call

variable {pattern : Pattern} {step : Step} {continuation : Pattern}

/-- The last link is the last pattern of the chain. -/
theorem getLast?_chain (pattern : Pattern) : pattern.chain.getLast? = some pattern.last := by
  induction pattern with
  | single | oneOf | collect | reference => rfl
  | link terminal merge step next inductionHypothesis =>
    rw [chain, List.getLast?_cons, inductionHypothesis]
    rfl

/-- There is one step less than there are links. -/
theorem length_chain (pattern : Pattern) : pattern.chain.length = pattern.steps.length + 1 := by
  induction pattern with
  | single | oneOf | collect | reference => rfl
  | link terminal merge step next inductionHypothesis =>
    rw [chain, steps, List.length_cons, List.length_cons, inductionHypothesis]

/-- What has something behind it in a chain is a matcher. -/
theorem isMatcher_of_mem_dropLast_chain {part : Pattern} (member : part ∈ pattern.chain.dropLast) :
    part.isMatcher = true := by
  induction pattern with
  | single | oneOf | collect | reference => cases member
  | link terminal merge step next inductionHypothesis =>
    have more : next.chain ≠ [] := by
      rw [← List.getLast?_isSome, getLast?_chain]
      rfl
    rw [chain, List.dropLast_cons_of_ne_nil more] at member
    rcases List.mem_cons.1 member with rfl | member
    · rfl
    · exact inductionHypothesis member

/-- A chain is another one with a continuation at its end, where a step leads to. -/
structure Extends (pattern : Pattern) (step : Step) (continuation longer : Pattern) : Prop where
  chain_eq : longer.chain.map own = pattern.chain.map own ++ continuation.chain.map own
  steps_eq : longer.steps = pattern.steps ++ step :: continuation.steps
  last_eq : longer.last = continuation.last
  name_eq : longer.name = pattern.name

/-- What adding in place can come to: behind a matcher the continuation is added, and behind
anything else it is refused and the chain is as it was. -/
theorem append_cases (step : Step) (continuation pattern : Pattern) :
    (pattern.last.isMatcher = true ∧
      ∃ longer, append step continuation pattern = (none, longer) ∧
        Extends pattern step continuation longer) ∨
    (pattern.last.isMatcher = false ∧ append step continuation pattern =
      (some ⟨pattern.last.form, pattern.last.name, continuation.name⟩, pattern)) := by
  -- The change is at the end of the chain, so each link in front of it passes on what comes back.
  induction pattern with
  | single terminal merge => exact .inl ⟨rfl, _, rfl, rfl, rfl, rfl, rfl⟩
  | oneOf | collect | reference => exact .inr ⟨rfl, rfl⟩
  | link terminal merge between next inductionHypothesis =>
    rcases inductionHypothesis with ⟨follows, longer, appended, extended⟩ | ⟨ends, refused⟩
    · refine .inl ⟨follows, link terminal merge between longer, ?_, ?_, ?_, extended.last_eq, rfl⟩
      · rw [append, appended]
      · simp [chain, own, extended.chain_eq]
      · simp [steps, extended.steps_eq]
    · exact .inr ⟨ends, by rw [append, refused]; rfl⟩

/-- Adding in place and making a new chain come to the same. -/
theorem append_eq (step : Step) (continuation pattern : Pattern) :
    append step continuation pattern =
      match followedBy step continuation pattern with
      | .ok longer => (none, longer)
      | .error refusal => (some refusal, pattern) := by
  induction pattern with
  | single | oneOf | collect | reference => rfl
  | link terminal merge between next inductionHypothesis =>
    rw [append, inductionHypothesis, followedBy]
    cases followedBy step continuation next <;> rfl

end Call

/-- The pattern of a continuation depends on its owner by the name only. -/
theorem Continuation.pattern_congr {owner other : Pattern} (same : owner.name = other.name)
    (continuation : Continuation) : continuation.pattern owner = continuation.pattern other := by
  cases continuation with
  | element | oneOf => rfl
  | children options => rw [Continuation.pattern, Continuation.pattern, same]

/-- The pattern of a continuation is a chain of one link. -/
theorem Continuation.chain_pattern (continuation : Continuation) (owner : Pattern) :
    (continuation.pattern owner).chain.map own = [continuation.pattern owner] ∧
      (continuation.pattern owner).steps = [] := by
  cases continuation <;> exact ⟨rfl, rfl⟩

/-! ## Many calls -/

variable {pattern : Pattern}

/-- What a call can come to. -/
theorem call_cases (pattern : Pattern) (builder : Builder) :
    (pattern.last.isMatcher = true ∧
      ∃ longer, pattern.call builder = (none, longer) ∧ Extends pattern builder.continuation.step
        (builder.continuation.pattern pattern) longer) ∨
    (pattern.last.isMatcher = false ∧ pattern.call builder =
      (some ⟨pattern.last.form, pattern.last.name, (builder.continuation.pattern pattern).name⟩,
        pattern)) :=
  append_cases builder.continuation.step (builder.continuation.pattern pattern) pattern

/-- A call in place and a call that makes a new pattern come to the same. -/
theorem extend_eq (pattern : Pattern) (builder : Builder) :
    pattern.extend builder.continuation =
      match pattern.call builder with
      | (none, longer) => .ok longer
      | (some refusal, _) => .error refusal := by
  rw [call, append_eq, extend]
  cases followedBy builder.continuation.step (builder.continuation.pattern pattern) pattern <;> rfl

/-- Further calls change what the first ones leave. -/
theorem afterCalls_append (pattern : Pattern) (calls further : List Builder) :
    pattern.afterCalls (calls ++ further) = (pattern.afterCalls calls).afterCalls further := by
  induction calls generalizing pattern with
  | nil => rfl
  | cons builder rest inductionHypothesis => exact inductionHypothesis _

/-- Further calls are accepted or not by what the first ones leave. -/
theorem accepted_append (pattern : Pattern) (calls further : List Builder) :
    pattern.accepted (calls ++ further) =
      pattern.accepted calls ++ (pattern.afterCalls calls).accepted further := by
  induction calls generalizing pattern with
  | nil => rfl
  | cons builder rest inductionHypothesis =>
    rw [List.cons_append, accepted, accepted, afterCalls]
    cases pattern.call builder with
    | mk refusal? left =>
      cases refusal? with
      | none => exact congrArg _ (inductionHypothesis left)
      | some refusal => exact inductionHypothesis left

/-- A chain that ends in something else than a matcher refuses whatever is added, and stays. -/
theorem afterCalls_of_ended (ended : pattern.last.isMatcher = false) (calls : List Builder) :
    pattern.accepted calls = [] ∧ pattern.afterCalls calls = pattern := by
  induction calls with
  | nil => exact ⟨rfl, rfl⟩
  | cons builder rest inductionHypothesis =>
    rcases pattern.call_cases builder with ⟨follows, -⟩ | ⟨-, refused⟩
    · cases ended.symm.trans follows
    · rw [accepted, afterCalls, refused]
      exact inductionHypothesis

/-- Calls leave the chain there was and a link for each call that was accepted, at the end of its
own step. -/
theorem chain_afterCalls (pattern : Pattern) (calls : List Builder) :
    (pattern.afterCalls calls).chain.map own =
        pattern.chain.map own ++ (pattern.accepted calls).map (·.continuation.pattern pattern) ∧
      (pattern.afterCalls calls).steps =
        pattern.steps ++ (pattern.accepted calls).map (·.continuation.step) := by
  induction calls generalizing pattern with
  | nil => simp [afterCalls, accepted]
  | cons builder rest inductionHypothesis =>
    rcases pattern.call_cases builder with ⟨-, longer, made, extended⟩ | ⟨-, refused⟩
    · obtain ⟨alone, noSteps⟩ := builder.continuation.chain_pattern pattern
      obtain ⟨chain, steps⟩ := inductionHypothesis longer
      have sameOwner : (longer.accepted rest).map (·.continuation.pattern longer) =
          (longer.accepted rest).map (·.continuation.pattern pattern) :=
        List.map_congr_left fun later _ => later.continuation.pattern_congr extended.name_eq
      rw [accepted, afterCalls, made, chain, steps, sameOwner, extended.chain_eq, extended.steps_eq,
        alone, noSteps]
      simp
    · rw [accepted, afterCalls, refused]
      exact inductionHypothesis pattern

/-- Whatever was called on a pattern, its chain is the one there was with a link for each accepted
call behind it, in order and at the end of its own step, and all links but the last are matchers.
The next call is refused exactly if the last link is no matcher, for that reason, and then leaves
the pattern as it was; where it is not refused, it leaves what `extend` gives. Once the chain ends
in something else than a matcher, no further call is accepted or changes anything. -/
theorem calls_extend_chain (pattern : Pattern) (calls : List Builder) :
    ((pattern.afterCalls calls).chain.map own =
        pattern.chain.map own ++ (pattern.accepted calls).map (·.continuation.pattern pattern) ∧
      (pattern.afterCalls calls).steps =
        pattern.steps ++ (pattern.accepted calls).map (·.continuation.step) ∧
      (pattern.afterCalls calls).chain.length = (pattern.afterCalls calls).steps.length + 1) ∧
    (∀ part ∈ (pattern.afterCalls calls).chain.dropLast, part.isMatcher = true) ∧
    (∀ builder : Builder,
      ((∃ refusal, ((pattern.afterCalls calls).call builder).1 = some refusal) ↔
        (pattern.afterCalls calls).last.isMatcher = false) ∧
      (∀ refusal, ((pattern.afterCalls calls).call builder).1 = some refusal →
        refusal = ⟨(pattern.afterCalls calls).last.form, (pattern.afterCalls calls).last.name,
          (builder.continuation.pattern (pattern.afterCalls calls)).name⟩ ∧
        ((pattern.afterCalls calls).call builder).2 = pattern.afterCalls calls) ∧
      (pattern.afterCalls calls).extend builder.continuation =
        match (pattern.afterCalls calls).call builder with
        | (none, longer) => .ok longer
        | (some refusal, _) => .error refusal) ∧
    ((pattern.afterCalls calls).last.isMatcher = false → ∀ further : List Builder,
      pattern.accepted (calls ++ further) = pattern.accepted calls ∧
        pattern.afterCalls (calls ++ further) = pattern.afterCalls calls) := by
  obtain ⟨chain, steps⟩ := chain_afterCalls pattern calls
  refine ⟨⟨chain, steps, length_chain _⟩, fun _ => isMatcher_of_mem_dropLast_chain,
    fun builder => ⟨?_, ?_, extend_eq _ builder⟩, fun ended further => ?_⟩
  · rcases (pattern.afterCalls calls).call_cases builder with
      ⟨follows, longer, made, -⟩ | ⟨ends, refused⟩
    · simp [follows, made]
    · simp [ends, refused]
  · intro refusal given
    rcases (pattern.afterCalls calls).call_cases builder with
      ⟨-, longer, made, -⟩ | ⟨-, refused⟩
    · rw [made] at given
      cases given
    · rw [refused] at given ⊢
      exact ⟨(Option.some.inj given).symm, rfl⟩
  · obtain ⟨nothing, same⟩ := afterCalls_of_ended ended further
    rw [accepted_append, afterCalls_append, nothing, same, List.append_nil]
    exact ⟨rfl, rfl⟩

/-- Four calls, of which the third comes behind a collection. -/
def entryCalls : List Builder :=
  [.child (.plain "entry") rightWins, .children [element (.plain "part")], .oneOf [],
    .sameElement (.plain "entry:again") rightWins]

/-- Behind the collection that the second call adds, the other two are refused. -/
theorem calls_extend_chain_entries :
    ((element (.plain "list")).afterCalls (entryCalls.take 2)).last.isMatcher = false ∧
      ((element (.plain "list")).afterCalls entryCalls).chain.map own =
        [element (.plain "list"), element (.plain "entry"),
          collect matcherName [element (.plain "part")]] ∧
      ((element (.plain "list")).afterCalls entryCalls).steps = [.firstChild, .firstChild] ∧
      ((element (.plain "list")).afterCalls (entryCalls.take 2)).call (.oneOf []) =
        (some ⟨"Sibblings", "MATCH", "ONE OF"⟩,
          (element (.plain "list")).afterCalls (entryCalls.take 2)) := by
  obtain ⟨⟨chain, steps, -⟩, -, next, ended⟩ :=
    calls_extend_chain (element (.plain "list")) (entryCalls.take 2)
  obtain ⟨-, same⟩ := ended rfl (entryCalls.drop 2)
  rw [List.take_append_drop] at same
  obtain ⟨refused, reason, -⟩ := next (.oneOf [])
  obtain ⟨refusal, given⟩ := refused.2 rfl
  obtain ⟨told, unchanged⟩ := reason refusal given
  exact ⟨rfl, same ▸ chain, same ▸ steps, Prod.ext (given.trans (congrArg some told)) unchanged⟩

end SchemaTypes.Pattern
