import SchemaTypes.Proofs.Node.Merging
import SchemaTypes.Proofs.Pattern.Result

/-!
# Chains of matchers

A production grows from one matcher by adding continuations at its end: further matchers, and at
last perhaps alternatives or a collection. With the default merger the whole chain gives a node
exactly if every link does, each of them tried by itself where the links in front of it lead to.
The first link gives the kind, and each attribute is as the deepest link has it that carries it.
-/

namespace SchemaTypes.Pattern

open Cursor

/-- What a chain may end with: alternatives at the end of a step, or a collection of the children.
-/
inductive Ending where
  | oneOf (step : Step) (options : List Pattern)
  | children (options : List Pattern)

namespace Ending

/-- The continuation that an ending is. -/
def continuation : Ending → Continuation
  | oneOf step options => .oneOf step options
  | children options => .children options

/-- The pattern of an ending behind a matcher. -/
def pattern : Ending → Pattern
  | oneOf _ options => anyOf options
  | children options => collect matcherName options

end Ending

/-- A matcher, further matchers each at the end of a step, and what may come behind them. All have
the default merger. -/
structure Chain where
  first : Terminal
  links : List (Step × Terminal)
  ending? : Option Ending

/-! ## Putting a chain together -/

namespace Chain

/-- What is added to the first matcher, in order. -/
def continuations (chain : Chain) : List Continuation :=
  (chain.links.map fun (step, terminal) => .element step terminal rightWins) ++
    (chain.ending?.map Ending.continuation).toList

/-- The production of a chain: its first matcher, to which the rest is added piece by piece. -/
def production (chain : Chain) : Except ChainError Pattern :=
  chain.continuations.foldlM extend (.element chain.first)

/-- Matchers that are joined already, with what comes behind the last one. -/
def joined (behind? : Option (Step × Pattern)) : Terminal → List (Step × Terminal) → Pattern
  | terminal, [] =>
    match behind? with
    | none => single terminal rightWins
    | some (step, next) => .link terminal rightWins step next
  | terminal, (step, next) :: links => .link terminal rightWins step (joined behind? next links)

/-- The pattern that a chain is in the end. -/
def pattern (chain : Chain) : Pattern :=
  joined (chain.ending?.map fun ending => (ending.continuation.step, ending.pattern)) chain.first
    chain.links

variable {first : Terminal} {links : List (Step × Terminal)}

theorem name_joined (behind? : Option (Step × Pattern)) :
    (joined behind? first links).name = matcherName := by
  cases links with
  | nil => cases behind? <;> rfl
  | cons => rfl

/-- What comes behind the last matcher may be a matcher itself. -/
theorem joined_matcher (step : Step) (terminal : Terminal) :
    joined (some (step, single terminal rightWins)) first links =
      joined none first (links ++ [(step, terminal)]) := by
  induction links generalizing first with
  | nil => rfl
  | cons link links inductionHypothesis => rw [joined, inductionHypothesis, List.cons_append, joined]

/-- A continuation is added behind the last matcher. -/
theorem followedBy_joined (step : Step) (next : Pattern) :
    followedBy step next (joined none first links) = .ok (joined (some (step, next)) first links) := by
  induction links generalizing first with
  | nil => rfl
  | cons link links inductionHypothesis =>
    rw [joined, followedBy, inductionHypothesis]
    rfl

/-- Matchers can be added one after the other. -/
theorem foldlM_extend_matchers (first : Terminal) (links further : List (Step × Terminal)) :
    (further.map fun (step, terminal) => Continuation.element step terminal rightWins).foldlM extend
      (joined none first links) = .ok (joined none first (links ++ further)) := by
  -- The induction is on what is still to be added, while the chain in front of it grows.
  induction further generalizing links with
  | nil => rw [List.append_nil]; rfl
  | cons link further inductionHypothesis =>
    obtain ⟨step, terminal⟩ := link
    rw [List.map_cons, List.foldlM_cons, extend]
    simp only [Continuation.step, Continuation.pattern, followedBy_joined, joined_matcher]
    show List.foldlM extend _ _ = _
    rw [inductionHypothesis, List.append_assoc, List.singleton_append]

/-- Every chain has a production. -/
theorem production_eq (chain : Chain) : chain.production = .ok chain.pattern := by
  obtain ⟨first, links, ending?⟩ := chain
  have matchers := foldlM_extend_matchers first [] links
  rw [production, continuations, List.foldlM_append]
  show (List.foldlM extend (joined none first []) _ >>= _) = _
  rw [matchers]
  cases ending? with
  | none => rfl
  | some ending =>
    show (extend _ ending.continuation >>= pure) = _
    rw [bind_pure, List.nil_append, extend, followedBy_joined]
    cases ending with
    | oneOf step options => rfl
    | children options =>
      simp only [Ending.continuation, Continuation.pattern, name_joined]
      rfl

/-! ## Trying the links of a chain -/

/-- What a link gives: a defect, nothing, or a node. -/
abbrev Outcome := Except Fault (Option Node)

/-- The outcome of a link that gives a node. -/
def accepted (node : Node) : Outcome := .ok (some node)

/-- What each link of a chain gives by itself, in order. A matcher is tried on the first element
from its place on that is no remark, and what comes behind it where its step leads from there. -/
def tries (bindings : Bindings) (ending? : Option Ending) :
    Terminal → List (Step × Terminal) → Option Cursor → Int → List Outcome
  | terminal, [], place, depth =>
    let here := place.bind skipRemarks?
    testResult terminal here :: (ending?.map fun ending =>
      result bindings ending.pattern (ending.continuation.step.apply here) (depth + 1)).toList
  | terminal, (step, next) :: links, place, depth =>
    let here := place.bind skipRemarks?
    testResult terminal here :: tries bindings ending? next links (step.apply here) (depth + 1)

/-- What the links of a chain give by themselves, at a place and a depth. -/
def outcomes (chain : Chain) (bindings : Bindings) (place : Option Cursor) (depth : Int) :
    List Outcome :=
  tries bindings chain.ending? chain.first chain.links place depth

/-- A link with all that is deeper behind it. -/
def overlay (own deeper : Outcome) : Outcome := do
  match ← own with
  | none => return none
  | some own =>
    match ← deeper with
    | some merged => return some (own.merge merged none)
    | none => return none

/-- What a chain makes of what its links give. -/
def conclude : List Outcome → Outcome
  | [] => .ok none
  | [last] => last
  | own :: deeper => overlay own (conclude deeper)

/-- The outcome of a link is overlaid with what the deeper ones conclude. -/
theorem conclude_cons (own : Outcome) {deeper : List Outcome} (more : deeper ≠ []) :
    conclude (own :: deeper) = overlay own (conclude deeper) := by
  cases deeper with
  | nil => exact absurd rfl more
  | cons => rfl

/-- The first link is always tried. -/
theorem tries_ne_nil (bindings : Bindings) (ending? : Option Ending) (first : Terminal)
    (links : List (Step × Terminal)) (place : Option Cursor) (depth : Int) :
    tries bindings ending? first links place depth ≠ [] := by
  cases links <;> simp [tries]

/-- Matching a chain comes to what its links come to. -/
theorem result_pattern (bindings : Bindings) (chain : Chain) (place : Option Cursor) (depth : Int) :
    result bindings chain.pattern place depth = conclude (chain.outcomes bindings place depth) := by
  obtain ⟨first, links, ending?⟩ := chain
  simp only [pattern, outcomes]
  -- Each link moves the place and the depth, so the induction is over all of them at once.
  induction links generalizing first place depth with
  | nil =>
    cases ending? with
    | none =>
      rw [Option.map_none, joined, result_single, tries, bind_skipRemarks?]
      rfl
    | some ending =>
      rw [Option.map_some, joined, result_link, tries, bind_skipRemarks?]
      rfl
  | cons link links inductionHypothesis =>
    obtain ⟨step, next⟩ := link
    rw [joined, result_link, tries, bind_skipRemarks?, conclude_cons _ (tries_ne_nil _ _ _ _ _ _)]
    simp only [inductionHypothesis]
    rfl

/-! ## What a chain comes to -/

/-- Whether something that is no node stands first among outcomes, behind nodes only. -/
def StopsWith (outcomes : List Outcome) (refusal : Outcome) : Prop :=
  ∃ (nodes : List Node) (later : List Outcome), outcomes = nodes.map accepted ++ refusal :: later

/-- Either all outcomes are nodes, or there is a first one that is not. -/
theorem accepted_or_stopsWith (outcomes : List Outcome) :
    (∃ nodes : List Node, outcomes = nodes.map accepted) ∨
      ∃ refusal, (∀ node, refusal ≠ accepted node) ∧ StopsWith outcomes refusal := by
  induction outcomes with
  | nil => exact .inl ⟨[], rfl⟩
  | cons outcome deeper inductionHypothesis =>
    by_cases accepts : ∃ node, outcome = accepted node
    · obtain ⟨node, rfl⟩ := accepts
      rcases inductionHypothesis with ⟨nodes, rfl⟩ | ⟨refusal, refuses, nodes, later, rfl⟩
      · exact .inl ⟨node :: nodes, rfl⟩
      · exact .inr ⟨refusal, refuses, node :: nodes, later, rfl⟩
    · exact .inr ⟨outcome, not_exists.1 accepts, [], deeper, rfl⟩

section Refusal

variable {refusal : Outcome} (refuses : ∀ node, refusal ≠ accepted node)

include refuses in
/-- What is no node is not changed by what stands in front of it or behind it. -/
theorem overlay_refusal :
    (∀ deeper, overlay refusal deeper = refusal) ∧ ∀ own, overlay (accepted own) refusal = refusal := by
  match refusal, refuses with
  | .error fault, _ => exact ⟨fun _ => rfl, fun _ => rfl⟩
  | .ok none, _ => exact ⟨fun _ => rfl, fun _ => rfl⟩
  | .ok (some node), refuses => exact absurd rfl (refuses node)

include refuses in
/-- Outcomes conclude with the refusal that they stop with. -/
theorem conclude_of_stopsWith {outcomes : List Outcome} (stops : StopsWith outcomes refusal) :
    conclude outcomes = refusal := by
  obtain ⟨nodes, later, rfl⟩ := stops
  induction nodes with
  | nil =>
    cases later with
    | nil => rfl
    | cons next later =>
      rw [List.map_nil, List.nil_append, conclude_cons _ (by simp), (overlay_refusal refuses).1]
  | cons node deeper inductionHypothesis =>
    rw [List.map_cons, List.cons_append, conclude_cons _ (by simp), inductionHypothesis,
      (overlay_refusal refuses).2]

end Refusal

/-- Nodes alone conclude with all of them merged. -/
theorem conclude_accepted (nodes : List Node) :
    conclude (nodes.map accepted) = .ok (Node.mergeAll nodes) := by
  induction nodes with
  | nil => rfl
  | cons node deeper inductionHypothesis =>
    cases deeper with
    | nil => rfl
    | cons next deeper =>
      obtain ⟨merged, merges, -⟩ := Node.exists_mergeAll_eq next deeper
      rw [List.map_cons, conclude_cons _ (by simp), inductionHypothesis, merges, Node.mergeAll, merges]
      rfl

/-- Outcomes come to something that is no node exactly if it stands first among them. -/
theorem conclude_eq_iff_of_refuses {outcomes : List Outcome} (nonempty : outcomes ≠ []) {refusal : Outcome}
    (refuses : ∀ node, refusal ≠ accepted node) :
    conclude outcomes = refusal ↔ StopsWith outcomes refusal := by
  refine ⟨fun concludes => ?_, conclude_of_stopsWith refuses⟩
  rcases accepted_or_stopsWith outcomes with ⟨nodes, rfl⟩ | ⟨other, refuses', stops⟩
  · cases nodes with
    | nil => exact absurd rfl nonempty
    | cons first deeper =>
      obtain ⟨merged, merges, -⟩ := Node.exists_mergeAll_eq first deeper
      rw [conclude_accepted, merges] at concludes
      exact absurd concludes.symm (refuses merged)
  · rw [conclude_of_stopsWith refuses' stops] at concludes
    exact concludes ▸ stops

/-- Outcomes come to a node exactly if all of them are nodes, and then to all of them merged. -/
theorem conclude_eq_accepted_iff {outcomes : List Outcome} {merged : Node} :
    conclude outcomes = accepted merged ↔
      ∃ nodes : List Node, outcomes = nodes.map accepted ∧ Node.mergeAll nodes = some merged := by
  constructor
  · intro concludes
    rcases accepted_or_stopsWith outcomes with ⟨nodes, rfl⟩ | ⟨refusal, refuses, stops⟩
    · rw [conclude_accepted] at concludes
      exact ⟨nodes, rfl, Except.ok.inj concludes⟩
    · rw [conclude_of_stopsWith refuses stops] at concludes
      exact absurd concludes (refuses merged)
  · rintro ⟨nodes, rfl, merges⟩
    rw [conclude_accepted, merges]
    rfl

/-- Where no link has a defect, some link gives nothing exactly if there is a first one that does.
-/
theorem stopsWith_none_iff {outcomes : List Outcome} (sound : ∀ fault, .error fault ∉ outcomes) :
    StopsWith outcomes (.ok none) ↔ .ok none ∈ outcomes := by
  constructor
  · rintro ⟨nodes, later, rfl⟩
    simp
  · intro member
    rcases accepted_or_stopsWith outcomes with ⟨nodes, rfl⟩ | ⟨refusal, refuses, nodes, later, rfl⟩
    · simp [accepted] at member
    · match refusal, refuses with
      | .error fault, _ => exact absurd (by simp) (sound fault)
      | .ok none, _ => exact ⟨nodes, later, rfl⟩
      | .ok (some node), refuses => exact absurd rfl (refuses node)

/-- A chain of matchers with the default merger has a production. At every place and depth it gives
nothing exactly if one of its links does, tried by itself behind links that give nodes; and it gives
a node exactly if every link does. The node has the kind of the first link's, and each attribute as
the deepest link has it that carries it. -/
theorem deepest_wins (bindings : Bindings) (chain : Chain) (place : Option Cursor) (depth : Int) :
    ∃ production, chain.production = .ok production ∧
      (result bindings production place depth = .ok none ↔
        StopsWith (chain.outcomes bindings place depth) (.ok none)) ∧
      (∀ fault, result bindings production place depth = .error fault ↔
        StopsWith (chain.outcomes bindings place depth) (.error fault)) ∧
      (∀ node, result bindings production place depth = .ok (some node) ↔
        ∃ nodes : List Node, chain.outcomes bindings place depth = nodes.map accepted ∧
          nodes.head?.map (·.kind) = some node.kind ∧
          ∀ slot, node.get? slot = Node.lastCarried nodes slot) ∧
      ((∀ fault, .error fault ∉ chain.outcomes bindings place depth) →
        (result bindings production place depth = .ok none ↔
          .ok none ∈ chain.outcomes bindings place depth)) := by
  have nonempty := tries_ne_nil bindings chain.ending? chain.first chain.links place depth
  have nothing : result bindings chain.pattern place depth = .ok none ↔
      StopsWith (chain.outcomes bindings place depth) (.ok none) := by
    rw [result_pattern]
    exact conclude_eq_iff_of_refuses nonempty fun node same => by cases same
  refine ⟨chain.pattern, chain.production_eq, nothing, fun fault => ?_, fun node => ?_,
    fun sound => nothing.trans (stopsWith_none_iff sound)⟩
  · rw [result_pattern]
    exact conclude_eq_iff_of_refuses nonempty fun node same => by cases same
  · simp only [result_pattern, ← Node.mergeAll_eq_some_iff]
    exact conclude_eq_accepted_iff

/-- An element with a remark, a list and two entries in the list. -/
def catalog : Element :=
  .mk "catalog" [("name", "spring")]
    [.mk "annotation" [] [],
      .mk "list" [("name", "novelties")] [.mk "entry" [] [], .mk "entry" [] []]]

/-- A chain that goes from a catalog to its list and collects the entries of the list. -/
def listing : Chain where
  first := .building "catalog" fun cursor =>
    some { kind := "Catalog", name := cursor.element.get? "name", value := some "0" }
  links := [(.firstChild, .building "list" fun cursor =>
    some { kind := "List", name := cursor.element.get? "name" }), (.same, .plain "list:again")]
  ending? := some (.children [element (.plain "entry")])

theorem deepest_wins_listing :
    ∃ production, listing.production = .ok production ∧
      result {} production (some (.root catalog)) 0 = .ok (some
        { kind := "Catalog", name := some "novelties", value := some "0",
          items := some [{ kind := "entry" }, { kind := "entry" }] }) ∧
      result {} production (some (.root (.mk "catalog" [] []))) 0 = .ok none := by
  obtain ⟨production, built, -, -, gives, -⟩ := deepest_wins {} listing (some (.root catalog)) 0
  obtain ⟨_, built', -, -, -, refuses⟩ :=
    deepest_wins {} listing (some (.root (.mk "catalog" [] []))) 0
  cases built.symm.trans built'
  have nodes : listing.outcomes {} (some (.root catalog)) 0 =
      [{ kind := "Catalog", name := some "spring", value := some "0" },
        { kind := "List", name := some "novelties" }, { kind := "list" },
        { kind := Kind.collection, items := some [{ kind := "entry" }, { kind := "entry" }] }].map
          accepted := rfl
  have stopped : listing.outcomes {} (some (.root (.mk "catalog" [] []))) 0 =
      [accepted { kind := "Catalog", value := some "0" }, .ok none, .ok none,
        accepted { kind := Kind.collection, items := some [] }] := rfl
  refine ⟨production, built, (gives _).2 ⟨_, nodes, rfl, fun slot => ?_⟩, (refuses ?_).2 ?_⟩
  · cases slot with
    | text slot => cases slot <;> rfl
    | nestedClass => rfl
    | list slot => cases slot <;> rfl
  · simp [stopped, accepted]
  · simp [stopped]

end Chain

end SchemaTypes.Pattern
