import SchemaTypes.Proofs.Pattern.Descent
import SchemaTypes.Proofs.Pattern.Reading

/-!
# Leaving options out

Alternatives and collections try their options in order, so an option that fails wherever all
options in front of it fail never counts. Such options can be left out of a whole graph at once, at
every level and behind every reference: matching gives the same in the graph that remains.
-/

namespace SchemaTypes

namespace Pattern

mutual

/-- The pattern without the options that a test picks, wherever they stand in it. -/
def leaveOut (picks : Pattern → Bool) : Pattern → Pattern
  | single terminal merge => single terminal merge
  | link terminal merge step next => link terminal merge step (next.leaveOut picks)
  | oneOf name step options => oneOf name step (leaveOutOf picks options)
  | collect name options => collect name (leaveOutOf picks options)
  | reference key name maxDepth => reference key name maxDepth

/-- The options that a test does not pick, without those that it picks inside them. -/
def leaveOutOf (picks : Pattern → Bool) : List Pattern → List Pattern
  | [] => []
  | option :: rest =>
    if picks option then leaveOutOf picks rest
    else option.leaveOut picks :: leaveOutOf picks rest

end

/-- The options among which a pattern chooses. -/
def options : Pattern → List Pattern
  | oneOf _ _ options | collect _ options => options
  | single .. | link .. | reference .. => []

end Pattern

/-- The same references, bound to their targets without the options that a test picks. -/
def Bindings.leaveOut (picks : Pattern → Bool) (bindings : Bindings) : Bindings :=
  ⟨bindings.targets.map fun (key, target) => (key, target.leaveOut picks)⟩

/-- A reference is bound to what is left of its target. -/
theorem Bindings.target?_leaveOut (picks : Pattern → Bool) (bindings : Bindings) (key : Nat) :
    (bindings.leaveOut picks).target? key = (bindings.target? key).map (·.leaveOut picks) :=
  target?_mapTargets (Pattern.leaveOut picks) bindings key

namespace Pattern

variable {picks : Pattern → Bool} {bindings : Bindings} {pattern : Pattern}

/-- Each option that a test picks fails wherever all options in front of it fail, those further in
front included. -/
def Idle (picks : Pattern → Bool) (bindings : Bindings) : List Pattern → List Pattern → Prop
  | _, [] => True
  | front, option :: rest =>
    (picks option = true → ∀ place depth, firstResult bindings front place depth = .ok none →
      result bindings option place depth = .ok none) ∧
      Idle picks bindings (front ++ [option]) rest

/-- Where no option is picked, none has to fail. -/
theorem idle_of_forall {front options : List Pattern}
    (kept : ∀ option ∈ options, picks option = false) : Idle picks bindings front options := by
  induction options generalizing front with
  | nil => trivial
  | cons option rest inductionHypothesis =>
    obtain ⟨here, later⟩ := List.forall_mem_cons.1 kept
    exact ⟨fun picked => absurd picked (by simp [here]), inductionHypothesis later⟩

/-- The first match among some options fails exactly if each of them fails. -/
theorem firstResult_eq_none_iff {options : List Pattern} {place : Option Cursor} {depth : Int} :
    firstResult bindings options place depth = .ok none ↔
      ∀ option ∈ options, result bindings option place depth = .ok none := by
  induction options with
  | nil => simp [firstResult]
  | cons option rest inductionHypothesis =>
    rw [firstResult, List.forall_mem_cons, ← inductionHypothesis]
    cases result bindings option place depth with
    | error fault => simp [bind, Except.bind]
    | ok found => cases found <;> simp [bind, Except.bind, pure, Except.pure]

/-- The first match is the same without idle options. -/
theorem firstResult_leaveOutOf {options : List Pattern} {place : Option Cursor} {depth : Int}
    (idle : Idle picks bindings [] options)
    (same : ∀ option ∈ options, result (bindings.leaveOut picks) (option.leaveOut picks) place depth =
      result bindings option place depth) :
    firstResult (bindings.leaveOut picks) (leaveOutOf picks options) place depth =
      firstResult bindings options place depth := by
  -- Induction on the options that are left to try, when those in front have failed.
  suffices general : ∀ front, Idle picks bindings front options →
      firstResult bindings front place depth = .ok none →
        firstResult (bindings.leaveOut picks) (leaveOutOf picks options) place depth =
          firstResult bindings options place depth from general [] idle rfl
  clear idle
  induction options with
  | nil => exact fun _ _ _ => rfl
  | cons option rest inductionHypothesis =>
    rintro front ⟨failsHere, idleLater⟩ failed
    obtain ⟨sameHere, sameLater⟩ := List.forall_mem_cons.1 same
    have continues : result bindings option place depth = .ok none →
        firstResult (bindings.leaveOut picks) (leaveOutOf picks rest) place depth =
          firstResult bindings rest place depth := by
      intro fails
      refine inductionHypothesis sameLater (front ++ [option]) idleLater ?_
      rw [firstResult_eq_none_iff, List.forall_mem_append, List.forall_mem_singleton]
      exact ⟨firstResult_eq_none_iff.1 failed, fails⟩
    rw [leaveOutOf, firstResult]
    cases picked : picks option with
    | true =>
      have fails := failsHere picked place depth failed
      rw [if_pos rfl, continues fails, fails]
      rfl
    | false =>
      rw [if_neg (by simp), firstResult, sameHere]
      cases own : result bindings option place depth with
      | error fault => rfl
      | ok found =>
        cases found with
        | some node => rfl
        | none => exact continues own

/-- A graph in whose alternatives and collections the options that a test picks are idle is matched
the same without them, at every place and depth. -/
theorem result_leaveOut
    (idle : ∀ part, bindings.InGraph pattern part → Idle picks bindings [] part.options)
    {part : Pattern} (inside : bindings.InGraph pattern part) (place : Option Cursor)
    (depth : Int) :
    result (bindings.leaveOut picks) (part.leaveOut picks) place depth =
      result bindings part place depth := by
  refine Bindings.descent (motive := fun part depth => ∀ place,
    result (bindings.leaveOut picks) (part.leaveOut picks) place depth =
      result bindings part place depth)
    ?single ?link ?oneOf ?collect ?reference inside depth place
  case single =>
    intro terminal merge depth inside place
    rw [leaveOut, result_single, result_single]
  case link =>
    intro terminal merge step next depth inside continues place
    simp only [leaveOut, result_link, continues]
  case oneOf =>
    intro name step options depth inside each place
    rw [leaveOut, result_oneOf, result_oneOf]
    exact firstResult_leaveOutOf (idle _ inside) fun option member => each option member _
  case collect =>
    intro name options depth inside each place
    have idle : Idle picks bindings [] options := idle _ inside
    rw [leaveOut, result_collect, result_collect, eachResult_congr (List.forall₂_same.2
      fun cursor _ => firstResult_leaveOutOf idle fun option member =>
        each option member (some cursor))]
  case reference =>
    intro key name maxDepth depth inside follows place
    rw [leaveOut]
    cases bound : bindings.target? key with
    | none =>
      rw [result_reference_unbound bound, result_reference_unbound (by
        rw [Bindings.target?_leaveOut, bound, Option.map_none])]
    | some target =>
      rw [result_reference bound, result_reference (by
        rw [Bindings.target?_leaveOut, bound, Option.map_some])]
      by_cases below : depth > maxDepth
      · rw [if_pos below, if_pos below]
      · rw [if_neg below, if_neg below]
        exact follows target bound (by omega) place

/-! ## Shadows -/

/-- A pattern shadows another if it matches wherever the other does, and neither meets a defect. -/
def Shadows (bindings : Bindings) (first second : Pattern) : Prop :=
  ∀ place depth, ∃ found found', result bindings first place depth = .ok found ∧
    result bindings second place depth = .ok found' ∧ (found = none → found' = none)

section Shadows

variable {first second : Pattern} {place : Option Cursor} {depth : Int}

/-- Where a pattern fails, so does what it shadows. -/
theorem Shadows.eq_none (shadows : Shadows bindings first second)
    (fails : result bindings first place depth = .ok none) :
    result bindings second place depth = .ok none := by
  obtain ⟨found, found', own, other, covers⟩ := shadows place depth
  rw [other, covers (Except.ok.inj (own.symm.trans fails))]

/-- Where a pattern matches, so does what shadows it. -/
theorem Shadows.exists_match (shadows : Shadows bindings first second) {node : Node}
    (matched : result bindings second place depth = .ok (some node)) :
    ∃ other, result bindings first place depth = .ok (some other) := by
  obtain ⟨found, found', own, other, covers⟩ := shadows place depth
  cases found with
  | none =>
    rw [other, covers rfl] at matched
    cases matched
  | some node => exact ⟨node, own⟩

/-- Of two matchers that read elements, the first shadows the second if it makes something of every
element that the second makes something of. -/
theorem shadows_of_reads {reading reading' : Int → Reading}
    (firstVisible : MatchesFirstVisible bindings first)
    (firstVisible' : MatchesFirstVisible bindings second)
    (reads : ∀ depth, Reads bindings depth first (reading depth))
    (reads' : ∀ depth, Reads bindings depth second (reading' depth))
    (covers : ∀ depth element, reading depth element = none → reading' depth element = none) :
    Shadows bindings first second := by
  intro place depth
  rw [firstVisible, firstVisible']
  cases seen : (Cursor.visible place).head? with
  | none => exact ⟨none, none, rfl, rfl, id⟩
  | some cursor =>
    have plain := isRemark_of_head?_visible seen
    exact ⟨_, _, reads depth cursor plain, reads' depth cursor plain, covers depth cursor.element⟩

end Shadows

end Pattern

end SchemaTypes
