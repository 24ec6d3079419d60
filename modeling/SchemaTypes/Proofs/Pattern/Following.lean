import SchemaTypes.Pattern.Match
import SchemaTypes.Proofs.Pattern.Graph

/-!
# Following references

Matching follows references a bounded number of times, one inside the other. The bound is never
met: it counts down no faster than the depth grows, and a reference is not followed below its
greatest depth. So matching obeys the equations it would have without any bound, one for each form
of a pattern, and those equations are all that is used of it from here on.
-/

namespace SchemaTypes.Pattern

variable {σ : Type} {record : Recorder σ} {bindings : Bindings}

/-- The first match depends on nothing but what the options give. -/
theorem matchFirst_congr {follow follow' : Follow σ} {options : List Pattern}
    {place : Option Cursor} {depth : Int} (count : Nat)
    (agree : ∀ option ∈ options, matchWith record bindings follow option place (depth + 1) =
      matchWith record bindings follow' option place (depth + 1)) :
    matchFirst record bindings follow options place depth count =
      matchFirst record bindings follow' options place depth count := by
  induction options generalizing count with
  | nil => rfl
  | cons option rest inductionHypothesis =>
    simp only [matchFirst]
    rw [agree option (by simp)]
    congr 1; funext _; congr 1; funext found
    cases found with
    | some node => rfl
    | none =>
      exact inductionHypothesis (count + 1) fun other member => agree other (by simp [member])

/-- Two ways to follow references match alike if they agree on every target and at every depth
where a reference of the pattern can be followed. -/
theorem matchWith_congr {follow follow' : Follow σ} {pattern : Pattern} {depth : Int}
    (place : Option Cursor)
    (agree : ∀ limit ∈ pattern.depthLimits, ∀ key target, bindings.target? key = some target →
      ∀ place within, depth ≤ within → within ≤ limit →
        follow target place (within + 1) = follow' target place (within + 1)) :
    matchWith record bindings follow pattern place depth =
      matchWith record bindings follow' pattern place depth := by
  induction pattern generalizing place depth with
  | single terminal merge => rfl
  | link terminal merge step next inductionHypothesis =>
    simp only [matchWith]
    congr 1; funext own?; congr 1; funext _
    cases own? with
    | none => rfl
    | some own =>
      rw [inductionHypothesis _ fun limit member key target bound place within lower =>
        agree limit member key target bound place within (by omega)]
  | oneOf name step options inductionHypothesis =>
    simp only [matchWith]
    congr 1; funext _
    refine matchFirst_congr 1 fun option member => inductionHypothesis option member _ ?_
    intro limit inside key target bound place within lower
    exact agree limit (mem_depthLimitsOf.2 ⟨option, member, inside⟩) key target bound place within
      (by omega)
  | collect name options inductionHypothesis =>
    have same : ∀ place, matchFirst record bindings follow options place depth 0 =
        matchFirst record bindings follow' options place depth 0 := fun place =>
      matchFirst_congr 0 fun option member => inductionHypothesis option member place
        fun limit inside key target bound place within lower =>
          agree limit (mem_depthLimitsOf.2 ⟨option, member, inside⟩) key target bound place within
            (by omega)
    simp only [matchWith, same]
  | reference key name maxDepth =>
    simp only [matchWith]
    cases bound : bindings.target? key with
    | none => rfl
    | some target =>
      by_cases deep : depth > maxDepth
      · simp only [deep, if_true]
      · simp only [deep, if_false]
        exact agree maxDepth (by simp [depthLimits]) key target bound place depth (by omega)
          (by omega)

/-- Every greatest depth is reached after at most `left` more steps down. -/
def Covers (limits : List Int) (depth : Int) (left : Nat) : Prop :=
  ∀ limit ∈ limits, limit < depth + left

/-- The number that matching starts with covers all greatest depths. -/
theorem covers_followable (limits : List Int) (depth : Int) :
    Covers limits depth (followable limits depth) := by
  suffices general : ∀ most, most ≤ limits.foldl (fun most limit =>
      max most (limit + 1 - depth).toNat) most ∧
      ∀ limit ∈ limits, (limit + 1 - depth).toNat ≤ limits.foldl (fun most limit =>
        max most (limit + 1 - depth).toNat) most by
    intro limit member
    have bounded := (general 0).2 limit member
    simp only [followable]
    omega
  induction limits with
  | nil => simp
  | cons first rest inductionHypothesis =>
    intro most
    obtain ⟨grows, bounded⟩ := inductionHypothesis (max most (first + 1 - depth).toNat)
    simp only [List.foldl_cons, List.forall_mem_cons]
    exact ⟨by omega, by omega, bounded⟩

/-- Once all greatest depths are covered, how much is left makes no difference. -/
theorem matchWithin_eq_of_covers {pattern : Pattern} {depth : Int} {left left' : Nat}
    (place : Option Cursor) (covers : Covers (bindings.depthLimits pattern) depth left)
    (covers' : Covers (bindings.depthLimits pattern) depth left') :
    matchWithin record bindings left pattern place depth =
      matchWithin record bindings left' pattern place depth := by
  have inside : ∀ limit ∈ pattern.depthLimits, limit ∈ bindings.depthLimits pattern :=
    fun limit member => List.mem_append_left _ member
  induction left generalizing pattern depth left' place with
  | zero =>
    -- Nothing is left on one side, so no reference of the pattern can be followed at all.
    cases left' with
    | zero => rfl
    | succ left' =>
      refine matchWith_congr place fun limit member key target bound place within lower upper => ?_
      have := covers limit (inside limit member)
      omega
  | succ left inductionHypothesis =>
    cases left' with
    | zero =>
      refine matchWith_congr place fun limit member key target bound place within lower upper => ?_
      have := covers' limit (inside limit member)
      omega
    | succ left' =>
      refine matchWith_congr place fun limit member key target bound place within lower upper => ?_
      have further : ∀ {left : Nat}, Covers (bindings.depthLimits pattern) depth (left + 1) →
          Covers (bindings.depthLimits target) (within + 1) left := by
        intro left covers limit member
        have := covers limit (Bindings.mem_depthLimits_of_target? bound member)
        omega
      exact inductionHypothesis place (further covers) (further covers')
        fun limit member => List.mem_append_left _ member

/-- Matching obeys the equation it would have without a bound: references are followed by matching
itself. -/
theorem matchAt_eq (pattern : Pattern) (place : Option Cursor) (depth : Int) :
    matchAt record bindings pattern place depth =
      matchWith record bindings (matchAt record bindings) pattern place depth := by
  have covers := covers_followable (bindings.depthLimits pattern) depth
  have further : Covers (bindings.depthLimits pattern) depth
      (followable (bindings.depthLimits pattern) depth + 1) := by
    intro limit member
    have := covers limit member
    omega
  calc matchAt record bindings pattern place depth
      = matchWithin record bindings (followable (bindings.depthLimits pattern) depth + 1)
          pattern place depth := matchWithin_eq_of_covers place covers further
    _ = matchWith record bindings (matchAt record bindings) pattern place depth := ?_
  refine matchWith_congr place fun limit member key target bound place within lower upper => ?_
  refine matchWithin_eq_of_covers place ?_ (covers_followable _ _)
  intro limit member
  have := covers limit (Bindings.mem_depthLimits_of_target? bound member)
  omega

/-- The first match among several patterns, with itself to follow references. -/
def firstAt (record : Recorder σ) (bindings : Bindings) (options : List Pattern)
    (place : Option Cursor) (depth : Int) (count : Nat) : Matching σ (Option Node) :=
  matchFirst record bindings (matchAt record bindings) options place depth count

/-- Each pattern is tried one level down, and the next one only if it does not match. -/
theorem firstAt_cons (option : Pattern) (rest : List Pattern) (place : Option Cursor) (depth : Int)
    (count : Nat) :
    firstAt record bindings (option :: rest) place depth count = (do
      note record depth (.trying option count)
      match ← matchAt record bindings option place (depth + 1) with
      | some result => return some result
      | none => firstAt record bindings rest place depth (count + 1)) := by
  rw [matchAt_eq option place (depth + 1)]
  rfl

/-- A matcher skips remarks and tests its terminal. -/
theorem matchAt_single (terminal : Terminal) (merge : Merger) (place : Option Cursor)
    (depth : Int) :
    matchAt record bindings (single terminal merge) place depth = do
      let here := place.bind Cursor.skipRemarks?
      let own? ← testTerminal record terminal here (depth + 1)
      note record depth (.matched matcherName terminal.tag (sight here) (own?.map (·.kind)))
      return own? := by
  rw [matchAt_eq, matchWith]

/-- A matcher with a continuation goes on at the end of the step, and what both made is merged. -/
theorem matchAt_link (terminal : Terminal) (merge : Merger) (step : Step) (next : Pattern)
    (place : Option Cursor) (depth : Int) :
    matchAt record bindings (link terminal merge step next) place depth = do
      let here := place.bind Cursor.skipRemarks?
      let own? ← testTerminal record terminal here (depth + 1)
      note record depth (.matched matcherName terminal.tag (sight here) (own?.map (·.kind)))
      match own? with
      | none => return none
      | some own =>
        match ← matchAt record bindings next (step.apply here) (depth + 1) with
        | some result => return merge own result
        | none =>
          note record depth (.continuationFailed matcherName terminal.name)
          return none := by
  rw [matchAt_eq (link terminal merge step next)]
  simp only [matchAt_eq next]
  rfl

/-- Alternatives are tried at the end of the step. -/
theorem matchAt_oneOf (name : String) (step : Step) (options : List Pattern)
    (place : Option Cursor) (depth : Int) :
    matchAt record bindings (oneOf name step options) place depth = (do
      let target := step.apply place
      note record depth (.choosing (options.map Pattern.name) (sight place) (sight target))
      firstAt record bindings options target depth 1) := by
  rw [matchAt_eq, matchWith]
  rfl

/-- A collection tries its alternatives on each sibling that is no remark. -/
theorem matchAt_collect (name : String) (options : List Pattern) (place : Option Cursor)
    (depth : Int) :
    matchAt record bindings (collect name options) place depth = do
      note record depth (.collecting (options.map Pattern.name) (sight place))
      let items ← gather (fun cursor => do
        note record depth (.sibling (sight (some cursor)))
        if cursor.element.isRemark then return none
        else firstAt record bindings options (some cursor) depth 0)
          ((place.map Cursor.withFollowing).getD [])
      return some { kind := Kind.collection, items := some items } := by
  rw [matchAt_eq, matchWith]
  rfl

/-- A reference that is not bound is a fault. -/
theorem matchAt_reference_unbound {key : Nat} (unbound : bindings.target? key = none)
    (name : String) (maxDepth : Int) (place : Option Cursor) (depth : Int) :
    matchAt record bindings (reference key name maxDepth) place depth =
      throw (.unboundReference name) := by
  rw [matchAt_eq, matchWith, unbound]

/-- A bound reference is followed one level down, unless it is too deep. -/
theorem matchAt_reference {key : Nat} {target : Pattern}
    (bound : bindings.target? key = some target) (name : String) (maxDepth : Int)
    (place : Option Cursor) (depth : Int) :
    matchAt record bindings (reference key name maxDepth) place depth =
      if depth > maxDepth then do
        note record depth (.tooDeep name maxDepth (sight place))
        return none
      else matchAt record bindings target place (depth + 1) := by
  rw [matchAt_eq, matchWith, bound]

end SchemaTypes.Pattern
