import SchemaTypes.Proofs.Pattern.Descent
import SchemaTypes.Proofs.Pattern.Result

/-!
# Depth is relative

Only references look at the depth, and only to compare it with their greatest depth. So a graph gives
the same from a lower start if all its greatest depths are lowered as far, and a graph without
references gives the same wherever it starts.
-/

namespace SchemaTypes

namespace Pattern

mutual

/-- The pattern with other greatest depths of its references. -/
def mapLimits (change : Int → Int) : Pattern → Pattern
  | single terminal merge => single terminal merge
  | link terminal merge step next => link terminal merge step (next.mapLimits change)
  | oneOf name step options => oneOf name step (mapLimitsOf change options)
  | collect name options => collect name (mapLimitsOf change options)
  | reference key name maxDepth => reference key name (change maxDepth)

/-- The patterns with other greatest depths of their references. -/
def mapLimitsOf (change : Int → Int) : List Pattern → List Pattern
  | [] => []
  | option :: rest => option.mapLimits change :: mapLimitsOf change rest

end

theorem mapLimitsOf_eq_map (change : Int → Int) (options : List Pattern) :
    mapLimitsOf change options = options.map (mapLimits change) := by
  induction options with
  | nil => rfl
  | cons option rest inductionHypothesis => rw [mapLimitsOf, inductionHypothesis, List.map_cons]

/-- A pattern whose greatest depths stay is the same pattern. -/
theorem mapLimits_id (pattern : Pattern) : pattern.mapLimits id = pattern := by
  have all {options : List Pattern} (each : ∀ option ∈ options, option.mapLimits id = option) :
      mapLimitsOf id options = options := by
    rw [mapLimitsOf_eq_map]
    exact (List.map_congr_left each).trans (List.map_id options)
  induction pattern with
  | single terminal merge => rfl
  | link terminal merge step next inductionHypothesis => rw [mapLimits, inductionHypothesis]
  | oneOf name step options inductionHypothesis => rw [mapLimits, all inductionHypothesis]
  | collect name options inductionHypothesis => rw [mapLimits, all inductionHypothesis]
  | reference key name maxDepth => rfl

end Pattern

namespace Bindings

open Pattern

/-- The same references, bound to their targets with other greatest depths. -/
def mapLimits (change : Int → Int) (bindings : Bindings) : Bindings :=
  bindings.mapTargets (Pattern.mapLimits change)

/-- A reference is bound to its target with changed limits. -/
theorem target?_mapLimits (change : Int → Int) (bindings : Bindings) (key : Nat) :
    (bindings.mapLimits change).target? key =
      (bindings.target? key).map (Pattern.mapLimits change) :=
  target?_mapTargets (Pattern.mapLimits change) bindings key

theorem mapLimits_id (bindings : Bindings) : bindings.mapLimits id = bindings := by
  simp [mapLimits, mapTargets, Pattern.mapLimits_id]

end Bindings

namespace Pattern

variable {bindings : Bindings} {pattern : Pattern} {change : Int → Int} {levels : Int}

/-- A graph whose greatest depths are all changed by a number of levels gives the same from so many
levels further down. -/
theorem result_mapLimits
    (lowers : ∀ key name maxDepth, bindings.InGraph pattern (.reference key name maxDepth) →
      change maxDepth = maxDepth + levels)
    {part : Pattern} (inside : bindings.InGraph pattern part) (place : Option Cursor) (depth : Int) :
    result (bindings.mapLimits change) (part.mapLimits change) place (depth + levels) =
      result bindings part place depth := by
  have deeper (depth : Int) : depth + levels + 1 = depth + 1 + levels := by omega
  refine Bindings.descent (motive := fun part depth => ∀ place,
    result (bindings.mapLimits change) (part.mapLimits change) place (depth + levels) =
      result bindings part place depth)
    ?single ?link ?oneOf ?collect ?reference inside depth place
  case single =>
    intro terminal merge depth inside place
    rw [mapLimits, result_single, result_single]
  case link =>
    intro terminal merge step next depth inside continues place
    simp only [mapLimits, result_link, deeper, continues]
  case oneOf =>
    intro name step options depth inside each place
    rw [mapLimits, mapLimitsOf_eq_map, result_oneOf, result_oneOf, deeper]
    exact firstResult_congr (List.forall₂_map_right_iff.2 (List.forall₂_same.2
      fun option member => each option member (step.apply place)))
  case collect =>
    intro name options depth inside each place
    rw [mapLimits, mapLimitsOf_eq_map, result_collect, result_collect, deeper]
    rw [eachResult_congr (List.forall₂_same.2 fun cursor _ => firstResult_congr
      (List.forall₂_map_right_iff.2 (List.forall₂_same.2
        fun option member => each option member (some cursor))))]
  case reference =>
    intro key name maxDepth depth inside follows place
    have same := Bindings.target?_mapLimits change bindings key
    rw [mapLimits]
    cases bound : bindings.target? key with
    | none =>
      rw [bound, Option.map_none] at same
      rw [result_reference_unbound bound, result_reference_unbound same]
    | some target =>
      rw [bound, Option.map_some] at same
      rw [result_reference bound, result_reference same, lowers key name maxDepth inside, deeper]
      by_cases below : depth > maxDepth
      · rw [if_pos below, if_pos (by omega)]
      · rw [if_neg below, if_neg (by omega)]
        exact follows target bound (by omega) place

/-- A graph gives the same from a lower start if the greatest depths of all its references are
lowered as far; and a graph without references gives the same at every depth. -/
theorem depth_is_relative (bindings : Bindings) (pattern : Pattern) (place : Option Cursor)
    (depth levels : Int) :
    result (bindings.mapLimits (· + levels)) (pattern.mapLimits (· + levels)) place
        (depth + levels) = result bindings pattern place depth ∧
      ((∀ key name maxDepth, ¬ bindings.InGraph pattern (.reference key name maxDepth)) →
        result bindings pattern place (depth + levels) = result bindings pattern place depth) := by
  have inside : bindings.InGraph pattern pattern := .own (self_mem_parts pattern)
  refine ⟨result_mapLimits (fun _ _ _ _ => rfl) inside place depth, fun free => ?_⟩
  -- Without references there is no greatest depth to lower, so leaving all as they are will do.
  have lowers : ∀ key name maxDepth, bindings.InGraph pattern (.reference key name maxDepth) →
      id maxDepth = maxDepth + levels := fun key name maxDepth reaches =>
    absurd reaches (free key name maxDepth)
  have same := result_mapLimits lowers inside place depth
  rwa [mapLimits_id, Bindings.mapLimits_id] at same

/-- A list with the lists in it, as far down as a greatest depth. -/
def nestedList (maxDepth : Int) : Pattern :=
  link (.plain "list") rightWins .firstChild (collect "list" [reference 0 "list" maxDepth])

/-- Three lists, one inside the other. -/
def threeLists : Element := .mk "list" [] [.mk "list" [] [.mk "list" [] []]]

/-- A list in a list is cut off by its own limit, whatever the depth at the start. -/
theorem depth_is_relative_nestedList :
    result ⟨[(0, nestedList 9)]⟩ (nestedList 9) (some (.root threeLists)) 7 =
        .ok (some { kind := "list", items := some [{ kind := "list", items := some [] }] }) ∧
      result ⟨[(0, nestedList 2)]⟩ (nestedList 2) (some (.root threeLists)) 7 =
        .ok (some { kind := "list", items := some [] }) ∧
      result {} (element (.plain "list")) (some (.root threeLists)) 7 =
        .ok (some { kind := "list" }) := by
  have free : ∀ key name maxDepth,
      ¬ Bindings.InGraph {} (element (.plain "list")) (.reference key name maxDepth) := by
    rintro key name maxDepth (member | ⟨_, bound, _⟩)
    · simp [element, parts] at member
    · cases bound
  refine ⟨?_, rfl, ?_⟩
  · exact (depth_is_relative ⟨[(0, nestedList 2)]⟩ (nestedList 2) (some (.root threeLists)) 0 7).1
  · exact (depth_is_relative {} (element (.plain "list")) (some (.root threeLists)) 0 7).2 free

end Pattern

end SchemaTypes
