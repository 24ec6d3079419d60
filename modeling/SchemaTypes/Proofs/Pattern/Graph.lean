import SchemaTypes.Pattern

/-!
# Graphs of patterns

A pattern and the targets of references make up a graph. What is asked of a graph is asked of every
part of it: of the pattern, of everything it is put together from, and of the same for each target.
A cycle of the graph passes through a reference, since a pattern by itself is a finite tree.
-/

namespace SchemaTypes

namespace Pattern

/-- Induction over a pattern, where the options of alternatives and collections are known to have
the property as well. -/
@[induction_eliminator]
theorem induction {motive : Pattern → Prop}
    (single : ∀ terminal merge, motive (.single terminal merge))
    (link : ∀ terminal merge step next, motive next → motive (.link terminal merge step next))
    (oneOf : ∀ name step options, (∀ option ∈ options, motive option) →
      motive (.oneOf name step options))
    (collect : ∀ name options, (∀ option ∈ options, motive option) →
      motive (.collect name options))
    (reference : ∀ key name maxDepth, motive (.reference key name maxDepth))
    (pattern : Pattern) : motive pattern :=
  @Pattern.rec motive (fun options => ∀ option ∈ options, motive option)
    single link oneOf collect reference (by simp)
    (fun _ _ first rest => List.forall_mem_cons.2 ⟨first, rest⟩) pattern

mutual

/-- The pattern and everything it is put together from, targets of references left out. -/
def parts : Pattern → List Pattern
  | single terminal merge => [single terminal merge]
  | link terminal merge step next => link terminal merge step next :: next.parts
  | oneOf name step options => oneOf name step options :: partsOf options
  | collect name options => collect name options :: partsOf options
  | reference key name maxDepth => [reference key name maxDepth]

/-- The parts of several patterns. -/
def partsOf : List Pattern → List Pattern
  | [] => []
  | pattern :: rest => pattern.parts ++ partsOf rest

end

/-- The parts of several patterns are the parts of each. -/
theorem mem_partsOf {part : Pattern} {options : List Pattern} :
    part ∈ partsOf options ↔ ∃ option ∈ options, part ∈ option.parts := by
  induction options with
  | nil => simp [partsOf]
  | cons option rest inductionHypothesis => simp [partsOf, inductionHypothesis]

/-- A pattern is a part of itself. -/
theorem self_mem_parts (pattern : Pattern) : pattern ∈ pattern.parts := by
  cases pattern <;> simp [parts]

/-- A part of a part is a part. -/
theorem mem_parts_trans {inner part pattern : Pattern} (inside : inner ∈ part.parts)
    (member : part ∈ pattern.parts) : inner ∈ pattern.parts := by
  induction pattern with
  | single terminal merge =>
    rw [parts, List.mem_singleton] at member
    exact member ▸ inside
  | link terminal merge step next inductionHypothesis =>
    rcases List.mem_cons.1 member with rfl | below
    · exact inside
    · exact List.mem_cons_of_mem _ (inductionHypothesis below)
  | oneOf name step options inductionHypothesis
  | collect name options inductionHypothesis =>
    rcases List.mem_cons.1 member with rfl | below
    · exact inside
    · obtain ⟨option, isOption, inOption⟩ := mem_partsOf.1 below
      exact List.mem_cons_of_mem _
        (mem_partsOf.2 ⟨option, isOption, inductionHypothesis option isOption inOption⟩)
  | reference key name maxDepth =>
    rw [parts, List.mem_singleton] at member
    exact member ▸ inside

/-- Whether all parts of a pattern have a property. -/
def AllParts (property : Pattern → Prop) (pattern : Pattern) : Prop :=
  ∀ part ∈ pattern.parts, property part

section AllParts

variable {property : Pattern → Prop}

@[simp]
theorem allParts_single {terminal : Terminal} {merge : Merger} :
    AllParts property (single terminal merge) ↔ property (single terminal merge) := by
  simp [AllParts, parts]

/-- The parts of a matcher with a continuation are that itself and those of the continuation. -/
@[simp]
theorem allParts_link {terminal : Terminal} {merge : Merger} {step : Step} {next : Pattern} :
    AllParts property (link terminal merge step next) ↔
      property (link terminal merge step next) ∧ AllParts property next := by
  simp [AllParts, parts]

/-- Something holds of the parts of several patterns if it holds of all parts of each. -/
theorem forall_mem_partsOf {options : List Pattern} :
    (∀ part ∈ partsOf options, property part) ↔ ∀ option ∈ options, AllParts property option := by
  simp only [mem_partsOf, AllParts]
  exact ⟨fun every option member part inside => every part ⟨option, member, inside⟩,
    fun every part ⟨option, member, inside⟩ => every option member part inside⟩

/-- The parts of alternatives are those themselves and the parts of each. -/
@[simp]
theorem allParts_oneOf {name : String} {step : Step} {options : List Pattern} :
    AllParts property (oneOf name step options) ↔
      property (oneOf name step options) ∧ ∀ option ∈ options, AllParts property option := by
  rw [AllParts, parts, List.forall_mem_cons, forall_mem_partsOf]

/-- The parts of a collection are that itself and the parts of each alternative. -/
@[simp]
theorem allParts_collect {name : String} {options : List Pattern} :
    AllParts property (collect name options) ↔
      property (collect name options) ∧ ∀ option ∈ options, AllParts property option := by
  rw [AllParts, parts, List.forall_mem_cons, forall_mem_partsOf]

@[simp]
theorem allParts_reference {key : Nat} {name : String} {maxDepth : Int} :
    AllParts property (reference key name maxDepth) ↔ property (reference key name maxDepth) := by
  simp [AllParts, parts]

end AllParts

/-- The greatest depths in several patterns are those in each. -/
theorem mem_depthLimitsOf {limit : Int} {options : List Pattern} :
    limit ∈ depthLimitsOf options ↔ ∃ option ∈ options, limit ∈ option.depthLimits := by
  induction options with
  | nil => simp [depthLimitsOf]
  | cons option rest inductionHypothesis => simp [depthLimitsOf, inductionHypothesis]

/-- The greatest depth of a reference is among the limits of every pattern it is a part of. -/
theorem mem_depthLimits_of_mem_parts {key : Nat} {name : String} {maxDepth : Int}
    {pattern : Pattern} (member : reference key name maxDepth ∈ pattern.parts) :
    maxDepth ∈ pattern.depthLimits := by
  induction pattern with
  | single terminal merge => simp [parts] at member
  | link terminal merge step next inductionHypothesis =>
    rcases List.mem_cons.1 member with same | below
    · cases same
    · exact inductionHypothesis below
  | oneOf name step options inductionHypothesis
  | collect name options inductionHypothesis =>
    rcases List.mem_cons.1 member with same | below
    · cases same
    · obtain ⟨option, isOption, inOption⟩ := mem_partsOf.1 below
      exact mem_depthLimitsOf.2 ⟨option, isOption, inductionHypothesis option isOption inOption⟩
  | reference key name maxDepth =>
    rw [parts, List.mem_singleton, reference.injEq] at member
    simp [depthLimits, member.2.2]

/-- The terminal of a matcher. -/
def terminal? : Pattern → Option Terminal
  | single terminal _ | link terminal .. => some terminal
  | _ => none

end Pattern

namespace Bindings

variable {bindings : Bindings} {pattern part target : Pattern} {key : Nat}

theorem mem_targets_of_target? (bound : bindings.target? key = some target) :
    (key, target) ∈ bindings.targets := by
  obtain ⟨before, after, joined, _⟩ := List.lookup_eq_some_iff.1 bound
  rw [joined]
  simp

/-- The depth limits of a target's graph are among those of every graph that it belongs to. -/
theorem mem_depthLimits_of_target? {limit : Int} (bound : bindings.target? key = some target)
    (member : limit ∈ bindings.depthLimits target) : limit ∈ bindings.depthLimits pattern := by
  refine List.mem_append_right _ ?_
  rcases List.mem_append.1 member with own | others
  · exact List.mem_flatMap.2 ⟨_, mem_targets_of_target? bound, own⟩
  · exact others

/-- The same references, bound to what a change makes of their targets. -/
def mapTargets (change : Pattern → Pattern) (bindings : Bindings) : Bindings :=
  ⟨bindings.targets.map fun (key, target) => (key, change target)⟩

/-- Changing all targets changes the target of a reference. -/
theorem target?_mapTargets (change : Pattern → Pattern) (bindings : Bindings) (key : Nat) :
    (bindings.mapTargets change).target? key = (bindings.target? key).map change := by
  rw [target?, target?, mapTargets]
  induction bindings.targets with
  | nil => rfl
  | cons entry rest inductionHypothesis =>
    rw [List.map_cons, List.lookup_cons, List.lookup_cons, inductionHypothesis]
    split <;> rfl

/-- The parts of a pattern and of the targets its references lead to, one after the other. -/
inductive InGraph (bindings : Bindings) (pattern : Pattern) : Pattern → Prop where
  /-- A part of the pattern itself. -/
  | own {part : Pattern} (member : part ∈ pattern.parts) : InGraph bindings pattern part
  /-- A part of the target that a reference in the graph is bound to. -/
  | followed {key : Nat} {name : String} {maxDepth : Int} {target part : Pattern}
      (reaches : InGraph bindings pattern (.reference key name maxDepth))
      (bound : bindings.target? key = some target) (member : part ∈ target.parts) :
      InGraph bindings pattern part

/-- A graph holds all parts of what it holds. -/
theorem InGraph.of_mem_parts {whole : Pattern} (inside : InGraph bindings pattern whole)
    (member : part ∈ whole.parts) : InGraph bindings pattern part := by
  cases inside with
  | own inPattern => exact .own (Pattern.mem_parts_trans member inPattern)
  | followed reaches bound inTarget =>
    exact .followed reaches bound (Pattern.mem_parts_trans member inTarget)

/-- A graph holds the targets of its references. -/
theorem InGraph.of_target? {name : String} {maxDepth : Int}
    (inside : InGraph bindings pattern (.reference key name maxDepth))
    (bound : bindings.target? key = some target) : InGraph bindings pattern target :=
  .followed inside bound (Pattern.self_mem_parts target)

/-- A graph holds what follows on a matcher. -/
theorem InGraph.next {terminal : Terminal} {merge : Merger} {step : Step} {next : Pattern}
    (inside : InGraph bindings pattern (.link terminal merge step next)) :
    InGraph bindings pattern next :=
  inside.of_mem_parts (List.mem_cons_of_mem _ (Pattern.self_mem_parts next))

/-- A graph holds the options of its alternatives. -/
theorem InGraph.option {name : String} {step : Step} {options : List Pattern} {option : Pattern}
    (inside : InGraph bindings pattern (.oneOf name step options)) (member : option ∈ options) :
    InGraph bindings pattern option :=
  inside.of_mem_parts (List.mem_cons_of_mem _
    (Pattern.mem_partsOf.2 ⟨option, member, Pattern.self_mem_parts option⟩))

/-- A graph holds the options of its collections. -/
theorem InGraph.item {name : String} {options : List Pattern} {option : Pattern}
    (inside : InGraph bindings pattern (.collect name options)) (member : option ∈ options) :
    InGraph bindings pattern option :=
  inside.of_mem_parts (List.mem_cons_of_mem _
    (Pattern.mem_partsOf.2 ⟨option, member, Pattern.self_mem_parts option⟩))

end Bindings

end SchemaTypes
