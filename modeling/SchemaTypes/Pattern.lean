import SchemaTypes.Cursor
import SchemaTypes.Node.Wire

/-!
# Patterns

A pattern describes a piece of a document and what to build from it. A matcher accepts one element
and may hand on to a continuation, on the same element or on its first child. Alternatives are
tried in order, and a collection gathers what its alternatives make of each sibling. Recursion goes
through references, which are bound to their targets after everything else is built, so a pattern
by itself is a finite tree.
-/

namespace SchemaTypes

open SchemaTypes.Text

/-- A defect of the patterns in use, as opposed to input that they do not match. -/
inductive Fault where
  /-- A reference was followed before it was bound. -/
  | unboundReference (name : String)
  /-- A constructor put something into an attribute that cannot hold it. -/
  | construction (error : Node.WireError)
  deriving DecidableEq, Repr

/-- The defect in words. -/
def Fault.message : Fault → String
  | .unboundReference name => "Proxy '" ++ name ++ "' parsed before its target was set"
  | .construction error => error.message

/-- Builds a node from an accepted element, or rejects the element after all. -/
abbrev Constructor := Cursor → Except Fault (Option Node)

/-- Combines what a matcher built with what its continuation built, or rejects both. -/
abbrev Merger := Node → Node → Option Node

/-- A test for a tag and a constructor. The name is the tag, followed by a colon and a label where
several terminals share a tag. -/
structure Terminal where
  name : String
  build : Constructor

namespace Terminal

/-- The tag a terminal's name stands for: the part in front of its first colon. -/
def tagOf (name : String) : String :=
  match cut? ':' name.toList with
  | some (before, _) => String.ofList before
  | none => name

/-- The local name of the elements a terminal accepts. -/
def tag (terminal : Terminal) : String := tagOf terminal.name

/-- A terminal that builds a node of its tag's kind. -/
def plain (name : String) : Terminal := ⟨name, fun _ => .ok (some { kind := tagOf name })⟩

/-- A terminal with a constructor that has no defects. -/
def building (name : String) (build : Cursor → Option Node) : Terminal :=
  ⟨name, fun cursor => .ok (build cursor)⟩

/-- A terminal as the log shows it. -/
def label (terminal : Terminal) : String := "Terminal(" ++ quoted terminal.name ++ ")"

end Terminal

/-- Where a continuation runs, seen from the element that was matched. -/
inductive Step where
  | same
  | firstChild
  deriving DecidableEq, Repr

/-- The place a step leads to. -/
def Step.apply (step : Step) (place : Option Cursor) : Option Cursor :=
  match step with
  | .same => place
  | .firstChild => place.bind Cursor.firstChild?

/-- A description of a piece of a document. -/
inductive Pattern where
  /-- One element. The merger is for a continuation that may be added. -/
  | single (terminal : Terminal) (merge : Merger)
  /-- One element and then a continuation that has to match as well. -/
  | link (terminal : Terminal) (merge : Merger) (step : Step) (next : Pattern)
  /-- The first of several patterns that matches. -/
  | oneOf (name : String) (step : Step) (options : List Pattern)
  /-- What the first matching pattern builds, for each sibling from the place on. -/
  | collect (name : String) (options : List Pattern)
  /-- A pattern that is bound later, followed down to a greatest depth. -/
  | reference (key : Nat) (name : String) (maxDepth : Int)

namespace Pattern

/-- The name of every matcher. -/
def matcherName : String := "MATCH"

/-- The name of alternatives that were not given one. -/
def oneOfName : String := "ONE OF"

/-- The name a pattern goes by among alternatives. -/
def name : Pattern → String
  | single .. | link .. => matcherName
  | oneOf name .. | collect name _ | reference _ name _ => name

/-- The word for the form of a pattern. -/
def form : Pattern → String
  | single .. | link .. => "Matcher"
  | oneOf .. => "OneOf"
  | collect .. => "Sibblings"
  | reference .. => "Proxy"

/-- The name that tells a pattern from others of its form. -/
def ownName : Pattern → String
  | single terminal _ | link terminal .. => terminal.name
  | oneOf name .. | collect name _ | reference _ name _ => name

/-- A pattern as the log shows it. -/
def label (pattern : Pattern) : String :=
  pattern.form ++ "(" ++ quoted pattern.ownName ++ ")"

/-- The default merger: what the continuation carries wins. -/
def rightWins : Merger := fun left right => some (left.merge right none)

/-- A pattern for one element. -/
def element (terminal : Terminal) (merge : Merger := rightWins) : Pattern := single terminal merge

/-- Alternatives on the same element. -/
def anyOf (options : List Pattern) : Pattern := oneOf oneOfName .same options

/-- A pattern and its continuations, in order. -/
def chain : Pattern → List Pattern
  | link terminal merge step next => link terminal merge step next :: next.chain
  | pattern => [pattern]

/-- A continuation was added behind a pattern that cannot have one. -/
structure ChainError where
  form : String
  name : String
  continuation : String
  deriving DecidableEq, Repr

/-- The error in words. -/
def ChainError.message (error : ChainError) : String :=
  error.form ++ " '" ++ error.name ++ "' cannot be followed by '" ++ error.continuation ++ "'"

/-- Adds a continuation at the end of the chain. Only a matcher can be followed. -/
def followedBy (step : Step) (continuation : Pattern) : Pattern → Except ChainError Pattern
  | single terminal merge => .ok (link terminal merge step continuation)
  | link terminal merge between next =>
    (followedBy step continuation next).map (link terminal merge between)
  | last => .error ⟨last.form, last.name, continuation.name⟩

/-- A continuation of a chain, before its place in the chain is known. -/
inductive Continuation where
  /-- An element that has to match at the end of a step. -/
  | element (step : Step) (terminal : Terminal) (merge : Merger)
  /-- Alternatives at the end of a step. -/
  | oneOf (step : Step) (options : List Pattern)
  /-- A collection of the children. -/
  | children (options : List Pattern)

/-- The step a continuation begins with. -/
def Continuation.step : Continuation → Step
  | .element step .. | .oneOf step _ => step
  | .children _ => .firstChild

/-- The pattern of a continuation. A collection goes by the name of the pattern it is added to. -/
def Continuation.pattern (owner : Pattern) : Continuation → Pattern
  | .element _ terminal merge => .single terminal merge
  | .oneOf _ options => anyOf options
  | .children options => collect owner.name options

/-- The pattern with a continuation at the end of its chain. -/
def extend (pattern : Pattern) (continuation : Continuation) : Except ChainError Pattern :=
  followedBy continuation.step (continuation.pattern pattern) pattern

/-- A call that continues a chain. -/
inductive Builder where
  /-- The first child has to match. -/
  | child (terminal : Terminal) (merge : Merger)
  /-- The same element has to match again. -/
  | sameElement (terminal : Terminal) (merge : Merger)
  /-- The children are collected. -/
  | children (options : List Pattern)
  /-- The same element has to match one of several. -/
  | oneOf (options : List Pattern)
  /-- The first child has to match one of several. -/
  | childIsOneOf (options : List Pattern)

/-- The continuation a call adds. -/
def Builder.continuation : Builder → Continuation
  | .child terminal merge => .element .firstChild terminal merge
  | .sameElement terminal merge => .element .same terminal merge
  | .children options => .children options
  | .oneOf options => .oneOf .same options
  | .childIsOneOf options => .oneOf .firstChild options

mutual

/-- The greatest depths of the references in a pattern. -/
def depthLimits : Pattern → List Int
  | single .. => []
  | link _ _ _ next => next.depthLimits
  | oneOf _ _ options | collect _ options => depthLimitsOf options
  | reference _ _ maxDepth => [maxDepth]

/-- The greatest depths of the references in several patterns. -/
def depthLimitsOf : List Pattern → List Int
  | [] => []
  | pattern :: rest => pattern.depthLimits ++ depthLimitsOf rest

end

end Pattern

/-- The targets of references, by key. -/
structure Bindings where
  targets : List (Nat × Pattern) := []

namespace Bindings

/-- The pattern a reference is bound to. -/
def target? (bindings : Bindings) (key : Nat) : Option Pattern := bindings.targets.lookup key

/-- A reference was bound a second time. -/
structure RebindError where
  name : String
  target : String
  deriving DecidableEq, Repr

/-- The error in words. -/
def RebindError.message (error : RebindError) : String :=
  "Proxy '" ++ error.name ++ "' is already bound to " ++ error.target

/-- Binds a reference, which can be done once. -/
def bind (bindings : Bindings) (key : Nat) (name : String) (target : Pattern) :
    Except RebindError Bindings :=
  match bindings.target? key with
  | some old => .error ⟨name, old.label⟩
  | none => .ok ⟨(key, target) :: bindings.targets⟩

/-- The greatest depths of the references in a pattern and in all targets. -/
def depthLimits (bindings : Bindings) (pattern : Pattern) : List Int :=
  pattern.depthLimits ++ bindings.targets.flatMap fun (_, target) => target.depthLimits

end Bindings

end SchemaTypes
