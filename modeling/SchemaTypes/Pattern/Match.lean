import SchemaTypes.Node.Kind
import SchemaTypes.Pattern.Trace

/-!
# Matching

Matching a pattern at a place gives a node or nothing. Matchers pass over remarks to the next
element that is none, and collections leave remarks out, so remarks never stand in the way. The
depth grows with every step into a pattern, and references are followed only down to their greatest
depth, so matching ends for every pattern and every document.

One definition serves for the result alone and for the trace: `record` says what to do with an
event, and with a record that keeps nothing there is no trace.
-/

namespace SchemaTypes.Pattern

/-- Matching that may meet a defect of the patterns and keeps a record of type `σ`. -/
abbrev Matching (σ : Type) := StateT σ (Except Fault)

/-- What to do with an event at a depth. -/
abbrev Recorder (σ : Type) := Int → Event → σ → σ

/-- Keeps nothing. -/
def silent : Recorder Unit := fun _ _ _ => ()

/-- Keeps everything. -/
def tracing : Recorder Trace := fun depth event trace => (depth, event) :: trace

variable {σ : Type} (record : Recorder σ)

/-- Records an event. -/
def note (depth : Int) (event : Event) : Matching σ Unit := modify (record depth event)

/-- Tests the element at a place and builds a node from it. -/
def testTerminal (terminal : Terminal) (place : Option Cursor) (depth : Int) :
    Matching σ (Option Node) := do
  match place with
  | none =>
    note record depth (.tested terminal.name none false)
    return none
  | some cursor =>
    let found := cursor.element.localName? = some terminal.tag
    note record depth (.tested terminal.name (sight place) found)
    if found then terminal.build cursor else return none

/-- Gathers what a visit gives for each of several cursors, in order. -/
def gather (visit : Cursor → Matching σ (Option Node)) : List Cursor → Matching σ (List Node)
  | [] => return []
  | cursor :: rest => do
    let item? ← visit cursor
    let items ← gather visit rest
    return item?.toList ++ items

/-- How a bound reference goes on: the target at a place and a depth. -/
abbrev Follow (σ : Type) := Pattern → Option Cursor → Int → Matching σ (Option Node)

mutual

/-- Matches a pattern at a place, with a function that follows references. -/
def matchWith (bindings : Bindings) (follow : Follow σ) :
    Pattern → Option Cursor → Int → Matching σ (Option Node)
  | single terminal _, place, depth => do
    let here := place.bind Cursor.skipRemarks?
    let own? ← testTerminal record terminal here (depth + 1)
    note record depth (.matched matcherName terminal.tag (sight here) (own?.map (·.kind)))
    return own?
  | link terminal merge step next, place, depth => do
    let here := place.bind Cursor.skipRemarks?
    let own? ← testTerminal record terminal here (depth + 1)
    note record depth (.matched matcherName terminal.tag (sight here) (own?.map (·.kind)))
    match own? with
    | none => return none
    | some own =>
      match ← matchWith bindings follow next (step.apply here) (depth + 1) with
      | some result => return merge own result
      | none =>
        note record depth (.continuationFailed matcherName terminal.name)
        return none
  | oneOf _ step options, place, depth => do
    let target := step.apply place
    note record depth (.choosing (options.map name) (sight place) (sight target))
    matchFirst bindings follow options target depth 1
  | collect _ options, place, depth => do
    note record depth (.collecting (options.map name) (sight place))
    let cursors := (place.map Cursor.withFollowing).getD []
    let items ← gather (fun cursor => do
      note record depth (.sibling (sight (some cursor)))
      if cursor.element.isRemark then return none
      else matchFirst bindings follow options (some cursor) depth 0) cursors
    return some { kind := Kind.collection, items := some items }
  | reference key name maxDepth, place, depth => do
    match bindings.target? key with
    | none => throw (.unboundReference name)
    | some target =>
      if depth > maxDepth then
        note record depth (.tooDeep name maxDepth (sight place))
        return none
      else follow target place (depth + 1)

/-- Matches the first of several patterns that matches, counting them from a number on. -/
def matchFirst (bindings : Bindings) (follow : Follow σ) :
    List Pattern → Option Cursor → Int → Nat → Matching σ (Option Node)
  | [], _, _, _ => return none
  | option :: rest, place, depth, count => do
    note record depth (.trying option count)
    match ← matchWith bindings follow option place (depth + 1) with
    | some result => return some result
    | none => matchFirst bindings follow rest place depth (count + 1)

end

/-- Matches a pattern, following references one inside the other up to a number of times. -/
def matchWithin (bindings : Bindings) : Nat → Follow σ
  | 0 => matchWith record bindings fun _ _ _ => return none
  | left + 1 => matchWith record bindings (matchWithin bindings left)

/-- How often references can be followed one inside the other from a depth on: each time the depth
grows, and none is followed below the greatest of the greatest depths. -/
def followable (limits : List Int) (depth : Int) : Nat :=
  limits.foldl (fun most limit => max most (limit + 1 - depth).toNat) 0

/-- Matches a pattern at a place and a depth. -/
def matchAt (bindings : Bindings) (pattern : Pattern) (place : Option Cursor) (depth : Int) :
    Matching σ (Option Node) :=
  matchWithin record bindings (followable (bindings.depthLimits pattern) depth) pattern place depth

/-- The result of matching a pattern at a place and a depth. -/
def result (bindings : Bindings) (pattern : Pattern) (place : Option Cursor) (depth : Int) :
    Except Fault (Option Node) :=
  (matchAt silent bindings pattern place depth).run' ()

/-- The result of matching together with the trace. -/
def traced (bindings : Bindings) (pattern : Pattern) (place : Option Cursor) (depth : Int) :
    Except Fault (Option Node × Trace) :=
  (matchAt tracing bindings pattern place depth).run []

end SchemaTypes.Pattern
