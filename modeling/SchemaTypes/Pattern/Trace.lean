import SchemaTypes.Log
import SchemaTypes.Pattern

/-!
# Trace of a match

Matching leaves a trace of everything that is tried, each event at the depth it happens at. The log
shows an event behind two blanks for each level of depth.
-/

namespace SchemaTypes.Pattern

/-- The local name of the element at a place, none where there is no element. -/
abbrev Sight := Option String

/-- What is at a place. -/
def sight (place : Option Cursor) : Sight := place.bind (·.element.localName?)

/-- One thing that happened while matching. -/
inductive Event where
  /-- A terminal looked at a place. -/
  | tested (terminal : String) (place : Sight) (found : Bool)
  /-- A matcher has its own result, by kind. -/
  | matched (name tag : String) (place : Sight) (kind : Option String)
  /-- The continuation of a matcher did not match. -/
  | continuationFailed (name terminal : String)
  /-- Alternatives are about to be tried at a target. -/
  | choosing (options : List String) (place target : Sight)
  /-- One alternative is about to be tried. -/
  | trying (option : Pattern) (count : Nat)
  /-- A collection begins. -/
  | collecting (options : List String) (place : Sight)
  /-- A collection comes to a sibling. -/
  | sibling (place : Sight)
  /-- A reference is too deep to be followed. -/
  | tooDeep (name : String) (maxDepth : Int) (place : Sight)

/-- A sight as the log shows it. -/
def showSight : Sight → String
  | none | some "" => "-"
  | some name => name

/-- Two blanks for each level of depth. -/
def indentation (depth : Int) : String := String.ofList (List.replicate (2 * depth.toNat) ' ')

/-- The event as the log shows it. -/
def Event.message (depth : Int) : Event → String
  | .tested terminal place found =>
    indentation depth ++ "Terminal: " ++ terminal ++ ", node: " ++ showSight place ++ ", found: "
      ++ if found then "True" else "False"
  | .matched name tag place kind =>
    indentation depth ++ name ++ " " ++ tag ++ " node: " ++ showSight place ++ " match: "
      ++ kind.getD "None"
  | .continuationFailed name terminal =>
    indentation depth ++ "no next result " ++ name ++ " " ++ terminal
  | .choosing options place target =>
    indentation depth ++ "ONE OF: " ++ ",".intercalate options ++ " " ++ showSight place ++ " "
      ++ showSight target
  | .trying option count =>
    indentation depth ++ " try: " ++ option.label ++ " #" ++ toString count
  | .collecting options place =>
    indentation depth ++ "Collect all: " ++ ",".intercalate options ++ " " ++ showSight place
  | .sibling place => indentation depth ++ "list sibling: " ++ showSight place
  | .tooDeep name maxDepth place =>
    indentation depth ++ name ++ ": depth " ++ toString depth ++ " exceeds max_depth "
      ++ toString maxDepth ++ ", node: " ++ showSight place

/-- Events with their depths, last first. -/
abbrev Trace := List (Int × Event)

/-- The trace as log lines. -/
def Trace.lines (trace : Trace) : List Log.Line :=
  trace.reverse.map fun (depth, event) => ⟨.debug, .matching, event.message depth⟩

end SchemaTypes.Pattern
